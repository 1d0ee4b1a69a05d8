import SlaifGateway.Tools.ExternalToolPolicy
import Mathlib.Data.List.Forall2

/-! The admission decision against the request it was made for. A client-operated
declaration is client-operated all the way down its namespaces; a fenced admission has
passed every list and cap; declaring more tools never turns a denial into an admission. -/
namespace SlaifGateway.Tools
open Library Store

section Namespaces

-- The declarations of a tool: itself and, in a namespace, those of its children.
inductive Inside : Json → Json → Prop where
  | self (v : Json) : Inside v v
  | child {v c d : Json} {children : List Json} (ns : isNamespace v = true) (tools : v.field "tools" = .arr children)
      (mem : c ∈ children) (deeper : Inside c d) : Inside v d

def pushed (children : List Json) (depth : Nat) : List (Json × Nat) :=
  ((children.filter isNamespace).map fun c => (c,depth + 1)).reverse

theorem loopCons {ns depth stack count} : namespaceLoop ((ns,depth) :: stack) count = true ↔
    depth ≤ maxNamespaceDepth ∧ clientDeclarationControlMarkers "namespace" ns = [] ∧
      isRecognizableClientToolShape "namespace" ns = true ∧ ∃ children, ns.field "tools" = .arr children ∧
        count + children.length ≤ maxNamespaceChildDeclarations ∧ (∀ c ∈ children, childIsAcceptable c = true) ∧
        namespaceLoop (pushed children depth ++ stack) (count + children.length) = true := by
  rw [namespaceLoop]
  split
  · rename_i deep
    simp only [Bool.false_eq_true,false_iff]
    exact fun passed => absurd passed.1 (by omega)
  · rename_i deep
    split
    · rename_i marked
      simp only [Bool.not_eq_true',List.isEmpty_eq_false_iff] at marked
      simp [marked]
    · rename_i unmarked
      have unmarked' : clientDeclarationControlMarkers "namespace" ns = [] := by simpa using unmarked
      split
      · rename_i shapeless
        have shapeless' : isRecognizableClientToolShape "namespace" ns = false := by simpa using shapeless
        simp [shapeless']
      · rename_i shaped
        have shaped' : isRecognizableClientToolShape "namespace" ns = true := by simpa using shaped
        have shallow : depth ≤ maxNamespaceDepth := by omega
        simp only [shallow,unmarked',shaped',true_and]
        split
        · rename_i children found
          simp only [found,Json.arr.injEq,exists_eq_left']
          split
          · rename_i many
            simp only [Bool.false_eq_true,false_iff]
            exact fun passed => absurd passed.1 (by omega)
          · rename_i few
            split
            · rename_i unacceptable
              simp only [Bool.false_eq_true,false_iff]
              intro passed
              have all : children.all childIsAcceptable = true := List.all_eq_true.mpr passed.2.1
              simp [all] at unacceptable
            · rename_i acceptable
              have all : ∀ c ∈ children, childIsAcceptable c = true := by simpa using acceptable
              have room : count + children.length ≤ maxNamespaceChildDeclarations := by omega
              exact ⟨fun rest => ⟨room,all,rest⟩,fun passed => passed.2.2⟩
        · rename_i other
          simp only [Bool.false_eq_true,false_iff]
          rintro ⟨children,found,-⟩
          exact other children found

-- Fewer namespaces, nested less deeply and counted from less, pass whenever the others do.
def Lighter (a b : Json × Nat) : Prop := a.1 = b.1 ∧ a.2 ≤ b.2

theorem lighterRefl (stack : List (Json × Nat)) : List.SublistForall₂ Lighter stack stack := by
  induction stack with
  | nil => exact .nil
  | cons e rest ih => exact .cons ⟨rfl,Nat.le_refl _⟩ ih

theorem lighterSkip {fewer stack : List (Json × Nat)} (more : List (Json × Nat))
    (sub : List.SublistForall₂ Lighter fewer stack) : List.SublistForall₂ Lighter fewer (more ++ stack) := by
  induction more with
  | nil => exact sub
  | cons e rest ih => exact .cons_right ih

theorem lighterPrepend {f g : Json → Json × Nat} (each : ∀ c, Lighter (f c) (g c)) (xs : List Json)
    {fewer stack : List (Json × Nat)} (sub : List.SublistForall₂ Lighter fewer stack) :
    List.SublistForall₂ Lighter (xs.map f ++ fewer) (xs.map g ++ stack) := by
  induction xs with
  | nil => exact sub
  | cons x rest ih => exact .cons (each x) ih

theorem lighterPushed {children depth shallower} (le : shallower ≤ depth) {fewer stack : List (Json × Nat)}
    (sub : List.SublistForall₂ Lighter fewer stack) :
    List.SublistForall₂ Lighter (pushed children shallower ++ fewer) (pushed children depth ++ stack) := by
  unfold pushed
  rw [← List.map_reverse,← List.map_reverse]
  have each : ∀ c : Json, Lighter (c,shallower + 1) (c,depth + 1) := fun c => ⟨rfl,Nat.succ_le_succ le⟩
  exact lighterPrepend each _ sub

theorem loopLighter (stack : List (Json × Nat)) (count : Nat) (passed : namespaceLoop stack count = true) :
    ∀ fewer less, List.SublistForall₂ Lighter fewer stack → less ≤ count → namespaceLoop fewer less = true := by
  fun_induction namespaceLoop stack count with
  | case1 count =>
    intro fewer less sub _
    cases sub
    rw [namespaceLoop]
  | case7 ns depth stack count deep marked shapeless children found few acceptable ih =>
    intro fewer less sub le
    cases sub with
    | nil => rw [namespaceLoop]
    | cons lighter rest =>
      rename_i e fewer
      obtain ⟨own,shallower⟩ := e
      obtain ⟨same,shallow⟩ := lighter
      cases same
      refine loopCons.mpr ⟨?_,by simpa using marked,by simpa using shapeless,children,found,by omega,
        by simpa using acceptable,?_⟩
      · exact Nat.le_trans shallow (by omega)
      · exact ih passed _ _ (lighterPushed shallow rest) (by omega)
    | cons_right rest => exact ih passed _ _ (lighterSkip _ rest) (by omega)
  | _ => cases passed

theorem childClean {v c : Json} {children} (passed : namespaceChildrenAreClientOperated v = true)
    (tools : v.field "tools" = .arr children) (mem : c ∈ children) :
    childIsAcceptable c = true ∧ (isNamespace c = true → namespaceChildrenAreClientOperated c = true) := by
  obtain ⟨-,-,-,own,found,-,acceptable,rest⟩ := loopCons.mp passed
  cases tools.symm.trans found
  refine ⟨acceptable c mem,fun ns => ?_⟩
  refine loopLighter _ _ rest _ _ ?_ (Nat.zero_le _)
  have listed : (c,2) ∈ pushed children 1 := by
    simp only [pushed,List.mem_reverse,List.mem_map,List.mem_filter]
    exact ⟨c,⟨mem,ns⟩,rfl⟩
  rw [List.append_nil]
  obtain ⟨front,back,split⟩ := List.append_of_mem listed
  rw [split]
  exact lighterSkip front (.cons ⟨rfl,Nat.le_succ 1⟩ .nil)
end Namespaces

section Declarations

theorem aliasClean {t : String} (mem : t ∈ clientToolAliases) : ¬(t = "" ∨ t ≠ strip t) := by
  simp only [clientToolAliases,List.mem_cons,List.not_mem_nil,or_false] at mem
  rcases mem with rfl | rfl | rfl | rfl | rfl <;> decide

def ClientOperated (v : Json) : Prop := (classifyToolDeclaration v).authorityClass = .clientOperated

structure ClientShape (v : Json) (t : String) : Prop where
  known : t ∈ clientToolAliases
  typed : typeOf v = some t
  mapping : v.isMapping = true
  unmarked : clientDeclarationControlMarkers t v = []
  shaped : isRecognizableClientToolShape t v = true
  children : t = "namespace" → namespaceChildrenAreClientOperated v = true

theorem clientClassified {v t} (h : ClientShape v t) :
    classifyToolDeclaration v = ⟨.clientOperated,none,none,false,false,"client_operated_tool"⟩ := by
  unfold classifyToolDeclaration
  have passed : (t = "namespace" && !namespaceChildrenAreClientOperated v) = false := by
    by_cases ns : t = "namespace"
    · simp [ns,h.children ns]
    · simp [ns]
  simp only [h.mapping,h.typed,aliasClean h.known,h.known,h.unmarked,h.shaped,passed,Bool.not_true,Bool.false_eq_true,
    if_false,if_true,List.isEmpty_nil]

-- Every declaration is unknown, client-operated or a provider tool of a type of its own.
theorem declarationCases (v : Json) : (classifyToolDeclaration v).authorityClass = .unknownExternal ∨
    (∃ t, ClientShape v t) ∨
    ((classifyToolDeclaration v).authorityClass = .providerExternal ∧ (classifyToolDeclaration v).capabilityId.isSome = true ∧
      (classifyToolDeclaration v).destinationId = none ∧ typeOf v ≠ some "namespace") := by
  unfold classifyToolDeclaration
  split
  · exact .inl rfl
  · rename_i mapping
    split
    · exact .inl rfl
    · rename_i t typed
      split
      · exact .inl rfl
      · split
        · rename_i known
          split
          · exact .inl rfl
          · rename_i unmarked
            split
            · exact .inl rfl
            · rename_i shaped
              split
              · exact .inl rfl
              · rename_i children
                refine .inr (.inl ⟨t,known,typed,by simpa using mapping,by simpa using unmarked,by simpa using shaped,?_⟩)
                intro ns
                simpa [ns] using children
        · rename_i foreign
          have other : typeOf v ≠ some "namespace" := by
            rw [typed]
            rintro same
            cases same
            exact foreign (by decide)
          split
          · unfold classifyWireMcp
            dsimp only
            split
            · exact .inl rfl
            · exact .inr (.inr ⟨rfl,rfl,rfl,other⟩)
          · split
            · split
              · exact .inl rfl
              · exact .inr (.inr ⟨rfl,rfl,rfl,other⟩)
            · exact .inl rfl

theorem clientIff {v : Json} : ClientOperated v ↔ ∃ t, ClientShape v t := by
  constructor
  · intro client
    rcases declarationCases v with unknown | shape | ⟨provider,-⟩
    · simp [ClientOperated,unknown] at client
    · exact shape
    · simp [ClientOperated,provider] at client
  · rintro ⟨t,shape⟩
    simp [ClientOperated,clientClassified shape]

theorem acceptableClient {c : Json} (acceptable : childIsAcceptable c = true)
    (children : isNamespace c = true → namespaceChildrenAreClientOperated c = true) : ClientOperated c := by
  simp only [childIsAcceptable,Bool.and_eq_true,Option.any_eq_true,decide_eq_true_eq] at acceptable
  obtain ⟨mapping,t,typed,known,shape⟩ := acceptable
  by_cases ns : t = "namespace"
  · subst ns
    have inner := children (by simp [isNamespace,mapping,typed])
    obtain ⟨-,unmarked,shaped,-⟩ := loopCons.mp inner
    exact clientIff.mpr ⟨_,known,typed,mapping,unmarked,shaped,fun _ => inner⟩
  · have plain : clientDeclarationControlMarkers t c = [] ∧ isRecognizableClientToolShape t c = true := by
      simpa [ns] using shape
    exact clientIff.mpr ⟨_,known,typed,mapping,plain.1,plain.2,fun same => absurd same ns⟩

theorem insideClient {v d : Json} (inside : Inside v d) : ClientOperated v → ClientOperated d := by
  induction inside with
  | self v => exact id
  | child ns tools mem deeper ih =>
    intro client
    obtain ⟨t,shape⟩ := clientIff.mp client
    have named : t = "namespace" := by
      simp only [isNamespace,Bool.and_eq_true,decide_eq_true_eq] at ns
      exact Option.some.inj (shape.typed.symm.trans ns.2)
    obtain ⟨acceptable,children⟩ := childClean (shape.children named) tools mem
    exact ih (acceptableClient acceptable children)

theorem insideReviewed {v d : Json} (inside : Inside v d)
    (known : (classifyToolDeclaration v).authorityClass ≠ .unknownExternal)
    (reviewed : (classifyToolDeclaration v).unreviewedExternalAuthority = false) :
    (classifyToolDeclaration d).authorityClass ≠ .unknownExternal ∧
      (classifyToolDeclaration d).unreviewedExternalAuthority = false := by
  rcases declarationCases v with unknown | shape | ⟨-,-,-,other⟩
  · exact absurd unknown known
  · obtain ⟨t,shape⟩ := clientIff.mp (insideClient inside (clientIff.mpr shape))
    rw [clientClassified shape]
    exact ⟨by simp,rfl⟩
  · cases inside with
    | self => exact ⟨known,reviewed⟩
    | child ns _ _ _ =>
      simp only [isNamespace,Bool.and_eq_true,decide_eq_true_eq] at ns
      exact absurd ns.2 other
end Declarations

section Checks

@[simp] theorem refuseThen {α : Type} {condition : Bool} {reason : String} {f : Unit → Except String α} {x : α} :
    (refuse condition reason >>= f) = .ok x ↔ condition = false ∧ f () = .ok x := by
  cases condition <;> simp [refuse,bind,Except.bind]

@[simp] theorem requiredThen {α β : Type} {value : Option α} {reason : String} {f : α → Except String β} {x : β} :
    (required value reason >>= f) = .ok x ↔ ∃ a, value = some a ∧ f a = .ok x := by
  cases value <;> simp [required,bind,Except.bind]

variable {request : ClassifiedExternalToolRequest} {keyPolicy : PolicyParseResult ExternalToolKeyPolicy}
  {routePolicy : PolicyParseResult ExternalToolRoutePolicy} {ceilings : ExternalToolOperatorCeilings}
  {keyLimits : ExternalToolKeyLimitFacts}

-- What the checks ask of the request alone, and of the two policies and the key.
structure Presentable (request : ClassifiedExternalToolRequest) (ceilings : ExternalToolOperatorCeilings) : Prop where
  known : request.unknownExternalAuthority = false
  supported : request.unsupportedExternalState = false
  reviewed : request.unreviewedExternalAuthority = false
  approved : request.approvalFloorSatisfied = true
  capabilities : request.capabilities.length ≤ ceilings.maxDistinctCapabilities
  destinations : request.destinationIds.length ≤ ceilings.maxApprovedDestinations
  declarations : request.providerToolDeclarationCount ≤ ceilings.maxProviderToolDeclarationsPerRequest
  calls : request.requestedProviderToolCallsPerRequest ≤ ceilings.maxProviderToolCallsPerRequest
  called : request.requiresProviderToolCalls = true → 0 < request.requestedProviderToolCallsPerRequest

structure Granted (request : ClassifiedExternalToolRequest) (key : ExternalToolKeyPolicy) (route : ExternalToolRoutePolicy)
    (ceilings : ExternalToolOperatorCeilings) : Prop where
  capabilities : ∀ c ∈ request.capabilities, c ∈ key.allowedCapabilities ∧ c ∈ route.supportedCapabilities
  destinations : ∀ d ∈ request.destinationIds, d ∈ key.allowedDestinationIds ∧ d ∈ route.approvedDestinationIds
  addressed : ∀ c ∈ request.capabilities, c.takesDestination = true →
    ∃ d ∈ request.destinationIds, destinationMatchesCapability d c = true
  cap : request.requestedProviderToolCallsPerRequest ≤ effectiveCap ceilings key route

structure Willing (key : ExternalToolKeyPolicy) (route : ExternalToolRoutePolicy) (keyLimits : ExternalToolKeyLimitFacts) :
    Prop where
  fenced : key.mode = .externalToolFenced
  supports : route.supportedCapabilities ≠ []
  evidence : route.callLimitEnforced = true ∧ route.finalUsageRequired = true ∧ route.finalCostRequired = true
  acknowledged : key.singleRequestOverrunAcknowledged = true
  standard : keyLimits.keyPurpose = .standard
  finite : keyLimits.positiveFinite = true

def Parsed {α : Type} (result : PolicyParseResult α) (policy : α) : Prop :=
  result.policy = some policy ∧ result.valid = true ∧ result.present = true

theorem fencedIff {cap} : fencedChecks request keyPolicy routePolicy ceilings keyLimits = .ok cap ↔
    Presentable request ceilings ∧ ∃ key route, Parsed keyPolicy key ∧ Parsed routePolicy route ∧
      Granted request key route ceilings ∧ Willing key route keyLimits ∧ cap = effectiveCap ceilings key route := by
  unfold fencedChecks
  simp only [refuseThen,requiredThen,Option.filter_eq_some_iff,Bool.not_eq_false',decide_eq_false_iff_not,Nat.not_lt,
    Bool.and_eq_false_imp,Bool.or_eq_false_iff,List.isEmpty_eq_false_iff,Bool.and_eq_true,List.all_eq_true,
    decide_eq_true_eq,List.any_eq_false,not_not,ne_eq,pure,Except.pure,Except.ok.injEq]
  constructor
  · rintro ⟨known,supported,reviewed,approved,capabilities,destinations,declarations,calls,called,key,⟨keyFound,keyValid⟩,
      keyPresent,fenced,route,⟨routeFound,routeValid⟩,⟨routePresent,supports⟩,keyCaps,routeCaps,keyDests,routeDests,
      addressed,within,evidence,acknowledged,standard,finite,rfl⟩
    refine ⟨⟨known,supported,reviewed,approved,capabilities,destinations,declarations,calls,fun requires => ?_⟩,key,route,
      ⟨keyFound,keyValid,keyPresent⟩,⟨routeFound,routeValid,by simpa using routePresent⟩,
      ⟨fun c mem => ⟨keyCaps c mem,routeCaps c mem⟩,fun d mem => ⟨keyDests d mem,routeDests d mem⟩,fun c mem takes => ?_,within⟩,
      ⟨fenced,supports,by simpa [and_assoc] using evidence,acknowledged,standard,finite⟩,rfl⟩
    · exact Nat.pos_of_ne_zero (called requires)
    · simpa [takes] using addressed c mem
  · rintro ⟨p,key,route,⟨keyFound,keyValid,keyPresent⟩,⟨routeFound,routeValid,routePresent⟩,granted,willing,rfl⟩
    refine ⟨p.known,p.supported,p.reviewed,p.approved,p.capabilities,p.destinations,p.declarations,p.calls,
      fun requires => Nat.pos_iff_ne_zero.mp (p.called requires),key,⟨keyFound,keyValid⟩,keyPresent,willing.fenced,route,
      ⟨routeFound,routeValid⟩,⟨by simpa using routePresent,willing.supports⟩,fun c mem => (granted.capabilities c mem).1,
      fun c mem => (granted.capabilities c mem).2,fun d mem => (granted.destinations d mem).1,
      fun d mem => (granted.destinations d mem).2,?_,granted.cap,by simpa [and_assoc] using willing.evidence,
      willing.acknowledged,willing.standard,willing.finite,rfl⟩
    rintro c mem ⟨takes,missing⟩
    obtain ⟨d,listed,fits⟩ := granted.addressed c mem takes
    have none : ∀ d ∈ request.destinationIds, destinationMatchesCapability d c = false := by simpa using missing
    simp [none d listed] at fits
end Checks

section Requests
variable {f : RequestFacts} {request : ClassifiedExternalToolRequest}

theorem classifiedEq (classified : classifyExternalToolRequest f = some request) :
    (∀ c, c ∈ request.capabilities ↔ ∃ item ∈ f.classifications, item.capabilityId = some c) ∧
    (∀ d, d ∈ request.destinationIds ↔ ∃ item ∈ f.classifications, item.destinationId = some d) ∧
    request.providerToolDeclarationCount = (f.classifications.filter (·.providerToolDeclaration)).length ∧
    request.unknownExternalAuthority = (f.flagsMalformed || f.reviewedMalformed ||
      f.classifications.any (fun item => item.authorityClass = .unknownExternal) ||
      f.requestedProviderToolCallsPerRequest.natural?.isNone) ∧
    request.unreviewedExternalAuthority = f.classifications.any (·.unreviewedExternalAuthority) ∧
    request.unsupportedExternalState = f.unsupportedExternalState.bool?.getD true := by
  unfold classifyExternalToolRequest at classified
  dsimp only at classified
  split at classified
  · cases classified
    refine ⟨fun c => ?_,fun d => ?_,rfl,rfl,rfl,rfl⟩
    · rw [Capability.sorted,(List.perm_insertionSort _ _).mem_iff,List.mem_dedup,List.mem_filterMap]
    · rw [(List.perm_insertionSort _ _).mem_iff,List.mem_dedup,List.mem_filterMap]
  · cases classified

-- The declared tools are a list, or absent, and satisfy a property throughout.
def EveryDeclaration (f : RequestFacts) (p : Json → Prop) : Prop :=
  f.tools = .null ∨ ∃ tools, f.tools = .arr tools ∧ ∀ v ∈ tools, ∀ d, Inside v d → p d

def Reviewed (v : Json) : Prop :=
  (classifyToolDeclaration v).authorityClass ≠ .unknownExternal ∧
    (classifyToolDeclaration v).unreviewedExternalAuthority = false

theorem declaredKnown (known : ∀ item ∈ f.classifications, item.authorityClass ≠ .unknownExternal) :
    f.tools = .null ∨ ∃ tools, f.tools = .arr tools ∧ f.declared = tools.map classifyToolDeclaration := by
  have own : ∀ item ∈ f.declared, item.authorityClass ≠ .unknownExternal := by
    intro item mem
    exact known item (by simp [RequestFacts.classifications,mem])
  revert own
  unfold RequestFacts.declared
  split
  · exact fun _ => .inl ‹_›
  · exact fun _ => .inr ⟨_,‹_›,rfl⟩
  · intro own
    exact absurd rfl (own _ (List.mem_singleton.mpr rfl))

theorem choiceKnown (known : ∀ item ∈ f.classifications, item.authorityClass ≠ .unknownExternal) :
    (classifyToolChoice f.toolChoice).authorityClass ≠ .unknownExternal := by
  intro unknown
  refine known (classifyToolChoice f.toolChoice) ?_ unknown
  simp [RequestFacts.classifications,RequestFacts.choice,unknown]

theorem everyReviewed (known : ∀ item ∈ f.classifications, item.authorityClass ≠ .unknownExternal)
    (reviewed : ∀ item ∈ f.classifications, item.unreviewedExternalAuthority = false) :
    EveryDeclaration f Reviewed := by
  rcases declaredKnown known with none | ⟨tools,listed,declared⟩
  · exact .inl none
  · refine .inr ⟨tools,listed,fun v mem d inside => ?_⟩
    have item : classifyToolDeclaration v ∈ f.classifications := by
      simp only [RequestFacts.classifications,declared,List.mem_append,List.mem_map]
      exact .inl (.inl (.inl ⟨v,mem,rfl⟩))
    exact insideReviewed inside (known _ item) (reviewed _ item)

theorem everyClient (known : ∀ item ∈ f.classifications, item.authorityClass ≠ .unknownExternal)
    (none : ∀ item ∈ f.classifications, item.capabilityId = none) : EveryDeclaration f ClientOperated := by
  rcases declaredKnown known with absent | ⟨tools,listed,declared⟩
  · exact .inl absent
  · refine .inr ⟨tools,listed,fun v mem d inside => ?_⟩
    have item : classifyToolDeclaration v ∈ f.classifications := by
      simp only [RequestFacts.classifications,declared,List.mem_append,List.mem_map]
      exact .inl (.inl (.inl ⟨v,mem,rfl⟩))
    rcases declarationCases v with unknown | shape | ⟨-,capable,-⟩
    · exact absurd unknown (known _ item)
    · exact insideClient inside (clientIff.mpr shape)
    · simp [none _ item] at capable
end Requests

section Strict
variable {f : RequestFacts} {request : ClassifiedExternalToolRequest}

structure NoAuthority (f : RequestFacts) : Prop where
  declarations : EveryDeclaration f ClientOperated
  choice : (classifyToolChoice f.toolChoice).authorityClass = .clientOperated
  webSearchOptions : f.webSearchOptionsPresent.bool? = some false
  searchModel : f.searchSpecificModel.bool? = some false
  urlFetch : f.providerUrlFetchRequested.bool? = some false
  state : f.unsupportedExternalState.bool? = some false
  reviewed : f.reviewedExternalTools = []

theorem choiceCases (v : Json) : (classifyToolChoice v).authorityClass = .unknownExternal ∨
    (classifyToolChoice v).authorityClass = .clientOperated ∨ (classifyToolChoice v).capabilityId.isSome = true := by
  unfold classifyToolChoice
  split
  · exact .inr (.inl rfl)
  · split
    · exact .inr (.inl rfl)
    · exact .inl rfl
  · rename_i fields
    rcases declarationCases (.obj fields) with unknown | ⟨t,shape⟩ | ⟨-,capable,-⟩
    · exact .inl unknown
    · exact .inr (.inl (clientIff.mpr ⟨t,shape⟩))
    · exact .inr (.inr capable)
  · exact .inl rfl

theorem choiceClient (known : ∀ item ∈ f.classifications, item.authorityClass ≠ .unknownExternal)
    (none : ∀ item ∈ f.classifications, item.capabilityId = none) :
    (classifyToolChoice f.toolChoice).authorityClass = .clientOperated := by
  rcases choiceCases f.toolChoice with unknown | client | capable
  · exact absurd unknown (choiceKnown known)
  · exact client
  · have item : classifyToolChoice f.toolChoice ∈ f.classifications := by
      simp [RequestFacts.classifications,RequestFacts.choice,capable]
    simp [none _ item] at capable

theorem flagsFalse (wellTyped : f.flagsMalformed = false)
    (none : ∀ item ∈ f.classifications, item.capabilityId = none) :
    f.webSearchOptionsPresent.bool? = some false ∧ f.searchSpecificModel.bool? = some false ∧
      f.providerUrlFetchRequested.bool? = some false := by
  have items : ∀ item ∈ f.flagged, item.capabilityId = Option.none := by
    intro item mem
    exact none item (by simp [RequestFacts.classifications,mem])
  simp only [RequestFacts.flagged,wellTyped,Bool.false_eq_true,if_false,List.mem_append] at items
  simp only [RequestFacts.flagsMalformed,RequestFacts.flags,List.any_cons,List.any_nil,Bool.or_eq_false_iff,
    Option.isNone_eq_false_iff,Option.isSome_iff_exists] at wellTyped
  obtain ⟨⟨web,hweb⟩,⟨model,hmodel⟩,⟨url,hurl⟩,-⟩ := wellTyped
  have noWeb : ¬(f.webSearchOptionsPresent.bool? = some true ∨ f.searchSpecificModel.bool? = some true) := by
    intro asked
    exact Option.some_ne_none _ (items _ (.inl (by rw [if_pos asked]; exact List.mem_singleton.mpr rfl)))
  have noUrl : ¬f.providerUrlFetchRequested.bool? = some true := by
    intro asked
    exact Option.some_ne_none _ (items _ (.inr (by rw [if_pos asked]; exact List.mem_singleton.mpr rfl)))
  cases web <;> cases model <;> cases url <;> simp_all

theorem reviewedNone (wellTyped : f.reviewedMalformed = false)
    (none : ∀ item ∈ f.classifications, item.capabilityId = none) : f.reviewedExternalTools = [] := by
  cases stored : f.reviewedExternalTools with
  | nil => rfl
  | cons head rest =>
    simp only [RequestFacts.reviewedMalformed,stored,List.any_cons,Bool.or_eq_false_iff,Bool.not_eq_false',
      Option.any_eq_true] at wellTyped
    obtain ⟨⟨item,here,genuine⟩,-⟩ := wellTyped
    have listed : item ∈ f.classifications := by
      simp only [RequestFacts.classifications,RequestFacts.reviewed,stored,here,List.mem_append,List.mem_filter]
      exact .inr ⟨by simp,genuine⟩
    simp [RequestFacts.isReviewed,none item listed] at genuine

theorem noAuthority (classified : classifyExternalToolRequest f = some request)
    (harmless : request.hasExternalAuthority = false) : NoAuthority f := by
  obtain ⟨capabilities,-,-,unknown,-,unsupported⟩ := classifiedEq classified
  simp only [ClassifiedExternalToolRequest.hasExternalAuthority,Bool.or_eq_false_iff,Bool.not_eq_false',
    List.isEmpty_iff] at harmless
  obtain ⟨⟨⟨empty,known⟩,-⟩,state⟩ := harmless
  rw [unknown] at known
  simp only [Bool.or_eq_false_iff,List.any_eq_false,decide_eq_true_eq] at known
  obtain ⟨⟨⟨flags,reviewed⟩,known⟩,-⟩ := known
  have none : ∀ item ∈ f.classifications, item.capabilityId = none := by
    intro item mem
    cases capable : item.capabilityId with
    | none => rfl
    | some c =>
      have listed := (capabilities c).mpr ⟨item,mem,capable⟩
      simp [empty] at listed
  obtain ⟨web,model,url⟩ := flagsFalse flags none
  refine ⟨everyClient known none,choiceClient known none,web,model,url,?_,reviewedNone reviewed none⟩
  have typed : f.unsupportedExternalState.bool?.isSome = true := by
    simp only [RequestFacts.flagsMalformed,RequestFacts.flags,List.any_cons,List.any_nil,Bool.or_eq_false_iff,
      Option.isNone_eq_false_iff] at flags
    exact flags.2.2.2.1
  rw [unsupported] at state
  obtain ⟨b,stored⟩ := Option.isSome_iff_exists.mp typed
  simpa [stored] using state
end Strict

section Appending
variable {f : RequestFacts} {request : ClassifiedExternalToolRequest}

structure Weaker (a b : ClassifiedExternalToolRequest) : Prop where
  capabilities : ∀ c ∈ a.capabilities, c ∈ b.capabilities
  distinct : a.capabilities.length ≤ b.capabilities.length
  destinations : a.destinationIds = b.destinationIds
  declarations : a.providerToolDeclarationCount ≤ b.providerToolDeclarationCount
  calls : a.requestedProviderToolCallsPerRequest = b.requestedProviderToolCallsPerRequest
  unknown : b.unknownExternalAuthority = false → a.unknownExternalAuthority = false
  unreviewed : b.unreviewedExternalAuthority = false → a.unreviewedExternalAuthority = false
  state : a.unsupportedExternalState = b.unsupportedExternalState
  approved : a.approvalFloorSatisfied = b.approvalFloorSatisfied

def allowed (f : RequestFacts) (keyPolicy : PolicyParseResult ExternalToolKeyPolicy)
    (routePolicy : PolicyParseResult ExternalToolRoutePolicy) (ceilings : ExternalToolOperatorCeilings)
    (keyLimits : ExternalToolKeyLimitFacts) : Bool :=
  (classifyExternalToolRequest f).any fun request =>
    (decideExternalToolAdmission request keyPolicy routePolicy ceilings keyLimits).allowed

theorem wireDestination (v : Json) : (classifyToolDeclaration v).destinationId = none := by
  unfold classifyToolDeclaration classifyWireMcp unknownClassification
  dsimp only
  split
  · rfl
  · split
    · rfl
    · split
      · rfl
      · split
        · split
          · rfl
          · split
            · rfl
            · split <;> rfl
        · split
          · split <;> rfl
          · split
            · split <;> rfl
            · rfl

variable {keyPolicy : PolicyParseResult ExternalToolKeyPolicy} {routePolicy : PolicyParseResult ExternalToolRoutePolicy}
  {ceilings : ExternalToolOperatorCeilings} {keyLimits : ExternalToolKeyLimitFacts}

theorem decisionAllowed : (decideExternalToolAdmission request keyPolicy routePolicy ceilings keyLimits).allowed = true ↔
    request.hasExternalAuthority = false ∨
      ∃ cap, fencedChecks request keyPolicy routePolicy ceilings keyLimits = .ok cap := by
  unfold decideExternalToolAdmission
  cases request.hasExternalAuthority with
  | false => simp [decision]
  | true =>
    cases fencedChecks request keyPolicy routePolicy ceilings keyLimits with
    | error reason => simp [decision]
    | ok cap => simp [decision]

theorem weakerAllowed {a b : ClassifiedExternalToolRequest} (weaker : Weaker a b)
    (admitted : (decideExternalToolAdmission b keyPolicy routePolicy ceilings keyLimits).allowed = true) :
    (decideExternalToolAdmission a keyPolicy routePolicy ceilings keyLimits).allowed = true := by
  rw [decisionAllowed] at admitted ⊢
  rcases admitted with harmless | ⟨cap,checked⟩
  · left
    simp only [ClassifiedExternalToolRequest.hasExternalAuthority,Bool.or_eq_false_iff,Bool.not_eq_false',
      List.isEmpty_iff] at harmless ⊢
    obtain ⟨⟨⟨empty,known⟩,reviewed⟩,state⟩ := harmless
    refine ⟨⟨⟨?_,weaker.unknown known⟩,weaker.unreviewed reviewed⟩,by rw [weaker.state,state]⟩
    have bound := weaker.distinct
    rw [empty] at bound
    exact List.length_eq_zero_iff.mp (Nat.le_zero.mp bound)
  · right
    obtain ⟨p,key,route,keyParsed,routeParsed,granted,willing,-⟩ := fencedIff.mp checked
    refine ⟨_,fencedIff.mpr ⟨⟨weaker.unknown p.known,by rw [weaker.state,p.supported],weaker.unreviewed p.reviewed,
      by rw [weaker.approved,p.approved],Nat.le_trans weaker.distinct p.capabilities,
      by rw [weaker.destinations]; exact p.destinations,Nat.le_trans weaker.declarations p.declarations,
      by rw [weaker.calls]; exact p.calls,fun requires => ?_⟩,key,route,keyParsed,routeParsed,
      ⟨fun c mem => granted.capabilities c (weaker.capabilities c mem),?_,fun c mem takes => ?_,?_⟩,willing,rfl⟩⟩
    · rw [weaker.calls]
      refine p.called ?_
      obtain ⟨c,mem,other⟩ := List.any_eq_true.mp requires
      exact List.any_eq_true.mpr ⟨c,weaker.capabilities c mem,other⟩
    · rw [weaker.destinations]
      exact granted.destinations
    · rw [weaker.destinations]
      exact granted.addressed c (weaker.capabilities c mem) takes
    · rw [weaker.calls]
      exact granted.cap

def RequestFacts.declaring (f : RequestFacts) (tools : List Json) : RequestFacts := { f with tools := .arr tools }

-- A request without a tools list declares the empty one.
theorem declaringDeclared {tools} (own : f.tools = .arr tools ∨ f.tools = .null ∧ tools = []) :
    f.declared = tools.map classifyToolDeclaration := by
  unfold RequestFacts.declared
  rcases own with listed | ⟨absent,rfl⟩
  · rw [listed]
  · rw [absent]
    rfl

theorem classificationsSplit {tools} (own : f.tools = .arr tools ∨ f.tools = .null ∧ tools = []) :
    f.classifications = tools.map classifyToolDeclaration ++ (f.choice ++ f.flagged ++ f.reviewed) := by
  unfold RequestFacts.classifications
  rw [declaringDeclared own,List.append_assoc,List.append_assoc,← List.append_assoc f.choice]

theorem declaredDestinations (tools : List Json) (rest : List ToolAuthorityClassification) :
    (tools.map classifyToolDeclaration ++ rest).filterMap (·.destinationId) = rest.filterMap (·.destinationId) := by
  induction tools with
  | nil => rfl
  | cons v more ih => simp [wireDestination]

theorem appendedWeaker {tools more} (own : f.tools = .arr tools ∨ f.tools = .null ∧ tools = [])
    {larger} (classified : classifyExternalToolRequest (f.declaring (tools ++ more)) = some larger) :
    ∃ smaller, classifyExternalToolRequest f = some smaller ∧ Weaker smaller larger := by
  have items := classificationsSplit own
  have appended : (f.declaring (tools ++ more)).classifications = (tools ++ more).map classifyToolDeclaration ++
      (f.choice ++ f.flagged ++ f.reviewed) := classificationsSplit (.inl rfl)
  have within : f.classifications.Sublist (f.declaring (tools ++ more)).classifications := by
    rw [items,appended,List.map_append,List.append_assoc (tools.map classifyToolDeclaration)]
    exact List.Sublist.append_left (List.sublist_append_right _ _) _
  have destinations : f.classifications.filterMap (·.destinationId) =
      (f.declaring (tools ++ more)).classifications.filterMap (·.destinationId) := by
    rw [items,appended,declaredDestinations,declaredDestinations]
  unfold classifyExternalToolRequest at classified ⊢
  dsimp only at classified ⊢
  rw [destinations]
  split at classified
  · rename_i canonical
    cases classified
    rw [if_pos canonical]
    refine ⟨_,rfl,fun c => ?_,?_,rfl,?_,rfl,?_,?_,rfl,rfl⟩
    · simp only [Capability.sorted,(List.perm_insertionSort _ _).mem_iff,List.mem_dedup,List.mem_filterMap]
      rintro ⟨item,mem,capable⟩
      exact ⟨item,within.mem mem,capable⟩
    · simp only [Capability.sorted,List.length_insertionSort]
      refine (List.subperm_of_subset (List.nodup_dedup _) fun c listed => ?_).length_le
      simp only [List.mem_dedup,List.mem_filterMap] at listed ⊢
      obtain ⟨item,mem,capable⟩ := listed
      exact ⟨item,within.mem mem,capable⟩
    · exact (within.filter _).length_le
    · simp only [Bool.or_eq_false_iff,List.any_eq_false]
      rintro ⟨⟨malformed,known⟩,calls⟩
      exact ⟨⟨malformed,fun item mem => known item (within.mem mem)⟩,calls⟩
    · simp only [List.any_eq_false]
      exact fun reviewed item mem => reviewed item (within.mem mem)
  · cases classified

theorem appendedDenied {tools more} (own : f.tools = .arr tools ∨ f.tools = .null ∧ tools = [])
    (denied : allowed f keyPolicy routePolicy ceilings keyLimits = false) :
    allowed (f.declaring (tools ++ more)) keyPolicy routePolicy ceilings keyLimits = false := by
  by_contra admitted
  have admitted : allowed (f.declaring (tools ++ more)) keyPolicy routePolicy ceilings keyLimits = true := by
    simpa using admitted
  simp only [allowed,Option.any_eq_true] at admitted
  obtain ⟨larger,classified,passed⟩ := admitted
  obtain ⟨smaller,own,weaker⟩ := appendedWeaker own classified
  simp [allowed,own,weakerAllowed weaker passed] at denied
end Appending

section Soundness
variable {f : RequestFacts} {request : ClassifiedExternalToolRequest}
  {keyPolicy : PolicyParseResult ExternalToolKeyPolicy} {routePolicy : PolicyParseResult ExternalToolRoutePolicy}
  {ceilings : ExternalToolOperatorCeilings} {keyLimits : ExternalToolKeyLimitFacts}

-- What a fenced admission guarantees of the request, the policies and the cap.
structure FencedGuarantee (f : RequestFacts) (request : ClassifiedExternalToolRequest) (key : ExternalToolKeyPolicy)
    (route : ExternalToolRoutePolicy) (ceilings : ExternalToolOperatorCeilings) (keyLimits : ExternalToolKeyLimitFacts)
    (cap : Nat) : Prop where
  recorded : ∀ item ∈ f.classifications, (∀ c ∈ item.capabilityId, c ∈ request.capabilities) ∧
    ∀ d ∈ item.destinationId, d ∈ request.destinationIds
  capabilities : ∀ c ∈ request.capabilities, c ∈ key.allowedCapabilities ∧ c ∈ route.supportedCapabilities
  destinations : ∀ d ∈ request.destinationIds, d ∈ key.allowedDestinationIds ∧ d ∈ route.approvedDestinationIds
  addressed : ∀ c ∈ request.capabilities, c.takesDestination = true →
    ∃ d ∈ request.destinationIds, destinationMatchesCapability d c = true
  declarations : EveryDeclaration f Reviewed
  choice : (classifyToolChoice f.toolChoice).authorityClass ≠ .unknownExternal
  calls : request.requiresProviderToolCalls = true → 0 < request.requestedProviderToolCallsPerRequest
  capped : request.requestedProviderToolCallsPerRequest ≤ cap ∧ cap ≤ key.maxProviderToolCallsPerRequest ∧
    cap ≤ route.maxProviderToolCallsPerRequest ∧ cap ≤ ceilings.maxProviderToolCallsPerRequest
  limits : (∃ n, keyLimits.requestLimitTotal = some n ∧ 0 < n) ∧ (∃ n, keyLimits.tokenLimitTotal = some n ∧ 0 < n) ∧
    ∃ q, keyLimits.costLimitEur = some (.finite q) ∧ 0 < q

theorem finiteLimits (finite : keyLimits.positiveFinite = true) :
    (∃ n, keyLimits.requestLimitTotal = some n ∧ 0 < n) ∧ (∃ n, keyLimits.tokenLimitTotal = some n ∧ 0 < n) ∧
      ∃ q, keyLimits.costLimitEur = some (.finite q) ∧ 0 < q := by
  simp only [ExternalToolKeyLimitFacts.positiveFinite,Bool.and_eq_true,Option.any_eq_true,decide_eq_true_eq] at finite
  obtain ⟨⟨requests,tokens⟩,cost,stored,positive⟩ := finite
  refine ⟨requests,tokens,?_⟩
  cases cost with
  | finite q => exact ⟨q,stored,by simpa [Decimal.isPositiveFinite] using positive⟩
  | infinite negative => cases positive
  | nan => cases positive

theorem fencedGuarantee {cap} (classified : classifyExternalToolRequest f = some request)
    (checked : fencedChecks request keyPolicy routePolicy ceilings keyLimits = .ok cap) :
    ∃ key route, Parsed keyPolicy key ∧ Parsed routePolicy route ∧
      FencedGuarantee f request key route ceilings keyLimits cap := by
  obtain ⟨p,key,route,keyParsed,routeParsed,granted,willing,rfl⟩ := fencedIff.mp checked
  obtain ⟨capabilities,destinations,-,unknown,unreviewed,-⟩ := classifiedEq classified
  have known := p.known
  rw [unknown] at known
  simp only [Bool.or_eq_false_iff,List.any_eq_false,decide_eq_true_eq] at known
  have reviewed := p.reviewed
  rw [unreviewed] at reviewed
  simp only [List.any_eq_false,Bool.not_eq_true] at reviewed
  refine ⟨key,route,keyParsed,routeParsed,?_,granted.capabilities,granted.destinations,granted.addressed,
    everyReviewed known.1.2 reviewed,choiceKnown known.1.2,p.called,⟨granted.cap,?_⟩,finiteLimits willing.finite⟩
  · exact fun item mem => ⟨fun c capable => (capabilities c).mpr ⟨item,mem,capable⟩,
      fun d addressed => (destinations d).mpr ⟨item,mem,addressed⟩⟩
  · unfold effectiveCap
    omega

theorem externalToolAdmissionSound (f : RequestFacts) (keyJson routeJson : Json)
    (ceilings : ExternalToolOperatorCeilings) (keyLimits : ExternalToolKeyLimitFacts) :
    let keyPolicy := parseKeyExternalToolPolicy ceilings keyJson
    let routePolicy := parseRouteExternalToolPolicy ceilings routeJson
    (∀ request, classifyExternalToolRequest f = some request →
      let made := decideExternalToolAdmission request keyPolicy routePolicy ceilings keyLimits
      (made.allowed = true → made.quotaMode = .externalToolFenced → ∃ key route, Parsed keyPolicy key ∧
        Parsed routePolicy route ∧ FencedGuarantee f request key route ceilings keyLimits made.effectiveToolCallCap) ∧
      (made.allowed = true → made.quotaMode = .strictBounded → NoAuthority f)) ∧
    ∀ tools more, (f.tools = .arr tools ∨ f.tools = .null ∧ tools = []) →
      allowed f keyPolicy routePolicy ceilings keyLimits = false →
      allowed (f.declaring (tools ++ more)) keyPolicy routePolicy ceilings keyLimits = false := by
  intro keyPolicy routePolicy
  refine ⟨fun request classified => ?_,fun tools more own denied => appendedDenied own denied⟩
  dsimp only
  unfold decideExternalToolAdmission
  cases authority : request.hasExternalAuthority with
  | false =>
    refine ⟨fun _ fenced => ?_,fun _ _ => noAuthority classified authority⟩
    simp [decision] at fenced
  | true =>
    cases checked : fencedChecks request keyPolicy routePolicy ceilings keyLimits with
    | error reason => simp [decision]
    | ok cap =>
      refine ⟨fun _ _ => fencedGuarantee classified checked,fun _ strict => ?_⟩
      simp [decision] at strict

def demoKeyPolicy : Json := .obj [("version",.int 1),("mode",.str "external_tool_fenced"),
  ("allowed_capabilities",.arr [.str "provider_web_search"]),("allowed_destination_ids",.arr []),
  ("max_provider_tool_calls_per_request",.int 3),("single_request_overrun_acknowledged",.bool true)]

def demoRoutePolicy : Json := .obj [("version",.int 1),("supported_capabilities",.arr [.str "provider_web_search"]),
  ("approved_destination_ids",.arr []),("max_provider_tool_calls_per_request",.int 2),("call_limit_enforced",.bool true),
  ("final_usage_required",.bool true),("final_cost_required",.bool true)]

def demoCeilings : ExternalToolOperatorCeilings := ⟨16,8,16,16,by decide⟩

def demoLimits : ExternalToolKeyLimitFacts := ⟨.standard,some 10,some 1000,some (.finite 5)⟩

def demoFacts : RequestFacts :=
  ⟨.arr [.obj [("type",.str "web_search")],.obj [("type",.str "function"),("name",.str "lookup")]],.str "auto",.bool false,
    .bool false,.bool false,[],.int 1,.bool false,.bool true⟩

def demoRequest : ClassifiedExternalToolRequest := ⟨[.webSearch],[],1,1,false,false,false,true⟩

theorem externalToolAdmissionSoundDemo : ∃ key route, Parsed (parseKeyExternalToolPolicy demoCeilings demoKeyPolicy) key ∧
    Parsed (parseRouteExternalToolPolicy demoCeilings demoRoutePolicy) route ∧
    FencedGuarantee demoFacts demoRequest key route demoCeilings demoLimits 2 :=
  ((externalToolAdmissionSound demoFacts demoKeyPolicy demoRoutePolicy demoCeilings demoLimits).1 demoRequest
    (by decide +kernel)).1 (by decide +kernel) (by decide +kernel)
end Soundness
end SlaifGateway.Tools
