import SlaifGateway.Tools.Admission
import SlaifGateway.Library.Sorting
import Mathlib.Data.String.Basic

/-! The canonical form of the stored policies. A parsed policy is written back by
`to_metadata` and parsed to itself; the lists may come in any order; looser ceilings keep
what tighter ones accept. The deny list of destination ids names `api_key`, which no
single component can be. -/
namespace SlaifGateway.Tools
open Library Sorting

def QuotaMode.text : QuotaMode → String
  | .strictBounded => "strict_bounded"
  | .externalToolFenced => "external_tool_fenced"

def capabilityItems (cs : List Capability) : Json := .arr (cs.map fun c => .str c.text)

def destinationItems (ds : List String) : Json := .arr (ds.map .str)

def ExternalToolKeyPolicy.toMetadata (p : ExternalToolKeyPolicy) : Json :=
  .obj [("version",.int 1),("mode",.str p.mode.text),("allowed_capabilities",capabilityItems p.allowedCapabilities),
    ("allowed_destination_ids",destinationItems p.allowedDestinationIds),
    ("max_provider_tool_calls_per_request",.int p.maxProviderToolCallsPerRequest),
    ("single_request_overrun_acknowledged",.bool p.singleRequestOverrunAcknowledged)]

def ExternalToolRoutePolicy.toMetadata (p : ExternalToolRoutePolicy) : Json :=
  .obj [("version",.int 1),("supported_capabilities",capabilityItems p.supportedCapabilities),
    ("approved_destination_ids",destinationItems p.approvedDestinationIds),
    ("max_provider_tool_calls_per_request",.int p.maxProviderToolCallsPerRequest),
    ("call_limit_enforced",.bool p.callLimitEnforced),("final_usage_required",.bool p.finalUsageRequired),
    ("final_cost_required",.bool p.finalCostRequired)]

section Components

-- `filter(None, re.split(r"[-_]", ...))`
def components (text : List Char) : List (List Char) :=
  (text.splitOnP fun c => c = '-' || c = '_').filter fun term => !term.isEmpty

-- A run of the id's components that are those of the word.
def HasRun (word : String) (destination : String) : Prop :=
  ∃ kind opaqueId, matchDestination destination = some (kind,opaqueId) ∧ components word.toList <:+: components opaqueId

def HasSecretRun (destination : String) : Prop := ∃ word ∈ secretWords, HasRun word destination

theorem normalizedTerms {d : String} {kind opaqueId} (normal : isNormalizedDestinationId d = true)
    (shape : matchDestination d = some (kind,opaqueId)) :
    ∀ term ∈ components opaqueId, String.ofList term ∉ secretWords := by
  intro term mem
  unfold isNormalizedDestinationId at normal
  rw [shape] at normal
  simp only [Option.any_some,Bool.and_eq_true,List.all_eq_true,decide_eq_true_eq] at normal
  exact normal.2.2 term (List.mem_filter.mp mem).1

theorem singleWords {word : String} (mem : word ∈ secretWords) :
    word = "api_key" ∨ components word.toList = [word.toList] := by
  simp only [secretWords,List.mem_cons,List.not_mem_nil,or_false] at mem
  rcases mem with rfl | rfl | rfl | rfl | rfl | rfl | rfl | rfl | rfl
  · exact .inr (by decide +kernel)
  · exact .inl rfl
  all_goals exact .inr (by decide +kernel)

theorem secretRunIff {d : String} (normal : isNormalizedDestinationId d = true) : HasSecretRun d ↔ HasRun "api_key" d := by
  constructor
  · intro ⟨word,mem,kind,opaqueId,shape,run⟩
    obtain rfl | single := singleWords mem
    · exact ⟨kind,opaqueId,shape,run⟩
    · rw [single] at run
      have clear := normalizedTerms normal shape _ (run.subset (List.mem_singleton.mpr rfl))
      rw [String.ofList_toList] at clear
      exact absurd mem clear
  · intro run
    exact ⟨"api_key",by decide,run⟩
end Components

section Lists
variable {α : Type}

-- The shape the two list parsers share.
def parseList [DecidableEq α] (read : Json → Option α) (key : α → String) (v : Json) (maximum : Nat) : Option (List α) :=
  match v with
  | .arr items =>
    if maximum < items.length then none
    else do
      let parsed ← items.mapM read
      if parsed.Nodup then some (sortedBy key parsed) else none
  | _ => none

theorem capabilityList (v : Json) (maximum : Nat) :
    parseCapabilityList v maximum = parseList (fun item => item.text? >>= Capability.parse) Capability.text v maximum := by
  cases v <;> rfl

theorem destinationList (v : Json) (maximum : Nat) :
    parseDestinationList v maximum = parseList (fun item => item.text?.filter isNormalizedDestinationId) id v maximum := by
  cases v <;> rfl

variable {read : Json → Option α} {key : α → String} {v : Json} {maximum : Nat} {cs : List α}

theorem listIff [DecidableEq α] : parseList read key v maximum = some cs ↔ ∃ items parsed, v = .arr items ∧ items.length ≤ maximum ∧
    items.mapM read = some parsed ∧ parsed.Nodup ∧ sortedBy key parsed = cs := by
  cases v with
  | arr items =>
    simp only [parseList,Json.arr.injEq]
    split
    · rename_i many
      simp only [reduceCtorEq,false_iff]
      rintro ⟨own,parsed,rfl,few,-⟩
      omega
    · rename_i few
      simp only [bind,Option.bind_eq_some_iff,Option.ite_none_right_eq_some,Option.some.injEq]
      constructor
      · intro ⟨parsed,run,distinct,same⟩
        exact ⟨items,parsed,rfl,by omega,run,distinct,same⟩
      · rintro ⟨own,parsed,rfl,-,run,distinct,same⟩
        exact ⟨parsed,run,distinct,same⟩
  | _ => simp [parseList]

theorem mapMPerm {β : Type} {f : α → Option β} {xs ys : List α} (perm : ys.Perm xs) :
    ∀ {parsed}, xs.mapM f = some parsed → ∃ other, ys.mapM f = some other ∧ other.Perm parsed := by
  induction perm with
  | nil => exact fun run => ⟨_,run,.refl _⟩
  | cons x rest ih =>
    intro parsed run
    simp only [List.mapM_cons,bind,Option.bind_eq_some_iff,pure,Option.some.injEq] at run
    obtain ⟨y,first,tail,later,rfl⟩ := run
    obtain ⟨other,found,moved⟩ := ih later
    exact ⟨y :: other,by simp [List.mapM_cons,first,found],moved.cons y⟩
  | swap x y rest =>
    intro parsed run
    simp only [List.mapM_cons,bind,Option.bind_eq_some_iff,pure,Option.some.injEq] at run
    obtain ⟨a,first,_,⟨b,second,tail,later,rfl⟩,rfl⟩ := run
    exact ⟨b :: a :: tail,by simp [List.mapM_cons,first,second,later],List.Perm.swap a b tail⟩
  | trans _ _ first second =>
    intro parsed run
    obtain ⟨middle,found,moved⟩ := second run
    obtain ⟨other,last,again⟩ := first found
    exact ⟨other,last,again.trans moved⟩

theorem mapMLength {β : Type} {f : α → Option β} {xs : List α} {parsed : List β} (run : xs.mapM f = some parsed) :
    parsed.length = xs.length := by
  induction xs generalizing parsed with
  | nil =>
    cases run
    rfl
  | cons x rest ih =>
    simp only [List.mapM_cons,bind,Option.bind_eq_some_iff,pure,Option.some.injEq] at run
    obtain ⟨y,first,tail,later,rfl⟩ := run
    simp [ih later]

theorem mapMMem {β : Type} {f : α → Option β} {xs : List α} {parsed : List β} (run : xs.mapM f = some parsed) {y : β} :
    y ∈ parsed ↔ ∃ x ∈ xs, f x = some y := by
  induction xs generalizing parsed with
  | nil =>
    cases run
    simp
  | cons x rest ih =>
    simp only [List.mapM_cons,bind,Option.bind_eq_some_iff,pure,Option.some.injEq] at run
    obtain ⟨z,first,tail,later,rfl⟩ := run
    simp [ih later,first,eq_comm]

theorem mapMAll {β : Type} {f : α → Option β} {xs : List α} {parsed : List β} (run : xs.mapM f = some parsed) :
    ∀ x ∈ xs, ∃ y, f x = some y := by
  induction xs generalizing parsed with
  | nil => simp
  | cons x rest ih =>
    simp only [List.mapM_cons,bind,Option.bind_eq_some_iff,pure,Option.some.injEq] at run
    obtain ⟨z,first,tail,later,rfl⟩ := run
    exact List.forall_mem_cons.mpr ⟨⟨z,first⟩,ih later⟩

variable [DecidableEq α]

theorem listMore {more : Nat} (le : maximum ≤ more) (read' : parseList read key v maximum = some cs) :
    parseList read key v more = some cs := by
  obtain ⟨items,parsed,array,few,rest⟩ := listIff.mp read'
  exact listIff.mpr ⟨items,parsed,array,Nat.le_trans few le,rest⟩

theorem listPerm (apart : Function.Injective key) {xs ys : List Json} (perm : ys.Perm xs)
    (read' : parseList read key (.arr xs) maximum = some cs) : parseList read key (.arr ys) maximum = some cs := by
  obtain ⟨items,parsed,array,few,run,distinct,sorted⟩ := listIff.mp read'
  cases array
  obtain ⟨other,found,moved⟩ := mapMPerm perm run
  refine listIff.mpr ⟨ys,other,rfl,?_,found,moved.nodup_iff.mpr distinct,?_⟩
  · rw [perm.length_eq]
    exact few
  · rw [← sorted]
    exact sortedUnique (fun x _ y _ same => apart same) moved

-- Written back item by item, a parsed list is read as it is.
theorem listAgain (apart : Function.Injective key) {write : α → Json} (back : ∀ c ∈ cs, read (write c) = some c)
    (read' : parseList read key v maximum = some cs) : parseList read key (.arr (cs.map write)) maximum = some cs := by
  obtain ⟨items,parsed,array,few,run,distinct,sorted⟩ := listIff.mp read'
  have perm : cs.Perm parsed := sorted ▸ sortedPerm
  have again : ∀ ds : List α, (∀ c ∈ ds, read (write c) = some c) → (ds.map write).mapM read = some ds := by
    intro ds each
    induction ds with
    | nil => rfl
    | cons d rest ih =>
      have later := ih fun c mem => each c (List.mem_cons_of_mem d mem)
      simp [each d List.mem_cons_self,later]
  refine listIff.mpr ⟨_,cs,rfl,?_,again cs back,perm.nodup_iff.mpr distinct,?_⟩
  · rw [List.length_map,perm.length_eq,mapMLength run]
    exact few
  · rw [← sorted]
    exact sortedUnique (fun x _ y _ same => apart same) sortedPerm

theorem listReads (read' : parseList read key v maximum = some cs) :
    ∃ items, v = .arr items ∧ (∀ item ∈ items, ∃ c, read item = some c) ∧
      ∀ c, c ∈ cs ↔ ∃ item ∈ items, read item = some c := by
  obtain ⟨items,parsed,array,-,run,-,rfl⟩ := listIff.mp read'
  refine ⟨items,array,mapMAll run,fun c => ?_⟩
  rw [sortedMem]
  exact mapMMem run
end Lists

section Policies
variable {ceilings looser : ExternalToolOperatorCeilings} {v w : Json}

def KeyShape (ceilings : ExternalToolOperatorCeilings) (p : ExternalToolKeyPolicy) : Prop :=
  match p.mode with
  | .strictBounded =>
    p.allowedCapabilities = [] ∧ p.allowedDestinationIds = [] ∧ p.maxProviderToolCallsPerRequest = 0 ∧
      p.singleRequestOverrunAcknowledged = false
  | .externalToolFenced =>
    p.allowedCapabilities ≠ [] ∧ p.maxProviderToolCallsPerRequest ≠ 0 ∧
      p.maxProviderToolCallsPerRequest ≤ ceilings.maxProviderToolCallsPerRequest ∧
      p.singleRequestOverrunAcknowledged = true ∧
      destinationsMatchCapabilities p.allowedCapabilities p.allowedDestinationIds = true

structure KeyReads (ceilings : ExternalToolOperatorCeilings) (v : Json) (p : ExternalToolKeyPolicy) : Prop where
  mapping : v.isMapping = true
  fields : sameKeys v keyPolicyFields = true
  version : isExactVersion (v.field "version") = true
  mode : (v.field "mode").text? >>= QuotaMode.parse = some p.mode
  capabilities : parseCapabilityList (v.field "allowed_capabilities") ceilings.maxDistinctCapabilities =
    some p.allowedCapabilities
  destinations : parseDestinationList (v.field "allowed_destination_ids") ceilings.maxApprovedDestinations =
    some p.allowedDestinationIds
  callCap : (v.field "max_provider_tool_calls_per_request").natural? = some p.maxProviderToolCallsPerRequest
  acknowledged : (v.field "single_request_overrun_acknowledged").bool? = some p.singleRequestOverrunAcknowledged
  shape : KeyShape ceilings p

theorem readKeyIff {p : ExternalToolKeyPolicy} : readKeyPolicy ceilings v = .ok p ↔ KeyReads ceilings v p := by
  unfold readKeyPolicy
  simp only [refuseThen,requiredThen,Bool.not_eq_false']
  constructor
  · rintro ⟨mapping,fields,version,mode,modeRead,caps,capsRead,dests,destsRead,cap,capRead,ack,ackRead,last⟩
    cases mode with
    | strictBounded =>
      simp only [refuseThen,pure,Except.pure,Except.ok.injEq] at last
      obtain ⟨shape,rfl⟩ := last
      refine ⟨mapping,fields,version,modeRead,capsRead,destsRead,capRead,ackRead,?_⟩
      simpa [KeyShape,and_assoc] using shape
    | externalToolFenced =>
      simp only [refuseThen,pure,Except.pure,Except.ok.injEq] at last
      obtain ⟨shape,rfl⟩ := last
      refine ⟨mapping,fields,version,modeRead,capsRead,destsRead,capRead,ackRead,?_⟩
      simpa [KeyShape,and_assoc] using shape
  · rintro ⟨mapping,fields,version,modeRead,capsRead,destsRead,capRead,ackRead,shape⟩
    refine ⟨mapping,fields,version,_,modeRead,_,capsRead,_,destsRead,_,capRead,_,ackRead,?_⟩
    obtain ⟨mode,caps,dests,cap,ack⟩ := p
    cases mode with
    | strictBounded =>
      simp only [refuseThen,pure,Except.pure]
      exact ⟨by simpa [KeyShape,and_assoc] using shape,trivial⟩
    | externalToolFenced =>
      simp only [refuseThen,pure,Except.pure]
      exact ⟨by simpa [KeyShape,and_assoc] using shape,trivial⟩

def RouteShape (ceilings : ExternalToolOperatorCeilings) (p : ExternalToolRoutePolicy) : Prop :=
  if p.supportedCapabilities = [] then
    p.approvedDestinationIds = [] ∧ p.maxProviderToolCallsPerRequest = 0 ∧ p.callLimitEnforced = false ∧
      p.finalUsageRequired = false ∧ p.finalCostRequired = false
  else
    p.maxProviderToolCallsPerRequest ≠ 0 ∧
      p.maxProviderToolCallsPerRequest ≤ ceilings.maxProviderToolCallsPerRequest ∧
      (p.callLimitEnforced = true ∧ p.finalUsageRequired = true ∧ p.finalCostRequired = true) ∧
      destinationsMatchCapabilities p.supportedCapabilities p.approvedDestinationIds = true

structure RouteReads (ceilings : ExternalToolOperatorCeilings) (v : Json) (p : ExternalToolRoutePolicy) : Prop where
  mapping : v.isMapping = true
  fields : sameKeys v routePolicyFields = true
  version : isExactVersion (v.field "version") = true
  capabilities : parseCapabilityList (v.field "supported_capabilities") ceilings.maxDistinctCapabilities =
    some p.supportedCapabilities
  destinations : parseDestinationList (v.field "approved_destination_ids") ceilings.maxApprovedDestinations =
    some p.approvedDestinationIds
  callCap : (v.field "max_provider_tool_calls_per_request").natural? = some p.maxProviderToolCallsPerRequest
  enforced : (v.field "call_limit_enforced").bool? = some p.callLimitEnforced
  usage : (v.field "final_usage_required").bool? = some p.finalUsageRequired
  cost : (v.field "final_cost_required").bool? = some p.finalCostRequired
  shape : RouteShape ceilings p

theorem readRouteIff {p : ExternalToolRoutePolicy} : readRoutePolicy ceilings v = .ok p ↔ RouteReads ceilings v p := by
  unfold readRoutePolicy
  simp only [refuseThen,requiredThen,Bool.not_eq_false']
  constructor
  · rintro ⟨mapping,fields,version,caps,capsRead,dests,destsRead,cap,capRead,a,aRead,b,bRead,c,cRead,last⟩
    cases caps with
    | nil =>
      simp only [List.isEmpty_nil,if_true,refuseThen,pure,Except.pure,Except.ok.injEq] at last
      obtain ⟨shape,rfl⟩ := last
      refine ⟨mapping,fields,version,capsRead,destsRead,capRead,aRead,bRead,cRead,?_⟩
      simpa [RouteShape,and_assoc] using shape
    | cons first more =>
      simp only [List.isEmpty_cons,Bool.false_eq_true,if_false,refuseThen,pure,Except.pure,Except.ok.injEq] at last
      obtain ⟨shape,rfl⟩ := last
      refine ⟨mapping,fields,version,capsRead,destsRead,capRead,aRead,bRead,cRead,?_⟩
      simpa [RouteShape,and_assoc] using shape
  · rintro ⟨mapping,fields,version,capsRead,destsRead,capRead,aRead,bRead,cRead,shape⟩
    refine ⟨mapping,fields,version,_,capsRead,_,destsRead,_,capRead,_,aRead,_,bRead,_,cRead,?_⟩
    obtain ⟨caps,dests,cap,a,b,c⟩ := p
    cases caps with
    | nil =>
      simp only [List.isEmpty_nil,if_true,refuseThen,pure,Except.pure]
      exact ⟨by simpa [RouteShape,and_assoc] using shape,trivial⟩
    | cons first more =>
      simp only [List.isEmpty_cons,Bool.false_eq_true,if_false,refuseThen,pure,Except.pure]
      exact ⟨by simpa [RouteShape,and_assoc] using shape,trivial⟩

theorem parsedIff {α : Type} {strict : α} {missing valid : String} {read : Except String α} {p : α}
    (mapping : read = .ok p → v.isMapping = true) : Parsed (parseResult v strict missing valid read) p ↔ read = .ok p := by
  cases v with
  | null =>
    simp only [Parsed,parseResult,Bool.false_eq_true,and_false,false_iff]
    exact fun done => absurd (mapping done) Bool.false_ne_true
  | _ => cases read <;> simp [Parsed,parseResult]

theorem parsedResult {α : Type} {strict : α} {missing valid : String} {read : Except String α} {p : α}
    (parsed : Parsed (parseResult v strict missing valid read) p) :
    parseResult v strict missing valid read = ⟨true,true,some p,valid⟩ := by
  cases v with
  | null => exact absurd parsed.2.2 Bool.false_ne_true
  | _ =>
    cases read with
    | error e => cases parsed.1
    | ok own =>
      cases parsed.1
      rfl

theorem keyParsed {p} : Parsed (parseKeyExternalToolPolicy ceilings v) p ↔ KeyReads ceilings v p :=
  (parsedIff fun done => (readKeyIff.mp done).mapping).trans readKeyIff

theorem routeParsed {p} : Parsed (parseRouteExternalToolPolicy ceilings v) p ↔ RouteReads ceilings v p :=
  (parsedIff fun done => (readRouteIff.mp done).mapping).trans readRouteIff

-- The same object but for the order of the listed fields' items.
structure Reordered (listed : List String) (v w : Json) : Prop where
  mapping : w.isMapping = v.isMapping
  keys : ∀ k, k ∈ w.keys ↔ k ∈ v.keys
  others : ∀ k, k ∉ listed → w.field k = v.field k
  lists : ∀ k ∈ listed, ∀ xs, v.field k = .arr xs → ∃ ys, w.field k = .arr ys ∧ ys.Perm xs

structure Tighter (tight loose : ExternalToolOperatorCeilings) : Prop where
  capabilities : tight.maxDistinctCapabilities ≤ loose.maxDistinctCapabilities
  destinations : tight.maxApprovedDestinations ≤ loose.maxApprovedDestinations
  declarations : tight.maxProviderToolDeclarationsPerRequest ≤ loose.maxProviderToolDeclarationsPerRequest
  calls : tight.maxProviderToolCallsPerRequest ≤ loose.maxProviderToolCallsPerRequest

theorem reorderedKeys {listed fields : List String} (same : Reordered listed v w) (exact : sameKeys v fields = true) :
    sameKeys w fields = true := by
  simp only [sameKeys,Bool.and_eq_true,List.all_eq_true,decide_eq_true_eq] at exact ⊢
  exact ⟨fun k mem => exact.1 k ((same.keys k).mp mem),fun k mem => (same.keys k).mpr (exact.2 k mem)⟩

theorem textInjective : Function.Injective Capability.text := by
  intro a b same
  cases a <;> cases b <;> first | rfl | exact absurd same (by decide)

theorem capabilitiesReordered {listed : List String} {k : String} {maximum : Nat} {cs : List Capability}
    (same : Reordered listed v w) (mem : k ∈ listed) (read : parseCapabilityList (v.field k) maximum = some cs) :
    parseCapabilityList (w.field k) maximum = some cs := by
  rw [capabilityList] at read ⊢
  obtain ⟨items,found,-⟩ := listReads read
  obtain ⟨ys,moved,perm⟩ := same.lists k mem items found
  rw [found] at read
  rw [moved]
  exact listPerm textInjective perm read

theorem destinationsReordered {listed : List String} {k : String} {maximum : Nat} {ds : List String}
    (same : Reordered listed v w) (mem : k ∈ listed) (read : parseDestinationList (v.field k) maximum = some ds) :
    parseDestinationList (w.field k) maximum = some ds := by
  rw [destinationList] at read ⊢
  obtain ⟨items,found,-⟩ := listReads read
  obtain ⟨ys,moved,perm⟩ := same.lists k mem items found
  rw [found] at read
  rw [moved]
  exact listPerm Function.injective_id perm read

theorem capabilitiesMore {maximum more : Nat} {cs : List Capability} (le : maximum ≤ more)
    (read : parseCapabilityList v maximum = some cs) : parseCapabilityList v more = some cs := by
  rw [capabilityList] at read ⊢
  exact listMore le read

theorem destinationsMore {maximum more : Nat} {ds : List String} (le : maximum ≤ more)
    (read : parseDestinationList v maximum = some ds) : parseDestinationList v more = some ds := by
  rw [destinationList] at read ⊢
  exact listMore le read

theorem capabilitiesAgain {maximum : Nat} {cs : List Capability} (read : parseCapabilityList v maximum = some cs) :
    parseCapabilityList (capabilityItems cs) maximum = some cs := by
  rw [capabilityList] at read ⊢
  refine listAgain textInjective (fun c _ => ?_) read
  cases c <;> decide

theorem destinationItem {item : Json} {d : String} :
    item.text?.filter isNormalizedDestinationId = some d ↔ item = .str d ∧ isNormalizedDestinationId d = true := by
  cases item <;> simp [Json.text?,Option.filter_eq_some_iff]

-- What was read is what the items say.
theorem destinationsRead {maximum : Nat} {ds : List String} (read : parseDestinationList v maximum = some ds) :
    ∃ items, v = .arr items ∧ (∀ d ∈ ds, isNormalizedDestinationId d = true) ∧ ∀ d, d ∈ ds ↔ .str d ∈ items := by
  rw [destinationList] at read
  obtain ⟨items,array,every,each⟩ := listReads read
  simp only [destinationItem] at every each
  refine ⟨items,array,fun d mem => ?_,fun d => ⟨fun mem => ?_,fun mem => ?_⟩⟩
  · obtain ⟨_,_,_,normal⟩ := (each d).mp mem
    exact normal
  · obtain ⟨item,mem,rfl,-⟩ := (each d).mp mem
    exact mem
  · obtain ⟨c,same,normal⟩ := every _ mem
    cases same
    exact (each d).mpr ⟨_,mem,rfl,normal⟩

theorem destinationsAgain {maximum : Nat} {ds : List String} (read : parseDestinationList v maximum = some ds) :
    parseDestinationList (destinationItems ds) maximum = some ds := by
  obtain ⟨items,-,normal,-⟩ := destinationsRead read
  rw [destinationList] at read ⊢
  exact listAgain Function.injective_id (fun d mem => destinationItem.mpr ⟨rfl,normal d mem⟩) read

def keyLists : List String := ["allowed_capabilities","allowed_destination_ids"]

def routeLists : List String := ["supported_capabilities","approved_destination_ids"]

theorem keyWritten {p : ExternalToolKeyPolicy} (shape : KeyShape ceilings p)
    (capabilities : parseCapabilityList (capabilityItems p.allowedCapabilities) ceilings.maxDistinctCapabilities =
      some p.allowedCapabilities)
    (destinations : parseDestinationList (destinationItems p.allowedDestinationIds) ceilings.maxApprovedDestinations =
      some p.allowedDestinationIds) : KeyReads ceilings p.toMetadata p where
  mapping := rfl
  fields := by simp [sameKeys,keyPolicyFields,ExternalToolKeyPolicy.toMetadata,Json.keys]
  version := by simp [isExactVersion,ExternalToolKeyPolicy.toMetadata,Json.field,Json.natural?]
  mode := by
    obtain ⟨mode,caps,dests,cap,ack⟩ := p
    cases mode <;> simp [ExternalToolKeyPolicy.toMetadata,Json.field,List.lookup_cons,Json.text?,QuotaMode.text,QuotaMode.parse]
  capabilities := capabilities
  destinations := destinations
  callCap := by simp [ExternalToolKeyPolicy.toMetadata,Json.field,List.lookup_cons,Json.natural?]
  acknowledged := by simp [ExternalToolKeyPolicy.toMetadata,Json.field,List.lookup_cons,Json.bool?]
  shape := shape

theorem keyAgain {p} (reads : KeyReads ceilings v p) : KeyReads ceilings p.toMetadata p :=
  keyWritten reads.shape (capabilitiesAgain reads.capabilities) (destinationsAgain reads.destinations)

theorem keyReordered {p} (same : Reordered keyLists v w) (reads : KeyReads ceilings v p) : KeyReads ceilings w p where
  mapping := same.mapping.trans reads.mapping
  fields := reorderedKeys same reads.fields
  version := by rw [same.others _ (by decide)]; exact reads.version
  mode := by rw [same.others _ (by decide)]; exact reads.mode
  capabilities := capabilitiesReordered same (by decide) reads.capabilities
  destinations := destinationsReordered same (by decide) reads.destinations
  callCap := by rw [same.others _ (by decide)]; exact reads.callCap
  acknowledged := by rw [same.others _ (by decide)]; exact reads.acknowledged
  shape := reads.shape

theorem keyLooser {p} (tighter : Tighter ceilings looser) (reads : KeyReads ceilings v p) : KeyReads looser v p :=
  { reads with
    capabilities := capabilitiesMore tighter.capabilities reads.capabilities
    destinations := destinationsMore tighter.destinations reads.destinations
    shape := by
      have shape := reads.shape
      unfold KeyShape at shape ⊢
      split at shape
      · exact shape
      · obtain ⟨some,called,within,rest⟩ := shape
        exact ⟨some,called,within.trans tighter.calls,rest⟩ }

theorem routeWritten {p : ExternalToolRoutePolicy} (shape : RouteShape ceilings p)
    (capabilities : parseCapabilityList (capabilityItems p.supportedCapabilities) ceilings.maxDistinctCapabilities =
      some p.supportedCapabilities)
    (destinations : parseDestinationList (destinationItems p.approvedDestinationIds) ceilings.maxApprovedDestinations =
      some p.approvedDestinationIds) : RouteReads ceilings p.toMetadata p where
  mapping := rfl
  fields := by simp [sameKeys,routePolicyFields,ExternalToolRoutePolicy.toMetadata,Json.keys]
  version := by simp [isExactVersion,ExternalToolRoutePolicy.toMetadata,Json.field,Json.natural?]
  capabilities := capabilities
  destinations := destinations
  callCap := by simp [ExternalToolRoutePolicy.toMetadata,Json.field,List.lookup_cons,Json.natural?]
  enforced := by simp [ExternalToolRoutePolicy.toMetadata,Json.field,List.lookup_cons,Json.bool?]
  usage := by simp [ExternalToolRoutePolicy.toMetadata,Json.field,List.lookup_cons,Json.bool?]
  cost := by simp [ExternalToolRoutePolicy.toMetadata,Json.field,List.lookup_cons,Json.bool?]
  shape := shape

theorem routeAgain {p} (reads : RouteReads ceilings v p) : RouteReads ceilings p.toMetadata p :=
  routeWritten reads.shape (capabilitiesAgain reads.capabilities) (destinationsAgain reads.destinations)

theorem routeReordered {p} (same : Reordered routeLists v w) (reads : RouteReads ceilings v p) :
    RouteReads ceilings w p where
  mapping := same.mapping.trans reads.mapping
  fields := reorderedKeys same reads.fields
  version := by rw [same.others _ (by decide)]; exact reads.version
  capabilities := capabilitiesReordered same (by decide) reads.capabilities
  destinations := destinationsReordered same (by decide) reads.destinations
  callCap := by rw [same.others _ (by decide)]; exact reads.callCap
  enforced := by rw [same.others _ (by decide)]; exact reads.enforced
  usage := by rw [same.others _ (by decide)]; exact reads.usage
  cost := by rw [same.others _ (by decide)]; exact reads.cost
  shape := reads.shape

theorem routeLooser {p} (tighter : Tighter ceilings looser) (reads : RouteReads ceilings v p) : RouteReads looser v p :=
  { reads with
    capabilities := capabilitiesMore tighter.capabilities reads.capabilities
    destinations := destinationsMore tighter.destinations reads.destinations
    shape := by
      have shape := reads.shape
      unfold RouteShape at shape ⊢
      split at shape
      · rename_i none
        rw [if_pos none]
        exact shape
      · rename_i some
        obtain ⟨called,within,rest⟩ := shape
        rw [if_neg some]
        exact ⟨called,within.trans tighter.calls,rest⟩ }
end Policies

-- What the contract promises of an accepted policy document.
structure Canonical {α : Type} (parse : ExternalToolOperatorCeilings → Json → PolicyParseResult α) (toMetadata : α → Json)
    (destinations : α → List String) (lists : List String) (ceilings : ExternalToolOperatorCeilings) (v : Json)
    (policy : α) : Prop where
  again : parse ceilings (toMetadata policy) = parse ceilings v
  orderFree : ∀ w, Reordered lists v w → parse ceilings w = parse ceilings v
  tightening : ∀ looser, Tighter ceilings looser → Parsed (parse looser v) policy
  noSecrets : ∀ d ∈ destinations policy, ¬HasSecretRun d

def KeyCanonical := Canonical parseKeyExternalToolPolicy ExternalToolKeyPolicy.toMetadata
  ExternalToolKeyPolicy.allowedDestinationIds keyLists

def RouteCanonical := Canonical parseRouteExternalToolPolicy ExternalToolRoutePolicy.toMetadata
  ExternalToolRoutePolicy.approvedDestinationIds routeLists

-- Some listed id has the neighbouring components `api` and `key`.
def ListsApiKey (v : Json) : Prop := ∃ items d, v = .arr items ∧ .str d ∈ items ∧ HasRun "api_key" d

theorem noSecretsIff {v : Json} {maximum : Nat} {ds : List String} (read : parseDestinationList v maximum = some ds) :
    (∀ d ∈ ds, ¬HasSecretRun d) ↔ ¬ListsApiKey v := by
  obtain ⟨items,array,normal,each⟩ := destinationsRead read
  constructor
  · intro clear ⟨own,d,same,mem,run⟩
    cases array.symm.trans same
    have listed := (each d).mpr mem
    exact clear d listed ((secretRunIff (normal d listed)).mpr run)
  · intro clear d mem run
    exact clear ⟨items,d,array,(each d).mp mem,(secretRunIff (normal d mem)).mp run⟩

theorem keyCanonicalIff {ceilings : ExternalToolOperatorCeilings} {v : Json} {p : ExternalToolKeyPolicy}
    (parsed : Parsed (parseKeyExternalToolPolicy ceilings v) p) :
    KeyCanonical ceilings v p ↔ ¬ListsApiKey (v.field "allowed_destination_ids") := by
  have reads := keyParsed.mp parsed
  rw [← noSecretsIff reads.destinations]
  refine ⟨Canonical.noSecrets,fun clear => ⟨?_,fun w same => ?_,fun looser tighter => ?_,clear⟩⟩
  · exact (parsedResult (keyParsed.mpr (keyAgain reads))).trans (parsedResult parsed).symm
  · exact (parsedResult (keyParsed.mpr (keyReordered same reads))).trans (parsedResult parsed).symm
  · exact keyParsed.mpr (keyLooser tighter reads)

theorem routeCanonicalIff {ceilings : ExternalToolOperatorCeilings} {v : Json} {p : ExternalToolRoutePolicy}
    (parsed : Parsed (parseRouteExternalToolPolicy ceilings v) p) :
    RouteCanonical ceilings v p ↔ ¬ListsApiKey (v.field "approved_destination_ids") := by
  have reads := routeParsed.mp parsed
  rw [← noSecretsIff reads.destinations]
  refine ⟨Canonical.noSecrets,fun clear => ⟨?_,fun w same => ?_,fun looser tighter => ?_,clear⟩⟩
  · exact (parsedResult (routeParsed.mpr (routeAgain reads))).trans (parsedResult parsed).symm
  · exact (parsedResult (routeParsed.mpr (routeReordered same reads))).trans (parsedResult parsed).symm
  · exact routeParsed.mpr (routeLooser tighter reads)

theorem policiesCanonicalIff (ceilings : ExternalToolOperatorCeilings) (v : Json) :
    (∀ p, Parsed (parseKeyExternalToolPolicy ceilings v) p →
      (KeyCanonical ceilings v p ↔ ¬ListsApiKey (v.field "allowed_destination_ids"))) ∧
    (∀ p, Parsed (parseRouteExternalToolPolicy ceilings v) p →
      (RouteCanonical ceilings v p ↔ ¬ListsApiKey (v.field "approved_destination_ids"))) :=
  ⟨fun _ => keyCanonicalIff,fun _ => routeCanonicalIff⟩

def connectorKey (destination : String) : ExternalToolKeyPolicy :=
  ⟨.externalToolFenced,[.connector],[destination],1,true⟩

def connectorRoute (destination : String) : ExternalToolRoutePolicy := ⟨[.connector],[destination],1,true,true,true⟩

theorem oneDestination {destination : String} (normal : isNormalizedDestinationId destination = true) :
    parseDestinationList (destinationItems [destination]) 8 = some [destination] := by
  simp [parseDestinationList,destinationItems,Json.text?,normal,Option.filter]

theorem connectorRouteReads {destination : String} (normal : isNormalizedDestinationId destination = true)
    (kind : destinationKind destination = some .connector) :
    RouteReads demoCeilings (connectorRoute destination).toMetadata (connectorRoute destination) := by
  refine routeWritten ?_ (by decide +kernel : parseCapabilityList (capabilityItems [.connector]) 16 = some [.connector])
    (oneDestination normal)
  rw [RouteShape,if_neg (by simp [connectorRoute])]
  exact ⟨Nat.one_ne_zero,(by decide : 1 ≤ 16),⟨rfl,rfl,rfl⟩,by simp [destinationsMatchCapabilities,connectorRoute,kind]⟩

theorem connectorKeyReads {destination : String} (normal : isNormalizedDestinationId destination = true)
    (kind : destinationKind destination = some .connector) :
    KeyReads demoCeilings (connectorKey destination).toMetadata (connectorKey destination) := by
  refine keyWritten ?_ (by decide +kernel : parseCapabilityList (capabilityItems [.connector]) 16 = some [.connector])
    (oneDestination normal)
  exact ⟨List.cons_ne_nil _ _,Nat.one_ne_zero,(by decide : 1 ≤ 16),rfl,
    by simp [destinationsMatchCapabilities,connectorKey,kind]⟩

theorem driveListsNoApiKey : ¬ListsApiKey (destinationItems ["connector:drive"]) := by
  intro ⟨items,d,same,mem,kind,opaqueId,shape,run⟩
  cases same
  obtain rfl : d = "connector:drive" := by simpa using mem
  have found : matchDestination "connector:drive" = some (.connector,"drive".toList) := by decide +kernel
  cases found.symm.trans shape
  exact absurd run (by decide +kernel)

theorem policiesCanonicalDemo :
    KeyCanonical demoCeilings (connectorKey "connector:drive").toMetadata (connectorKey "connector:drive") ∧
      RouteCanonical demoCeilings (connectorRoute "connector:drive").toMetadata (connectorRoute "connector:drive") :=
  ⟨((policiesCanonicalIff demoCeilings (connectorKey "connector:drive").toMetadata).1 _
      (keyParsed.mpr (connectorKeyReads (by decide +kernel) (by decide +kernel)))).mpr driveListsNoApiKey,
    ((policiesCanonicalIff demoCeilings (connectorRoute "connector:drive").toMetadata).2 _
      (routeParsed.mpr (connectorRouteReads (by decide +kernel) (by decide +kernel)))).mpr driveListsNoApiKey⟩

theorem apiKeyAccepted :
    Parsed (parseRouteExternalToolPolicy demoCeilings (connectorRoute "connector:my_api_key").toMetadata)
      (connectorRoute "connector:my_api_key") ∧ HasSecretRun "connector:my_api_key" ∧
      ¬RouteCanonical demoCeilings (connectorRoute "connector:my_api_key").toMetadata
        (connectorRoute "connector:my_api_key") := by
  have run : HasSecretRun "connector:my_api_key" :=
    ⟨"api_key",by decide,.connector,"my_api_key".toList,by decide +kernel,by decide +kernel⟩
  refine ⟨?_,run,fun canonical => canonical.noSecrets _ (List.mem_singleton.mpr rfl) run⟩
  exact routeParsed.mpr (connectorRouteReads (by decide +kernel) (by decide +kernel))
end SlaifGateway.Tools
