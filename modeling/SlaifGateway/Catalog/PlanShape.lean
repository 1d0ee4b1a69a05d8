import SlaifGateway.Catalog.Planning
import SlaifGateway.Catalog.CleanCut
import Mathlib.Data.List.Dedup

/-! The operations of a plan by the key they name. Supersessions are kept once for each
baseline row, but a price is created once for every selected model: two models that
forward to one upstream without an active price plan it twice. -/
namespace SlaifGateway.Catalog
open Store (Uuid Time)
open Library

namespace Operation

def pricingKey? : Operation → Option (String × String × String)
  | createPricing provider model endpoint _ => some (provider,model,endpoint)
  | supersedePricing provider model endpoint _ _ => some (provider,model,endpoint)
  | _ => none

def fxPair? : Operation → Option (String × String)
  | createFx base quote _ => some (base,quote)
  | supersedeFx base quote _ _ => some (base,quote)
  | _ => none

def supersededFx? : Operation → Option Uuid
  | supersedeFx _ _ old _ => some old.rowId
  | _ => none
end Operation

def pricingRows (baseline : Option CatalogRows) : List PricingRule := (baseline.map CatalogRows.pricing).getD []

def fxRows (baseline : Option CatalogRows) : List FxRate := (baseline.map CatalogRows.fx).getD []

/-- Selected models that share an upstream find an active price there. -/
def Unshared (b : RefreshBundle) (baseline : Option CatalogRows) (now : Time) : Prop :=
  ∀ n ∈ selected b baseline, ∀ m ∈ selected b baseline, n ≠ m → n.1 = m.1 → ∀ upstream p q,
    proposal b n = some (upstream,p) → proposal b m = some (upstream,q) →
    (selectActivePricing (baselinePricingFor baseline n.1 upstream) now).1 ≠ none

section Actions
variable {ctx : Context} {b : RefreshBundle} {baseline : Option CatalogRows} {now : Time}

structure Creates (ctx : Context) (b : RefreshBundle) (baseline : Option CatalogRows) (now : Time) (n : ModelName)
    (upstream : String) (p : ModelPricingFacts) : Prop where
  proposed : proposal b n = some (upstream,p)
  provider : p.provider = n.1
  action : (reviewModel ctx b baseline now n).action = .create upstream p
  inactive : (selectActivePricing (baselinePricingFor baseline n.1 upstream) now).1 = none
  quiet : ∀ r ∈ baselinePricingFor baseline n.1 upstream, r.validFrom ≤ now ∧ r.activeAt now = false

structure Supersedes (ctx : Context) (b : RefreshBundle) (baseline : Option CatalogRows) (now : Time) (n : ModelName)
    (upstream : String) (old : PricingRule) (p : ModelPricingFacts) : Prop where
  proposed : proposal b n = some (upstream,p)
  action : (reviewModel ctx b baseline now n).action = .supersede old p
  found : (selectActivePricing (baselinePricingFor baseline n.1 upstream) now).1 = some old
  changed : priceChanged ctx.policy.priceChangeReview old p = true
  once : countActivePricing (baselinePricingFor baseline n.1 upstream) now = 1

theorem baselinePricingMem {provider upstream : String} {r : PricingRule} :
    r ∈ baselinePricingFor baseline provider upstream ↔
      r ∈ pricingRows baseline ∧ r.key.texts = (provider,upstream,chatEndpoint) := by
  simp [baselinePricingFor,pricingRows,List.mem_filter]

theorem baselineFxMem {base quote : String} {r : FxRate} :
    r ∈ baselineFxFor baseline base quote ↔ r ∈ fxRows baseline ∧ r.pair.texts = (base,quote) := by
  simp [baselineFxFor,fxRows,List.mem_filter]

theorem actionCases {n : ModelName} (clear : (reviewModel ctx b baseline now n).Clear) :
    ((reviewModel ctx b baseline now n).action = .none ∧ ∀ upstream p, proposal b n = some (upstream,p) →
      ∃ old, (selectActivePricing (baselinePricingFor baseline n.1 upstream) now).1 = some old ∧
        priceChanged ctx.policy.priceChangeReview old p = false) ∨
    (∃ upstream p, Creates ctx b baseline now n upstream p) ∨
    ∃ upstream old p, Supersedes ctx b baseline now n upstream old p := by
  obtain ⟨none,idle,_⟩ | ⟨upstream,p,proposed,provider,price,_⟩ := reviewModelClear clear
  · exact Or.inl ⟨idle,by simp [none]⟩
  · obtain ⟨inactive,action,past⟩ | ⟨old,found,⟨changed,once,action⟩ | ⟨same,action⟩⟩ := pricingActionClear price.blockers
    · refine Or.inr (Or.inl ⟨upstream,p,proposed,provider,price.action.trans action,inactive,fun r mem => ?_⟩)
      exact ⟨(past r mem).2,selectActiveNone inactive price.sure r mem⟩
    · exact Or.inr (Or.inr ⟨upstream,old,p,proposed,price.action.trans action,found,changed,once⟩)
    · refine Or.inl ⟨price.action.trans action,fun u q also => ?_⟩
      cases proposed.symm.trans also
      exact ⟨old,found,same⟩

theorem Supersedes.oldMem {n upstream old p} (h : Supersedes ctx b baseline now n upstream old p) :
    old ∈ pricingRows baseline ∧ old.key.texts = (n.1,upstream,chatEndpoint) ∧ old.activeAt now = true := by
  obtain ⟨mem,active⟩ := selectActiveSome h.found
  exact ⟨(baselinePricingMem.mp mem).1,(baselinePricingMem.mp mem).2,active⟩
theorem effectiveFxError {currency : String} {f : Finding} (h : effectiveFx ctx b now currency = .error f) :
    f.severity = .blocker := by
  unfold effectiveFx at h
  simp only at h
  split at h
  · cases h
    rfl
  · split at h
    · cases h
      rfl
    · split at h <;> cases h
      rfl
    · cases h
    · split at h <;> cases h
      rfl

/-- The FX operation of one required currency in a review without blockers. -/
inductive FxAction (ctx : Context) (baseline : Option CatalogRows) (now : Time) (currency : String) (fact : FxFacts)
    (rate : ℚ) : Option Operation → Prop where
  | same (old) (found : (selectActiveFx (baselineFxFor baseline currency "EUR") now).1 = some old)
      (equal : rate = old.rate) : FxAction ctx baseline now currency fact rate none
  | create (inactive : (selectActiveFx (baselineFxFor baseline currency "EUR") now).1 = none)
      (quiet : ∀ r ∈ baselineFxFor baseline currency "EUR", r.activeAt now = false) :
      FxAction ctx baseline now currency fact rate (some (createFxOp currency rate fact.source))
  | supersede (old) (found : (selectActiveFx (baselineFxFor baseline currency "EUR") now).1 = some old)
      (moved : rate ≠ old.rate) (once : countActiveFx (baselineFxFor baseline currency "EUR") now = 1) :
      FxAction ctx baseline now currency fact rate (some (supersedeFxOp old rate fact.source))

theorem reviewFxClear {currency : String} (clear : Free (reviewFx ctx b baseline now currency).findings) :
    ∃ fact rate, effectiveFx ctx b now currency = .ok (fact,rate) ∧
      FxAction ctx baseline now currency fact rate (reviewFx ctx b baseline now currency).operation := by
  unfold reviewFx at clear ⊢
  cases effective : effectiveFx ctx b now currency with
  | error f =>
    simp only [effective] at clear
    exact absurd (effectiveFxError effective) (clear f List.mem_cons_self)
  | ok pair =>
    obtain ⟨fact,rate⟩ := pair
    simp only [effective] at clear ⊢
    refine ⟨fact,rate,rfl,?_⟩
    split at clear
    · simp [freeAppend] at clear
    rename_i valid
    rw [if_neg valid]
    split at clear
    · rename_i old found
      simp only [found]
      split at clear
      · rename_i equal
        rw [if_pos equal]
        exact .same old found equal
      · rename_i moved
        rw [if_neg moved]
        split at clear
        · simp [freeAppend] at clear
        · rename_i once
          rw [if_neg once]
          exact .supersede old found moved (not_not.mp once)
    · rename_i inactive
      simp only [inactive]
      split at clear
      · rename_i ambiguous
        simp [ambiguous] at clear
      · rename_i sure
        rw [if_neg sure]
        simp only [Bool.or_eq_true,not_or,Bool.not_eq_true] at sure
        exact .create inactive (selectActiveNone inactive sure.1)
end Actions

section Shape
variable {ctx : Context} {b : RefreshBundle} {baseline : Option CatalogRows} {now : Time}

theorem selectedNodup : (selected b baseline).Nodup :=
  (List.perm_insertionSort _ _).nodup_iff.mpr (List.nodup_dedup _)

theorem requiredCurrenciesNodup : (requiredCurrencies b baseline).Nodup :=
  (List.perm_insertionSort _ _).nodup_iff.mpr ((List.nodup_dedup _).filter _)

theorem nodupFilterMap {α β γ : Type} {l : List α} {f : α → Option β} {g : α → Option γ} (once : (l.filterMap f).Nodup)
    (same : ∀ a ∈ l, ∀ x ∈ l, ∀ k, g a = some k → g x = some k → ∃ i, f a = some i ∧ f x = some i) :
    (l.filterMap g).Nodup := by
  unfold List.Nodup at once ⊢
  rw [List.pairwise_filterMap] at once ⊢
  refine once.imp_of_mem fun {a x} here there apart k first k' second equal => ?_
  subst equal
  obtain ⟨i,left,right⟩ := same a here x there k first second
  exact apart i left i right rfl

variable (ready : (validateBundle ctx b baseline now).state ≠ .blocked)
include ready

theorem fxOpCase {op : Operation} (mem : op ∈ fxOps ctx b baseline now) : ∃ currency ∈ requiredCurrencies b baseline,
    ∃ fact rate, effectiveFx ctx b now currency = .ok (fact,rate) ∧
      FxAction ctx baseline now currency fact rate (some op) := by
  obtain ⟨review,here,made⟩ := List.mem_filterMap.mp mem
  obtain ⟨currency,required,rfl⟩ := List.mem_map.mp here
  obtain ⟨fact,rate,effective,action⟩ := reviewFxClear (readyFx ready required)
  exact ⟨currency,required,fact,rate,effective,made ▸ action⟩

theorem createOpCreates {n : ModelName} {op : Operation} (name : n ∈ selected b baseline)
    (made : createOp? (reviewModel ctx b baseline now n) = some op) :
    ∃ upstream p, Creates ctx b baseline now n upstream p ∧ op = createPricingOp p upstream := by
  obtain ⟨idle,_⟩ | ⟨upstream,p,creates⟩ | ⟨_,_,_,supersedes⟩ := actionCases (readyReview ready name)
  · simp [createOp?,idle] at made
  · simp only [createOp?,creates.action,Option.some.injEq] at made
    exact ⟨upstream,p,creates,made.symm⟩
  · simp [createOp?,supersedes.action] at made

theorem createCase {op : Operation} (mem : op ∈ (reviews ctx b baseline now).filterMap createOp?) :
    ∃ n ∈ selected b baseline, ∃ upstream p, Creates ctx b baseline now n upstream p ∧ op = createPricingOp p upstream := by
  obtain ⟨review,here,made⟩ := List.mem_filterMap.mp mem
  obtain ⟨n,name,rfl⟩ := List.mem_map.mp here
  exact ⟨n,name,createOpCreates ready name made⟩

theorem supersedeCase {op : Operation} (mem : op ∈ supersedeOps [] (reviews ctx b baseline now)) :
    ∃ n ∈ selected b baseline, ∃ upstream old p, Supersedes ctx b baseline now n upstream old p ∧
      op = supersedePricingOp old p := by
  obtain ⟨review,here,old,p,action,rfl,_⟩ := supersedeOpsMem mem
  obtain ⟨n,name,rfl⟩ := List.mem_map.mp here
  obtain ⟨idle,_⟩ | ⟨_,_,creates⟩ | ⟨upstream,old',p',supersedes⟩ := actionCases (readyReview ready name)
  · cases idle.symm.trans action
  · cases creates.action.symm.trans action
  · cases supersedes.action.symm.trans action
    exact ⟨n,name,upstream,old,p,supersedes,rfl⟩

theorem planPricing {op : Operation} {k} (mem : op ∈ planOperations ctx b baseline now) (key : op.pricingKey? = some k) :
    op ∈ (reviews ctx b baseline now).filterMap createOp? ∨ op ∈ supersedeOps [] (reviews ctx b baseline now) := by
  have where' := (planPerm ctx b baseline now).mem_iff.mp mem
  simp only [List.mem_append] at where'
  obtain (((route | create) | supersede) | provider) | fx := where'
  · obtain ⟨_,_,inner⟩ := List.mem_flatMap.mp route
    obtain ⟨_,_,rfl⟩ := List.mem_map.mp inner
    cases key
  · exact Or.inl create
  · exact Or.inr supersede
  · obtain ⟨_,_,rfl⟩ := List.mem_map.mp provider
    cases key
  · obtain ⟨_,_,_,_,_,action⟩ := fxOpCase ready fx
    cases action <;> cases key

/-- Every price of the plan is the proposal of a selected model, under the upstream it forwards to. -/
theorem planPrice {op : Operation} {price : PlannedPrice} (mem : op ∈ planOperations ctx b baseline now)
    (priced : op.price? = some price) : ∃ n ∈ selected b baseline, ∃ upstream p, proposal b n = some (upstream,p) ∧
      price = ⟨n.1,upstream,chatEndpoint,p.newPrice⟩ := by
  have key : op.pricingKey? = some (price.provider,price.model,price.endpoint) := by
    cases op <;> cases priced <;> rfl
  obtain create | supersede := planPricing ready mem key
  · obtain ⟨n,name,upstream,p,creates,rfl⟩ := createCase ready create
    refine ⟨n,name,upstream,p,creates.proposed,?_⟩
    rw [← creates.provider]
    exact (Option.some.inj priced).symm
  · obtain ⟨n,name,upstream,old,p,supersedes,rfl⟩ := supersedeCase ready supersede
    refine ⟨n,name,upstream,p,supersedes.proposed,?_⟩
    have texts := supersedes.oldMem.2.1
    simp only [PricingKey.texts,Prod.mk.injEq] at texts
    rw [← texts.1,← texts.2.1,← texts.2.2]
    exact (Option.some.inj priced).symm

theorem planFx {op : Operation} {k} (mem : op ∈ planOperations ctx b baseline now) (pair : op.fxPair? = some k) :
    op ∈ fxOps ctx b baseline now := by
  have where' := (planPerm ctx b baseline now).mem_iff.mp mem
  simp only [List.mem_append] at where'
  obtain (((route | create) | supersede) | provider) | fx := where'
  · obtain ⟨_,_,inner⟩ := List.mem_flatMap.mp route
    obtain ⟨_,_,rfl⟩ := List.mem_map.mp inner
    cases pair
  · obtain ⟨_,_,_,_,_,rfl⟩ := createCase ready create
    cases pair
  · obtain ⟨_,_,_,_,_,_,rfl⟩ := supersedeCase ready supersede
    cases pair
  · obtain ⟨_,_,rfl⟩ := List.mem_map.mp provider
    cases pair
  · exact fx
omit ready in
theorem planParts {β : Type} (f : Operation → Option β) (route : ∀ r, f (createRouteOp r) = none)
    (provider : ∀ p, f (createProviderOp p) = none) : List.Perm ((planOperations ctx b baseline now).filterMap f)
    (((reviews ctx b baseline now).filterMap createOp?).filterMap f ++
      (supersedeOps [] (reviews ctx b baseline now)).filterMap f ++ (fxOps ctx b baseline now).filterMap f) := by
  refine ((planPerm ctx b baseline now).filterMap _).trans ?_
  have routes : (routeOps (reviews ctx b baseline now)).filterMap f = [] := by
    refine List.filterMap_eq_nil_iff.mpr fun op mem => ?_
    obtain ⟨_,_,inner⟩ := List.mem_flatMap.mp mem
    obtain ⟨r,_,rfl⟩ := List.mem_map.mp inner
    exact route r
  have providers : ((newProviders baseline (reviews ctx b baseline now)).map createProviderOp).filterMap f = [] := by
    refine List.filterMap_eq_nil_iff.mpr fun op mem => ?_
    obtain ⟨p,_,rfl⟩ := List.mem_map.mp mem
    exact provider p
  simp only [List.filterMap_append,routes,providers,List.nil_append,List.append_nil]
  exact List.Perm.refl _

theorem fxPart {β : Type} {f : Operation → Option β} (create : ∀ c rate source, f (createFxOp c rate source) = none)
    (supersede : ∀ old rate source, f (supersedeFxOp old rate source) = none) :
    (fxOps ctx b baseline now).filterMap f = [] := by
  refine List.filterMap_eq_nil_iff.mpr fun op mem => ?_
  obtain ⟨_,_,_,_,_,action⟩ := fxOpCase ready mem
  cases action with
  | create => exact create _ _ _
  | supersede => exact supersede _ _ _

theorem createPart {β : Type} {f : Operation → Option β} (create : ∀ p upstream, f (createPricingOp p upstream) = none) :
    ((reviews ctx b baseline now).filterMap createOp?).filterMap f = [] := by
  refine List.filterMap_eq_nil_iff.mpr fun op mem => ?_
  obtain ⟨_,_,_,_,_,rfl⟩ := createCase ready mem
  exact create _ _

theorem supersedePart {β : Type} {f : Operation → Option β} (supersede : ∀ old p, f (supersedePricingOp old p) = none) :
    (supersedeOps [] (reviews ctx b baseline now)).filterMap f = [] := by
  refine List.filterMap_eq_nil_iff.mpr fun op mem => ?_
  obtain ⟨_,_,_,_,_,_,rfl⟩ := supersedeCase ready mem
  exact supersede _ _

theorem planKeys : List.Perm ((planOperations ctx b baseline now).filterMap Operation.pricingKey?)
    (((reviews ctx b baseline now).filterMap createOp?).filterMap Operation.pricingKey? ++
      (supersedeOps [] (reviews ctx b baseline now)).filterMap Operation.pricingKey?) := by
  have parts := @planParts ctx b baseline now _ Operation.pricingKey? (fun _ => rfl) fun _ => rfl
  rwa [fxPart ready (fun _ _ _ => rfl) fun _ _ _ => rfl,List.append_nil] at parts

theorem supersededPricingNodup : ((planOperations ctx b baseline now).filterMap Operation.supersededPricing?).Nodup := by
  refine (planParts _ (fun _ => rfl) fun _ => rfl).nodup_iff.mpr ?_
  rw [fxPart ready (fun _ _ _ => rfl) fun _ _ _ => rfl,createPart ready fun _ _ => rfl,List.append_nil,List.nil_append]
  exact supersedeOpsNodup

theorem planFxOps {β : Type} {f : Operation → Option β} (route : ∀ r, f (createRouteOp r) = none)
    (provider : ∀ p, f (createProviderOp p) = none) (create : ∀ p upstream, f (createPricingOp p upstream) = none)
    (supersede : ∀ old p, f (supersedePricingOp old p) = none) :
    List.Perm ((planOperations ctx b baseline now).filterMap f) ((fxOps ctx b baseline now).filterMap f) := by
  have parts := @planParts ctx b baseline now _ f route provider
  rwa [createPart ready create,supersedePart ready supersede,List.nil_append,List.nil_append] at parts

omit ready in
theorem fxOpPair {op : Operation} {currency fact rate} (action : FxAction ctx baseline now currency fact rate (some op)) :
    op.fxPair? = some (currency,"EUR") := by
  cases action with
  | create => rfl
  | supersede old found =>
    have pair := (baselineFxMem.mp (selectActiveSome found).1).2
    exact congrArg some pair

theorem fxOpsNodup : ((fxOps ctx b baseline now).filterMap Operation.fxPair?).Nodup := by
  rw [fxOps,List.filterMap_filterMap,fxReviews,List.filterMap_map,List.Nodup,List.pairwise_filterMap]
  refine List.Nodup.pairwise_of_forall_ne requiredCurrenciesNodup fun c mem c' also other k left k' right equal => ?_
  obtain ⟨op,made,pair⟩ := Option.bind_eq_some_iff.mp left
  obtain ⟨op',made',pair'⟩ := Option.bind_eq_some_iff.mp right
  obtain ⟨_,_,_,action⟩ := reviewFxClear (readyFx ready mem)
  obtain ⟨_,_,_,action'⟩ := reviewFxClear (readyFx ready also)
  rw [made] at action
  rw [made'] at action'
  rw [fxOpPair action] at pair
  rw [fxOpPair action',← equal,← pair] at pair'
  simp only [Option.some.injEq,Prod.mk.injEq,and_true] at pair'
  exact other pair'.symm

theorem fxPairsNodup : ((planOperations ctx b baseline now).filterMap Operation.fxPair?).Nodup := by
  refine (planFxOps ready (fun _ => rfl) (fun _ => rfl) (fun _ _ => rfl) fun _ _ => rfl).nodup_iff.mpr ?_
  exact fxOpsNodup ready

theorem supersededFxNodup (keyed : ((fxRows baseline).map FxRate.id).Nodup) :
    ((planOperations ctx b baseline now).filterMap Operation.supersededFx?).Nodup := by
  refine (planFxOps ready (fun _ => rfl) (fun _ => rfl) (fun _ _ => rfl) fun _ _ => rfl).nodup_iff.mpr ?_
  refine nodupFilterMap (fxOpsNodup ready) fun op mem op' also i named named' => ?_
  obtain ⟨currency,_,_,_,_,action⟩ := fxOpCase ready mem
  obtain ⟨currency',_,_,_,_,action'⟩ := fxOpCase ready also
  refine ⟨(currency,"EUR"),fxOpPair action,?_⟩
  rw [fxOpPair action']
  cases action with
  | create => cases named
  | supersede old found =>
    cases action' with
    | create => cases named'
    | supersede old' found' =>
      have left := baselineFxMem.mp (selectActiveSome found).1
      have right := baselineFxMem.mp (selectActiveSome found').1
      have same := List.inj_on_of_nodup_map keyed left.1 right.1 (Option.some.inj (named.trans named'.symm))
      rw [← right.2,← left.2,same]

theorem createKeysNodup : (((reviews ctx b baseline now).filterMap createOp?).filterMap Operation.pricingKey?).Nodup ↔
    Unshared b baseline now := by
  have flat : ((reviews ctx b baseline now).filterMap createOp?).filterMap Operation.pricingKey? =
      (selected b baseline).filterMap fun n =>
        (createOp? (reviewModel ctx b baseline now n)).bind Operation.pricingKey? := by
    rw [List.filterMap_filterMap,reviews,List.filterMap_map]
    rfl
  have keyOf : ∀ {n upstream p}, Creates ctx b baseline now n upstream p →
      (createOp? (reviewModel ctx b baseline now n)).bind Operation.pricingKey? = some (n.1,upstream,chatEndpoint) := by
    intro n upstream p creates
    simp [createOp?,creates.action,createPricingOp,Operation.pricingKey?,creates.provider]
  rw [flat,List.Nodup,List.pairwise_filterMap]
  constructor
  · intro apart n mem m also other provider upstream p q first second active
    have creates : ∀ x ∈ selected b baseline, x.1 = n.1 → ∀ facts, proposal b x = some (upstream,facts) →
        Creates ctx b baseline now x upstream facts := by
      intro x here same facts proposed
      obtain ⟨_,idle⟩ | ⟨u,f,made⟩ | ⟨u,old,f,made⟩ := actionCases (readyReview ready here)
      · obtain ⟨old,found,_⟩ := idle upstream facts proposed
        rw [same,active] at found
        cases found
      · cases made.proposed.symm.trans proposed
        exact made
      · cases made.proposed.symm.trans proposed
        have found := made.found
        rw [same,active] at found
        cases found
    have left := keyOf (creates n mem rfl p first)
    have right := keyOf (creates m also provider.symm q second)
    have symmetric : Std.Symm fun a x : ModelName => ∀ k, (createOp? (reviewModel ctx b baseline now a)).bind
        Operation.pricingKey? = some k → ∀ k', (createOp? (reviewModel ctx b baseline now x)).bind
        Operation.pricingKey? = some k' → k ≠ k' := ⟨fun a x h k hk k' hk' => (h k' hk' k hk).symm⟩
    exact apart.forall mem also other _ left _ right (by rw [provider])
  · intro unshared
    refine List.Nodup.pairwise_of_forall_ne selectedNodup fun n mem m also other k left k' right equal => ?_
    subst equal
    obtain ⟨op,made,key⟩ := Option.bind_eq_some_iff.mp left
    obtain ⟨op',made',key'⟩ := Option.bind_eq_some_iff.mp right
    obtain ⟨upstream,p,creates,rfl⟩ := createOpCreates ready mem made
    obtain ⟨upstream',q,creates',rfl⟩ := createOpCreates ready also made'
    simp only [createPricingOp,Operation.pricingKey?,Option.some.injEq] at key key'
    obtain ⟨provider,rfl,_⟩ : p.provider = q.provider ∧ upstream = upstream' ∧ True := by
      simpa [Prod.ext_iff] using key.trans key'.symm
    rw [creates.provider,creates'.provider] at provider
    exact unshared n mem m also other provider upstream p q creates.proposed creates'.proposed creates.inactive

theorem supersedeKeysNodup : ((supersedeOps [] (reviews ctx b baseline now)).filterMap Operation.pricingKey?).Nodup := by
  refine nodupFilterMap supersedeOpsNodup fun op mem op' also k key key' => ?_
  obtain ⟨n,_,upstream,old,p,supersedes,rfl⟩ := supersedeCase ready mem
  obtain ⟨m,_,upstream',old',q,supersedes',rfl⟩ := supersedeCase ready also
  have same : old.key.texts = old'.key.texts := Option.some.inj (key.trans key'.symm)
  rw [supersedes.oldMem.2.1,supersedes'.oldMem.2.1] at same
  obtain ⟨provider,rfl⟩ : n.1 = m.1 ∧ upstream = upstream' := by simpa [Prod.ext_iff] using same
  have found := supersedes.found
  rw [provider,supersedes'.found] at found
  cases found
  exact ⟨old.id,rfl,rfl⟩

theorem pricingKeysNodup : ((planOperations ctx b baseline now).filterMap Operation.pricingKey?).Nodup ↔
    Unshared b baseline now := by
  rw [(planKeys ready).nodup_iff,List.nodup_append,createKeysNodup ready]
  refine ⟨fun h => h.1,fun unshared => ⟨unshared,supersedeKeysNodup ready,fun k left k' right equal => ?_⟩⟩
  subst equal
  obtain ⟨op,mem,key⟩ := List.mem_filterMap.mp left
  obtain ⟨op',mem',key'⟩ := List.mem_filterMap.mp right
  obtain ⟨n,_,upstream,p,creates,rfl⟩ := createCase ready mem
  obtain ⟨m,_,upstream',old,q,supersedes,rfl⟩ := supersedeCase ready mem'
  have same : (p.provider,upstream,chatEndpoint) = old.key.texts := Option.some.inj (key.trans key'.symm)
  rw [supersedes.oldMem.2.1] at same
  obtain ⟨provider,rfl⟩ : p.provider = m.1 ∧ upstream = upstream' := by simpa [Prod.ext_iff] using same
  have found := supersedes.found
  rw [← provider,creates.provider,creates.inactive] at found
  cases found
end Shape
end SlaifGateway.Catalog
