import SlaifGateway.Catalog.PlanShape
import SlaifGateway.Catalog.CleanCut

/-! When a plan leaves one price for each key it names: the rows of the baseline it does
not close and the rows it inserts, counted for the plan and found again in the tables
after its execution. -/
namespace SlaifGateway.Catalog
open Store (Uuid Time)
open Library Library.Tx

namespace Operation

def ClosesPricing (T : Time) (r : PricingRule) : Operation → Prop
  | supersedePricing provider model endpoint old _ => old.Guard provider model endpoint T r
  | _ => False

def ClosesFx (T : Time) (r : FxRate) : Operation → Prop
  | supersedeFx base quote old _ => old.Guard base quote T r
  | _ => False

instance (T : Time) (r : PricingRule) (op : Operation) : Decidable (op.ClosesPricing T r) := by
  cases op <;> unfold ClosesPricing <;> infer_instance

instance (T : Time) (r : FxRate) (op : Operation) : Decidable (op.ClosesFx T r) := by
  cases op <;> unfold ClosesFx <;> infer_instance
end Operation

/-- The key under which the price of an operation is stored. -/
def Operation.storedKey? (op : Operation) : Option (String × String × String) :=
  (op.price?.bind PlannedPrice.key).map PricingKey.texts

def Operation.storedPair? (op : Operation) : Option (String × String) :=
  (op.rate?.bind PlannedRate.pair).map FxPair.texts

/-- The enabled rows of a key valid at `T` once the operations are carried out there. -/
def pricingLeft (T : Time) (ops : List Operation) (rows : List PricingRule) (k : String × String × String) : ℕ :=
  rows.countP (fun r => r.key.texts = k ∧ pricingDated.Covers r T ∧ ∀ op ∈ ops, ¬op.ClosesPricing T r) +
    ops.countP fun op => op.storedKey? = some k

def fxLeft (T : Time) (ops : List Operation) (rows : List FxRate) (k : String × String) : ℕ :=
  rows.countP (fun r => r.pair.texts = k ∧ fxDated.Covers r T ∧ ∀ op ∈ ops, ¬op.ClosesFx T r) +
    ops.countP fun op => op.storedPair? = some k

structure OnePrice (T : Time) (ops : List Operation) (pricing : List PricingRule) (fx : List FxRate) : Prop where
  keys : (ops.filterMap Operation.pricingKey?).Nodup
  pairs : (ops.filterMap Operation.fxPair?).Nodup
  supersededPricing : (ops.filterMap Operation.supersededPricing?).Nodup
  supersededFx : (ops.filterMap Operation.supersededFx?).Nodup
  prices : ∀ k ∈ ops.filterMap Operation.pricingKey?, pricingLeft T ops pricing k = 1
  rates : ∀ k ∈ ops.filterMap Operation.fxPair?, fxLeft T ops fx k = 1

/-- A baseline as the tables give it out. -/
structure Exported (baseline : Option CatalogRows) : Prop where
  pricingIds : ((pricingRows baseline).map PricingRule.id).Nodup
  fxIds : ((fxRows baseline).map FxRate.id).Nodup
  normal : ∀ r ∈ pricingRows baseline, r.key.Normal

section Conditions
variable (ctx : Context) (b : RefreshBundle) (baseline : Option CatalogRows) (now T : Time)

/-- A model that gets a new price names its upstream as the table will. -/
def Spelled : Prop :=
  ∀ n ∈ selected b baseline, ∀ upstream p, proposal b n = some (upstream,p) →
    (selectActivePricing (baselinePricingFor baseline n.1 upstream) now).1 = none →
    PricingKey.Normal ⟨n.1,upstream,chatEndpoint⟩

/-- No row of an upstream whose price changes starts between the review and `T` and is valid at `T`. -/
def PriceSteady : Prop :=
  ∀ n ∈ selected b baseline, ∀ upstream p old, proposal b n = some (upstream,p) →
    (selectActivePricing (baselinePricingFor baseline n.1 upstream) now).1 = some old →
    priceChanged ctx.policy.priceChangeReview old p = true →
    ∀ r ∈ baselinePricingFor baseline n.1 upstream, now < r.validFrom → ¬pricingDated.Covers r T

def RateSteady : Prop :=
  ∀ currency ∈ requiredCurrencies b baseline, ∀ fact rate, effectiveFx ctx b now currency = .ok (fact,rate) →
    (∀ old ∈ (selectActiveFx (baselineFxFor baseline currency "EUR") now).1, rate ≠ old.rate) →
    ∀ r ∈ baselineFxFor baseline currency "EUR", now < r.validFrom → ¬fxDated.Covers r T
end Conditions

theorem keyCount {κ : Type} [DecidableEq κ] {ops : List Operation} {f : Operation → Option κ} {k : κ}
    (once : (ops.filterMap f).Nodup) (mem : k ∈ ops.filterMap f) : ops.countP (fun op => f op = some k) = 1 := by
  rw [← List.count_eq_one_of_mem once mem,List.count_filterMap]
  exact List.countP_congr fun op _ => by simp

theorem pricingLeftIff {T : Time} {ops : List Operation} {rows : List PricingRule} {k}
    (stored : ∀ op ∈ ops, op.storedKey? = op.pricingKey?) (once : (ops.filterMap Operation.pricingKey?).Nodup) (mem : k ∈ ops.filterMap Operation.pricingKey?) :
    pricingLeft T ops rows k = 1 ↔ ∀ r ∈ rows, r.key.texts = k → pricingDated.Covers r T →
      ∃ op ∈ ops, op.ClosesPricing T r := by
  have one : ops.countP (fun op => op.storedKey? = some k) = 1 := by
    rw [← keyCount once mem]
    exact List.countP_congr fun op here => by rw [stored op here]
  rw [pricingLeft,one,Nat.add_eq_right,List.countP_eq_zero]
  simp

theorem fxLeftIff {T : Time} {ops : List Operation} {rows : List FxRate} {k}
    (stored : ∀ op ∈ ops, op.storedPair? = op.fxPair?) (once : (ops.filterMap Operation.fxPair?).Nodup) (mem : k ∈ ops.filterMap Operation.fxPair?) :
    fxLeft T ops rows k = 1 ↔ ∀ r ∈ rows, r.pair.texts = k → fxDated.Covers r T → ∃ op ∈ ops, op.ClosesFx T r := by
  have one : ops.countP (fun op => op.storedPair? = some k) = 1 := by
    rw [← keyCount once mem]
    exact List.countP_congr fun op here => by rw [stored op here]
  rw [fxLeft,one,Nat.add_eq_right,List.countP_eq_zero]
  simp

theorem storedKeyEq (op : Operation) :
    op.storedKey? = op.pricingKey?.bind fun k => (PricingKey.of k.1 k.2.1 k.2.2).map PricingKey.texts := by
  cases op <;> simp [Operation.storedKey?,Operation.price?,Operation.pricingKey?,PlannedPrice.key]

theorem storedPairEq (op : Operation) :
    op.storedPair? = op.fxPair?.bind fun k => (FxPair.of k.1 k.2).map FxPair.texts := by
  cases op <;> simp [Operation.storedPair?,Operation.rate?,Operation.fxPair?,PlannedRate.pair]

theorem normalStored {k : PricingKey} (normal : k.Normal) {op : Operation} (named : op.pricingKey? = some k.texts) :
    op.storedKey? = op.pricingKey? := by
  rw [storedKeyEq,named,Option.bind_some]
  change (PricingKey.of k.provider k.upstreamModel k.endpoint).map PricingKey.texts = some k.texts
  rw [normal,Option.map_some]

section Stored
variable {ctx : Context} {b : RefreshBundle} {baseline : Option CatalogRows} {now T : Time}
  (ready : (validateBundle ctx b baseline now).state ≠ .blocked)
include ready

omit ready in
theorem requiredCoded {currency : String} (mem : currency ∈ requiredCurrencies b baseline) :
    normalizeCurrency currency = some currency := by
  rw [requiredCurrencies,(List.perm_insertionSort _ _).mem_iff,List.mem_filter,List.mem_dedup] at mem
  obtain ⟨p,_,rfl⟩ := List.mem_map.mp mem.1
  exact p.coded

theorem pairsStored : ∀ op ∈ planOperations ctx b baseline now, op.storedPair? = op.fxPair? := by
  intro op mem
  cases pair : op.fxPair? with
  | none => rw [storedPairEq,pair,Option.bind_none]
  | some k =>
    obtain ⟨currency,required,_,_,_,action⟩ := fxOpCase ready (planFx ready mem pair)
    have euro : normalizeCurrency "EUR" = some "EUR" := by decide +kernel
    rw [fxOpPair action,Option.some.injEq] at pair
    rw [storedPairEq,fxOpPair action,Option.bind_some,pair.symm]
    simp [FxPair.of,requiredCoded required,euro,FxPair.texts]

theorem keysStored (exported : Exported baseline) (spelled : Spelled b baseline now) :
    ∀ op ∈ planOperations ctx b baseline now, op.storedKey? = op.pricingKey? := by
  intro op mem
  cases key : op.pricingKey? with
  | none => rw [storedKeyEq,key,Option.bind_none]
  | some k =>
    rw [← key]
    obtain create | supersede := planPricing ready mem key
    · obtain ⟨n,name,upstream,p,creates,rfl⟩ := createCase ready create
      refine normalStored (spelled n name upstream p creates.proposed creates.inactive) ?_
      rw [← creates.provider]
      rfl
    · obtain ⟨n,name,upstream,old,p,supersedes,rfl⟩ := supersedeCase ready supersede
      exact normalStored (exported.normal old supersedes.oldMem.1) rfl

theorem spelledOf (exported : Exported baseline)
    (one : ∀ k ∈ (planOperations ctx b baseline now).filterMap Operation.pricingKey?,
      pricingLeft T (planOperations ctx b baseline now) (pricingRows baseline) k = 1) :
    Spelled b baseline now := by
  intro n name upstream p proposed inactive
  obtain ⟨_,idle⟩ | ⟨u,q,creates⟩ | ⟨u,row,q,supersedes⟩ := actionCases (readyReview ready name)
  · obtain ⟨row,found,_⟩ := idle upstream p proposed
    cases inactive.symm.trans found
  · cases creates.proposed.symm.trans proposed
    have planned : createPricingOp p upstream ∈ planOperations ctx b baseline now := by
      refine (planPerm ctx b baseline now).mem_iff.mpr ?_
      simp only [List.mem_append]
      refine Or.inl (Or.inl (Or.inl (Or.inr (List.mem_filterMap.mpr ⟨_,List.mem_map_of_mem name,?_⟩))))
      simp [createOp?,creates.action]
    have left := one (n.1,upstream,chatEndpoint)
      (List.mem_filterMap.mpr ⟨_,planned,by rw [← creates.provider]; rfl⟩)
    have stored : ∀ k : PricingKey, k.Normal → k.texts = (n.1,upstream,chatEndpoint) →
        PricingKey.Normal ⟨n.1,upstream,chatEndpoint⟩ := by
      intro k normal texts
      have same : k = ⟨n.1,upstream,chatEndpoint⟩ := PricingKey.textsInjective texts
      exact same ▸ normal
    -- One of the two counts is positive, and either way the key stands in a table.
    unfold pricingLeft at left
    obtain row | op := Nat.add_pos_iff_pos_or_pos.mp (left ▸ Nat.one_pos)
    · obtain ⟨r,mem,holds⟩ := List.countP_pos_iff.mp row
      exact stored r.key (exported.normal r mem) (of_decide_eq_true holds).1
    · obtain ⟨op,mem,holds⟩ := List.countP_pos_iff.mp op
      obtain ⟨k,of,texts⟩ := Option.map_eq_some_iff.mp (of_decide_eq_true holds)
      obtain ⟨plan,_,named⟩ := Option.bind_eq_some_iff.mp of
      exact stored k (PricingKey.ofNormal named) texts
  · cases supersedes.proposed.symm.trans proposed
    cases inactive.symm.trans supersedes.found
end Stored

section Prices
variable {ctx : Context} {b : RefreshBundle} {baseline : Option CatalogRows} {now T : Time}
  (ready : (validateBundle ctx b baseline now).state ≠ .blocked) (later : now ≤ T)

include later in
theorem coversEarlier {r : PricingRule} (covers : pricingDated.Covers r T) (started : r.validFrom ≤ now) :
    r.activeAt now = true := by
  obtain ⟨live,_,open'⟩ := covers
  exact decide_eq_true ⟨live,started,fun e mem => lt_of_le_of_lt later (open' e mem)⟩

include later in
theorem fxCoversEarlier {r : FxRate} (covers : fxDated.Covers r T) (started : r.validFrom ≤ now) :
    r.activeAt now = true := by
  obtain ⟨live,_,open'⟩ := covers
  exact decide_eq_true ⟨live,started,fun e mem => lt_of_le_of_lt later (open' e mem)⟩

include ready

theorem supersedePlanned (keyed : ((pricingRows baseline).map PricingRule.id).Nodup) {n upstream old p}
    (name : n ∈ selected b baseline) (h : Supersedes ctx b baseline now n upstream old p) :
    ∃ q, supersedePricingOp old q ∈ supersedeOps [] (reviews ctx b baseline now) := by
  obtain none | mem := @supersedeOpsCover [] _ _ _ _ (List.mem_map_of_mem name) h.action
  · cases none
  · obtain ⟨op,here,named⟩ := List.mem_filterMap.mp mem
    obtain ⟨m,_,upstream',old',q,other,rfl⟩ := supersedeCase ready here
    have same := List.inj_on_of_nodup_map keyed other.oldMem.1 h.oldMem.1 (Option.some.inj named)
    exact ⟨q,same ▸ here⟩

theorem closesActive (keyed : ((pricingRows baseline).map PricingRule.id).Nodup) {op : Operation} {r : PricingRule}
    (mem : op ∈ planOperations ctx b baseline now) (here : r ∈ pricingRows baseline) (closes : op.ClosesPricing T r) :
    r.validFrom ≤ now := by
  cases op with
  | supersedePricing provider model endpoint old new =>
    obtain create | supersede := planPricing ready mem rfl
    · obtain ⟨_,_,_,_,_,same⟩ := createCase ready create
      cases same
    · obtain ⟨n,_,upstream,row,p,supersedes,same⟩ := supersedeCase ready supersede
      cases same
      have equal := List.inj_on_of_nodup_map keyed here supersedes.oldMem.1 closes.1
      rw [equal]
      exact (decide_eq_true_eq.mp supersedes.oldMem.2.2).2.1
  | _ => exact closes.elim

include later in
theorem pricesOne (stored : ∀ op ∈ planOperations ctx b baseline now, op.storedKey? = op.pricingKey?)
    (unshared : Unshared b baseline now) (steady : PriceSteady ctx b baseline now T) :
    ∀ k ∈ (planOperations ctx b baseline now).filterMap Operation.pricingKey?,
      pricingLeft T (planOperations ctx b baseline now) (pricingRows baseline) k = 1 := by
  intro k mem
  refine (pricingLeftIff stored ((pricingKeysNodup ready).mpr unshared) mem).mpr fun r here key covers => ?_
  obtain ⟨op,planned,named⟩ := List.mem_filterMap.mp mem
  obtain create | supersede := planPricing ready planned named
  · obtain ⟨n,name,upstream,p,creates,rfl⟩ := createCase ready create
    cases Option.some.inj named
    rw [creates.provider] at key
    obtain ⟨started,idle⟩ := creates.quiet r (baselinePricingMem.mpr ⟨here,key⟩)
    rw [coversEarlier later covers started] at idle
    cases idle
  · obtain ⟨n,name,upstream,old,p,supersedes,rfl⟩ := supersedeCase ready supersede
    cases Option.some.inj named
    have row := baselinePricingMem.mpr ⟨here,key.trans supersedes.oldMem.2.1⟩
    by_cases started : r.validFrom ≤ now
    · obtain ⟨oldHere,active⟩ := selectActiveSome supersedes.found
      have same : r = old := countOne supersedes.once oldHere active row (coversEarlier later covers started)
      subst same
      obtain ⟨live,_,open'⟩ := covers
      exact ⟨_,planned,rfl,rfl,rfl,rfl,live,rfl,open'⟩
    · exact absurd covers (steady n name upstream p old supersedes.proposed supersedes.found supersedes.changed r row
        (not_le.mp started))

theorem pricesSteady (keyed : ((pricingRows baseline).map PricingRule.id).Nodup)
    (stored : ∀ op ∈ planOperations ctx b baseline now, op.storedKey? = op.pricingKey?)
    (once : ((planOperations ctx b baseline now).filterMap Operation.pricingKey?).Nodup)
    (one : ∀ k ∈ (planOperations ctx b baseline now).filterMap Operation.pricingKey?,
      pricingLeft T (planOperations ctx b baseline now) (pricingRows baseline) k = 1) :
    PriceSteady ctx b baseline now T := by
  intro n name upstream p old proposed found changed r row late covers
  obtain ⟨_,idle⟩ | ⟨u,q,creates⟩ | ⟨u,row',q,supersedes⟩ := actionCases (readyReview ready name)
  · obtain ⟨row',same,unchanged⟩ := idle upstream p proposed
    cases found.symm.trans same
    cases changed.symm.trans unchanged
  · cases creates.proposed.symm.trans proposed
    cases found.symm.trans creates.inactive
  · cases supersedes.proposed.symm.trans proposed
    cases found.symm.trans supersedes.found
    obtain ⟨q,made⟩ := supersedePlanned ready keyed name supersedes
    have planned : supersedePricingOp old q ∈ planOperations ctx b baseline now := by
      refine (planPerm ctx b baseline now).mem_iff.mpr ?_
      simp only [List.mem_append]
      exact Or.inl (Or.inl (Or.inr made))
    have key : old.key.texts ∈ (planOperations ctx b baseline now).filterMap Operation.pricingKey? :=
      List.mem_filterMap.mpr ⟨_,planned,rfl⟩
    obtain ⟨rowHere,rowKey⟩ := baselinePricingMem.mp row
    obtain ⟨op,mem,closes⟩ := (pricingLeftIff stored once key).mp (one _ key) r rowHere
      (rowKey.trans supersedes.oldMem.2.1.symm) covers
    exact absurd (closesActive ready keyed mem rowHere closes) (not_le.mpr late)
end Prices

section Rates
variable {ctx : Context} {b : RefreshBundle} {baseline : Option CatalogRows} {now T : Time}
  (ready : (validateBundle ctx b baseline now).state ≠ .blocked) (later : now ≤ T)
include ready

theorem fxClosesActive (keyed : ((fxRows baseline).map FxRate.id).Nodup) {op : Operation} {r : FxRate}
    (mem : op ∈ planOperations ctx b baseline now) (here : r ∈ fxRows baseline) (closes : op.ClosesFx T r) :
    r.validFrom ≤ now := by
  cases op with
  | supersedeFx base quote old new =>
    obtain ⟨currency,_,fact,rate,_,action⟩ := fxOpCase ready (planFx ready mem rfl)
    cases action with
    | supersede row found =>
      obtain ⟨rowHere,active⟩ := selectActiveSome found
      have equal := List.inj_on_of_nodup_map keyed here (baselineFxMem.mp rowHere).1 closes.1
      rw [equal]
      exact (decide_eq_true_eq.mp active).2.1
  | _ => exact closes.elim

include later in
theorem ratesOne (steady : RateSteady ctx b baseline now T) :
    ∀ k ∈ (planOperations ctx b baseline now).filterMap Operation.fxPair?,
      fxLeft T (planOperations ctx b baseline now) (fxRows baseline) k = 1 := by
  intro k mem
  refine (fxLeftIff (pairsStored ready) (fxPairsNodup ready) mem).mpr fun r here pair covers => ?_
  obtain ⟨op,planned,named⟩ := List.mem_filterMap.mp mem
  obtain ⟨currency,required,fact,rate,effective,action⟩ := fxOpCase ready (planFx ready planned named)
  have key := fxOpPair action
  rw [named,Option.some.injEq] at key
  have row : r ∈ baselineFxFor baseline currency "EUR" := baselineFxMem.mpr ⟨here,pair.trans key⟩
  have late : now < r.validFrom → ¬fxDated.Covers r T ∨ ∃ old,
      (selectActiveFx (baselineFxFor baseline currency "EUR") now).1 = some old ∧ rate = old.rate := by
    intro after
    by_cases moved : ∀ old ∈ (selectActiveFx (baselineFxFor baseline currency "EUR") now).1, rate ≠ old.rate
    · exact Or.inl (steady currency required fact rate effective moved r row after)
    · push Not at moved
      obtain ⟨old,found,equal⟩ := moved
      exact Or.inr ⟨old,found,equal⟩
  cases action with
  | create inactive quiet =>
    by_cases started : r.validFrom ≤ now
    · exact absurd (quiet r row) (by simp [fxCoversEarlier later covers started])
    · obtain out | ⟨old,found,_⟩ := late (not_le.mp started)
      · exact absurd covers out
      · cases inactive.symm.trans found
  | supersede old found moved once =>
    by_cases started : r.validFrom ≤ now
    · obtain ⟨oldHere,active⟩ := selectActiveSome found
      have same : r = old := countOne once oldHere active row (fxCoversEarlier later covers started)
      subst same
      exact ⟨_,planned,rfl,rfl,rfl,rfl,rfl,covers.2.2⟩
    · obtain out | ⟨row',same,equal⟩ := late (not_le.mp started)
      · exact absurd covers out
      · cases found.symm.trans same
        exact absurd equal moved

theorem ratesSteady (keyed : ((fxRows baseline).map FxRate.id).Nodup)
    (one : ∀ k ∈ (planOperations ctx b baseline now).filterMap Operation.fxPair?,
      fxLeft T (planOperations ctx b baseline now) (fxRows baseline) k = 1) :
    RateSteady ctx b baseline now T := by
  intro currency required fact rate effective moved r row late covers
  obtain ⟨fact',rate',effective',action⟩ := reviewFxClear (readyFx ready required)
  cases effective.symm.trans effective'
  cases made : (reviewFx ctx b baseline now currency).operation with
  | none =>
    rw [made] at action
    cases action with
    | same old found equal => exact moved old found equal
  | some op =>
    rw [made] at action
    have planned : op ∈ planOperations ctx b baseline now := by
      refine (planPerm ctx b baseline now).mem_iff.mpr (List.mem_append_right _ ?_)
      exact List.mem_filterMap.mpr ⟨_,List.mem_map_of_mem required,made⟩
    have key := List.mem_filterMap.mpr ⟨op,planned,fxOpPair action⟩
    obtain ⟨here,pair⟩ := baselineFxMem.mp row
    obtain ⟨op',mem,closes⟩ := (fxLeftIff (pairsStored ready) (fxPairsNodup ready) key).mp (one _ key) r here pair covers
    exact absurd (fxClosesActive ready keyed mem here closes) (not_le.mpr late)
end Rates

/-- What carrying out a plan has done to the rows it supersedes. -/
structure Closed (T : Time) (ops : List Operation) (db : CatalogDb) : Prop where
  pricing : ∀ op ∈ ops, ∀ i, op.supersededPricing? = some i → ∃ r ∈ db.pricingRules, r.id = i ∧ r.validUntil = some T
  fx : ∀ op ∈ ops, ∀ i, op.supersededFx? = some i → ∃ r ∈ db.fxRates, r.id = i ∧ r.validUntil = some T

section Execution
variable {services : CatalogServices} {draws : Draws} {db db' : CatalogDb} {ops : List Operation}

/-- Rows that are closed stay as they are. -/
def KeepsClosed (T : Time) (db db' : CatalogDb) : Prop :=
  (∀ r ∈ db.pricingRules, r.validUntil = some T → r ∈ db'.pricingRules) ∧
  ∀ r ∈ db.fxRates, r.validUntil = some T → r ∈ db'.fxRates

theorem Closed.step {T : Time} {op : Operation} (h : Closed T ops db) (keeps : KeepsClosed T db db')
    (pricing : ∀ i, op.supersededPricing? = some i → ∃ r ∈ db'.pricingRules, r.id = i ∧ r.validUntil = some T)
    (fx : ∀ i, op.supersededFx? = some i → ∃ r ∈ db'.fxRates, r.id = i ∧ r.validUntil = some T) :
    Closed T (ops ++ [op]) db' := by
  refine ⟨fun x mem i named => ?_,fun x mem i named => ?_⟩
  · obtain old | rfl := List.mem_append.mp mem |>.imp_right List.mem_singleton.mp
    · obtain ⟨r,here,id,stop⟩ := h.pricing x old i named
      exact ⟨r,keeps.1 r here stop,id,stop⟩
    · exact pricing i named
  · obtain old | rfl := List.mem_append.mp mem |>.imp_right List.mem_singleton.mp
    · obtain ⟨r,here,id,stop⟩ := h.fx x old i named
      exact ⟨r,keeps.2 r here stop,id,stop⟩
    · exact fx i named

theorem executeOperationClosed {applied applied' : AppliedIds} {op : Operation} {n : ℕ}
    (h : Closed draws.effectiveAt ops db)
    (ok : (executeOperation services draws applied (op,n)).Returns db applied' db') :
    Closed draws.effectiveAt (ops ++ [op]) db' := by
  cases op with
  | createProvider op =>
    simp only [executeOperation,returnsBind,returnsOrRaise,returnsReading,returnsRaiseIf,returnsStore,returnsPure] at ok
    obtain ⟨row,_,⟨_,rfl⟩,_,_,⟨_,rfl⟩,_,_,⟨_,rfl⟩,_,_,⟨t,_,rfl⟩,_,rfl⟩ := ok
    exact h.step ⟨fun _ mem _ => mem,fun _ mem _ => mem⟩ (by rintro _ ⟨⟩) (by rintro _ ⟨⟩)
  | createRoute op =>
    simp only [executeOperation,returnsBind,returnsOrRaise,returnsStore,returnsPure] at ok
    obtain ⟨row,_,⟨_,rfl⟩,_,_,⟨t,_,rfl⟩,_,rfl⟩ := ok
    exact h.step ⟨fun _ mem _ => mem,fun _ mem _ => mem⟩ (by rintro _ ⟨⟩) (by rintro _ ⟨⟩)
  | createPricing provider model endpoint new =>
    simp only [executeOperation,returnsBind,returnsPure] at ok
    obtain ⟨row,_,made,_,rfl⟩ := ok
    obtain ⟨t,inserted,rfl,_⟩ := createPricingRuleOk made
    exact h.step ⟨fun _ mem _ => inserted.memKept mem,fun _ mem _ => mem⟩ (by rintro _ ⟨⟩) (by rintro _ ⟨⟩)
  | supersedePricing provider model endpoint old new =>
    simp only [executeOperation,returnsBind,returnsRaiseIf,returnsPure,Bool.not_eq_false] at ok
    obtain ⟨closed,_,shut,_,_,⟨rfl,rfl⟩,row,_,made,_,rfl⟩ := ok
    obtain ⟨r,mid,guard,updated,rfl⟩ := closeActivePricingRuleOk shut
    obtain ⟨t,inserted,rfl,_⟩ := createPricingRuleOk made
    refine h.step ⟨fun x mem stop => ?_,fun _ mem _ => mem⟩ (fun i named => ?_) (by rintro _ ⟨⟩)
    · refine inserted.memKept (updated.memKept mem fun same => ?_)
      have equal := Table.eqOfKey mem updated.here same
      have open' := guard.2.2.2.2.2.2
      rw [← equal] at open'
      exact absurd (open' _ stop) (lt_irrefl _)
    · cases named
      exact ⟨_,inserted.memKept updated.memNew,guard.1,rfl⟩
  | createFx base quote new =>
    simp only [executeOperation,returnsBind,returnsPure] at ok
    obtain ⟨row,_,made,_,rfl⟩ := ok
    obtain ⟨t,inserted,rfl,_⟩ := createFxRateOk made
    exact h.step ⟨fun _ mem _ => mem,fun _ mem _ => inserted.memKept mem⟩ (by rintro _ ⟨⟩) (by rintro _ ⟨⟩)
  | supersedeFx base quote old new =>
    simp only [executeOperation,returnsBind,returnsRaiseIf,returnsPure,Bool.not_eq_false] at ok
    obtain ⟨closed,_,shut,_,_,⟨rfl,rfl⟩,row,_,made,_,rfl⟩ := ok
    obtain ⟨r,mid,guard,updated,rfl⟩ := closeActiveFxRateOk shut
    obtain ⟨t,inserted,rfl,_⟩ := createFxRateOk made
    refine h.step ⟨fun _ mem _ => mem,fun x mem stop => ?_⟩ (by rintro _ ⟨⟩) (fun i named => ?_)
    · refine inserted.memKept (updated.memKept mem fun same => ?_)
      have equal := Table.eqOfKey mem updated.here same
      have open' := guard.2.2.2.2.2
      rw [← equal] at open'
      exact absurd (open' _ stop) (lt_irrefl _)
    · cases named
      exact ⟨_,inserted.memKept updated.memNew,guard.1,rfl⟩
  | other type => simp [executeOperation] at ok

theorem executeOperationsClosed {applied applied' : AppliedIds} {more : List (Operation × ℕ)}
    (h : Closed draws.effectiveAt ops db)
    (ok : (executeOperations services draws applied more).Returns db applied' db') :
    Closed draws.effectiveAt (ops ++ more.map Prod.fst) db' := by
  induction more generalizing applied db ops with
  | nil =>
    simp only [executeOperations,returnsPure] at ok
    obtain ⟨_,rfl⟩ := ok
    simpa using h
  | cons first rest ih =>
    simp only [executeOperations,returnsBind] at ok
    obtain ⟨_,_,head,tail⟩ := ok
    simpa using ih (executeOperationClosed h head) tail

structure Finished (T : Time) (ops : List Operation) (db : CatalogDb) : Prop where
  prices : ∀ k ∈ ops.filterMap Operation.pricingKey?,
    ∃! r, r ∈ db.pricingRules ∧ r.key.texts = k ∧ pricingDated.Covers r T
  rates : ∀ k ∈ ops.filterMap Operation.fxPair?, ∃! r, r ∈ db.fxRates ∧ r.pair.texts = k ∧ fxDated.Covers r T

theorem leftClosed {α : Type} {rows : List α} {p : α → Prop} [DecidablePred p] {n : ℕ} (one : rows.countP p + n = 1)
    (pos : 0 < n) {r : α} (mem : r ∈ rows) : ¬p r := by
  have none : rows.countP p = 0 := by omega
  simpa using List.countP_eq_zero.mp none r mem

variable {pricing : List PricingRule} {fx : List FxRate} {applied : AppliedIds}

/-- A plan that leaves one price by count leaves one in the tables. -/
theorem executedOne (one : OnePrice draws.effectiveAt ops pricing fx)
    (storedKeys : ∀ op ∈ ops, op.storedKey? = op.pricingKey?) (storedPairs : ∀ op ∈ ops, op.storedPair? = op.fxPair?)
    (prices : ∀ r, r ∈ db.pricingRules ↔ r ∈ pricing) (rates : ∀ r, r ∈ db.fxRates ↔ r ∈ fx)
    (ok : (executeOperations services draws .empty ops.zipIdx).Returns db applied db') :
    Finished draws.effectiveAt ops db' := by
  have progress := executeOperationsProgress (Progress.start draws.effectiveAt db) ok
  have start : Closed draws.effectiveAt [] db := ⟨by simp,by simp⟩
  have closed := executeOperationsClosed start ok
  rw [List.nil_append,List.zipIdx_map_fst] at progress closed
  refine ⟨fun k mem => ?_,fun k mem => ?_⟩
  · obtain ⟨rows,done⟩ := progress.pricing
    obtain ⟨op,planned,named⟩ := List.mem_filterMap.mp mem
    have stored := (storedKeys op planned).trans named
    obtain ⟨key,of,texts⟩ := Option.map_eq_some_iff.mp stored
    obtain ⟨plan,made,keyed⟩ := Option.bind_eq_some_iff.mp of
    obtain ⟨row,inserted,wrote⟩ := done.planned plan (List.mem_filterMap.mpr ⟨op,planned,made⟩)
    obtain ⟨here,start,stop,live⟩ := done.cut.opened row inserted
    have rowKey : row.key.texts = k := by rw [← texts,← Option.some.inj (keyed.symm.trans wrote.1)]
    have covers : pricingDated.Covers row draws.effectiveAt := ⟨live,start.le,by simp [stop]⟩
    refine ⟨row,⟨here,rowKey,covers⟩,fun x ⟨there,same,also⟩ => ?_⟩
    refine done.cut.presentUnique (pricingSeparate _) inserted (fun r was key valid again => ?_) there
      (same.trans rowKey.symm) also
    -- A row still there at `T` was closed by an operation, and closing is seen in the table.
    have left := leftClosed (one.prices k mem) (List.countP_pos_iff.mpr ⟨op,planned,decide_eq_true stored⟩)
      ((prices r).mp was)
    simp only [not_and,not_forall,not_not] at left
    obtain ⟨closer,closerMem,guard⟩ := left (key.trans rowKey) valid
    cases closer with
    | supersedePricing provider model endpoint old new =>
      obtain ⟨shut,shutHere,id,until'⟩ := closed.pricing _ closerMem _ rfl
      have equal := Table.eqOfKey shutHere again (id.trans guard.1.symm)
      exact absurd (valid.2.2 _ (equal ▸ until')) (lt_irrefl _)
    | _ => exact guard.elim
  · obtain ⟨rows,done⟩ := progress.fx
    obtain ⟨op,planned,named⟩ := List.mem_filterMap.mp mem
    have stored := (storedPairs op planned).trans named
    obtain ⟨pair,of,texts⟩ := Option.map_eq_some_iff.mp stored
    obtain ⟨plan,made,paired⟩ := Option.bind_eq_some_iff.mp of
    obtain ⟨row,inserted,wrote⟩ := done.planned plan (List.mem_filterMap.mpr ⟨op,planned,made⟩)
    obtain ⟨here,start,stop,live⟩ := done.cut.opened row inserted
    have rowPair : row.pair.texts = k := by rw [← texts,← Option.some.inj (paired.symm.trans wrote.1)]
    have covers : fxDated.Covers row draws.effectiveAt := ⟨live,start.le,by simp [stop]⟩
    refine ⟨row,⟨here,rowPair,covers⟩,fun x ⟨there,same,also⟩ => ?_⟩
    refine done.cut.presentUnique (fxSeparate _) inserted (fun r was key valid again => ?_) there
      (same.trans rowPair.symm) also
    have left := leftClosed (one.rates k mem) (List.countP_pos_iff.mpr ⟨op,planned,decide_eq_true stored⟩)
      ((rates r).mp was)
    simp only [not_and,not_forall,not_not] at left
    obtain ⟨closer,closerMem,guard⟩ := left (key.trans rowPair) valid
    cases closer with
    | supersedeFx base quote old new =>
      obtain ⟨shut,shutHere,id,until'⟩ := closed.fx _ closerMem _ rfl
      have equal := Table.eqOfKey shutHere again (id.trans guard.1.symm)
      exact absurd (valid.2.2 _ (equal ▸ until')) (lt_irrefl _)
    | _ => exact guard.elim
end Execution

section Main
variable {ctx : Context} {b : RefreshBundle} {baseline : Option CatalogRows} {now T : Time}
  (ready : (validateBundle ctx b baseline now).state ≠ .blocked) (exported : Exported baseline)

theorem reportOperations : (validateBundle ctx b baseline now).operations = planOperations ctx b baseline now := rfl

include ready exported

theorem onePriceIff (later : now ≤ T) :
    OnePrice T (planOperations ctx b baseline now) (pricingRows baseline) (fxRows baseline) ↔
      Unshared b baseline now ∧ Spelled b baseline now ∧ PriceSteady ctx b baseline now T ∧
        RateSteady ctx b baseline now T := by
  constructor
  · intro one
    have spelled := spelledOf ready exported one.prices
    exact ⟨(pricingKeysNodup ready).mp one.keys,spelled,
      pricesSteady ready exported.pricingIds (keysStored ready exported spelled) one.keys one.prices,
      ratesSteady ready exported.fxIds one.rates⟩
  · rintro ⟨unshared,spelled,prices,rates⟩
    exact
      { keys := (pricingKeysNodup ready).mpr unshared
        pairs := fxPairsNodup ready
        supersededPricing := supersededPricingNodup ready
        supersededFx := supersededFxNodup ready exported.fxIds
        prices := pricesOne ready later (keysStored ready exported spelled) unshared prices
        rates := ratesOne ready later rates }

theorem applyLeavesOnePrice (later : now ≤ T) :
    (OnePrice T (validateBundle ctx b baseline now).operations (pricingRows baseline) (fxRows baseline) ↔
      Unshared b baseline now ∧ Spelled b baseline now ∧ PriceSteady ctx b baseline now T ∧
        RateSteady ctx b baseline now T) ∧
    (OnePrice T (validateBundle ctx b baseline now).operations (pricingRows baseline) (fxRows baseline) →
      ∀ services draws db applied db', draws.effectiveAt = T → (∀ r, r ∈ db.pricingRules ↔ r ∈ pricingRows baseline) →
        (∀ r, r ∈ db.fxRates ↔ r ∈ fxRows baseline) →
        (executeOperations services draws .empty (validateBundle ctx b baseline now).operations.zipIdx).Returns
          db applied db' →
        Finished T (validateBundle ctx b baseline now).operations db') := by
  rw [reportOperations]
  refine ⟨onePriceIff ready exported later,?_⟩
  rintro one services draws db applied db' rfl prices rates ok
  have spelled := spelledOf ready exported one.prices
  exact executedOne one (keysStored ready exported spelled) (pairsStored ready) prices rates ok
end Main

namespace Aliases

theorem usd : normalizeCurrency "USD" = some "USD" := by decide +kernel

def price : ModelPricingFacts where
  provider := "openai"
  model := "gpt-x"
  currency := "USD"
  dimensions := [⟨.input,some 2,"USD",usd⟩,⟨.output,some 8,"USD",usd⟩]
  distinct := by decide
  coded := usd
  validFrom := 90
  sources := ["openai|gpt-x|docs_page"]
  sourceUrl := none

def route (name : String) : RouteFacts := ⟨"openai",name,"gpt-x","exact",100,true,true,true,[]⟩

def bundle (aliases : List String) : RefreshBundle := ⟨["openai"],aliases,[],[price],aliases.map route,[]⟩

def expired : PricingRule :=
  ⟨1,⟨"openai","gpt-x",chatEndpoint⟩,"USD",⟨some 3,none,some 9,none,none⟩,.empty,0,some 50,true,none,0⟩

def storedRoute (id : Uuid) (name : String) : ModelRoute :=
  ⟨id,name,"exact",chatEndpoint,"openai","gpt-x",100,true,true,true,[]⟩

def rows : CatalogRows where
  providers := [⟨2,"openai","OpenAI","openai_compatible","https://api.openai.com/v1","OPENAI_UPSTREAM_API_KEY",true,300,2⟩]
  routes := [storedRoute 3 "fast",storedRoute 4 "slow"]
  pricing := [expired]
  fx := []

def evidence : Evidence where
  observations :=
    [⟨"openai|gpt-x|docs_page","openai","gpt-x",.input,2,some "USD"⟩,
     ⟨"openai|gpt-x|docs_page","openai","gpt-x",.output,8,some "USD"⟩]
  officialSourceKeys := ["openai|gpt-x|docs_page"]
  fxToEur code := if code = "USD" then some (4 / 5) else none
  url := id
  digest := id

def context : Context where
  evidence := evidence
  policy := ⟨1 / 4,3 / 100⟩
  findings := []
  checks _ _ := ⟨[],false,[],false,[],false⟩
  fxBound _ := true
  fxRowValid _ := true
  routeRowsValid := true
  pricingRowsValid := true

def tables : CatalogDb := ⟨.empty,.empty,⟨[expired],by simp,by simp; decide +kernel⟩,.empty,.empty,[]⟩

def report (aliases : List String) : ValidationReport := validateBundle context (bundle aliases) (some rows) 100

theorem exported : Exported (some rows) := ⟨by decide +kernel,by decide +kernel,by decide +kernel⟩
end Aliases

theorem applyLeavesOnePriceDemo : (Aliases.report ["fast"]).state ≠ .blocked ∧
    Unshared (Aliases.bundle ["fast"]) (some Aliases.rows) 100 ∧
    Spelled (Aliases.bundle ["fast"]) (some Aliases.rows) 100 := by
  have ready : (Aliases.report ["fast"]).state ≠ .blocked := by decide +kernel
  have one : OnePrice 100 (Aliases.report ["fast"]).operations (pricingRows (some Aliases.rows))
      (fxRows (some Aliases.rows)) :=
    ⟨by decide +kernel,by decide +kernel,by decide +kernel,by decide +kernel,by decide +kernel,by decide +kernel⟩
  have holds := (applyLeavesOnePrice ready Aliases.exported (le_refl 100)).1.mp one
  exact ⟨ready,holds.1,holds.2.1⟩

/-- Two aliases of one upstream whose price has expired: the plan creates the price twice and cannot be applied. -/
theorem aliasesPriceTwice : (Aliases.report ["fast","slow"]).state = .ready ∧
    (Aliases.report ["fast","slow"]).operations.filterMap Operation.pricingKey? =
      [("openai","gpt-x",chatEndpoint),("openai","gpt-x",chatEndpoint)] ∧
    ¬OnePrice 100 (Aliases.report ["fast","slow"]).operations (pricingRows (some Aliases.rows))
      (fxRows (some Aliases.rows)) ∧
    ((executeOperations Demo.services Demo.draws .empty
      (Aliases.report ["fast","slow"]).operations.zipIdx).exec Aliases.tables).1 = .error .integrity := by
  refine ⟨by decide +kernel,by decide +kernel,fun one => ?_,by decide +kernel⟩
  have twice : ¬((Aliases.report ["fast","slow"]).operations.filterMap Operation.pricingKey?).Nodup := by
    decide +kernel
  exact twice one.keys
end SlaifGateway.Catalog
