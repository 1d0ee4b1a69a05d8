import SlaifGateway.Catalog.Apply

/-! An apply is a cut in time. Each operation closes at most the row it names and opens
one row at the transaction's instant, so the lookups before that instant, and those of
every key the plan does not name, are what they were. -/
namespace SlaifGateway.Catalog
open Store (Uuid Time strip blank)
open Library Library.Tx

structure PlannedPrice where
  provider : String
  model : String
  endpoint : String
  new : NewPrice
  deriving DecidableEq, Repr

structure PlannedRate where
  baseCurrency : String
  quoteCurrency : String
  new : NewRate
  deriving DecidableEq, Repr

def Operation.price? : Operation → Option PlannedPrice
  | .createPricing provider model endpoint new => some ⟨provider,model,endpoint,new⟩
  | .supersedePricing provider model endpoint _ new => some ⟨provider,model,endpoint,new⟩
  | _ => none

def Operation.rate? : Operation → Option PlannedRate
  | .createFx base quote new => some ⟨base,quote,new⟩
  | .supersedeFx base quote _ new => some ⟨base,quote,new⟩
  | _ => none

def plannedPrices (ops : List Operation) : List PlannedPrice := ops.filterMap Operation.price?

def plannedRates (ops : List Operation) : List PlannedRate := ops.filterMap Operation.rate?

def PlannedPrice.key (p : PlannedPrice) : Option PricingKey := PricingKey.of p.provider p.model p.endpoint

def PlannedRate.pair (p : PlannedRate) : Option FxPair := FxPair.of p.baseCurrency p.quoteCurrency

/-- The row an apply at `T` inserts for a planned price. -/
def PlannedPrice.Written (T : Time) (p : PlannedPrice) (r : PricingRule) : Prop :=
  p.key = some r.key ∧ normalizeCurrency p.new.currency = some r.currency ∧ r.price = p.new.dimensions ∧
  r.pricingMetadata = .empty ∧ r.validFrom = T ∧ r.validUntil = none ∧ r.enabled = true

def PlannedRate.Written (T : Time) (p : PlannedRate) (r : FxRate) : Prop :=
  p.pair = some r.pair ∧ r.rate = p.new.rate ∧ r.validFrom = T ∧ r.validUntil = none

section Operations
variable {services : CatalogServices} {draws : Draws} {db db' : CatalogDb}

theorem createPricingRuleOk {provider model endpoint new T made id row}
    (ok : (createPricingRule provider model endpoint new T made id).Returns db row db') :
    ∃ t, Table.Inserted db.pricingRules row t ∧ db' = { db with pricingRules := t } ∧
      PlannedPrice.Written T ⟨provider,model,endpoint,new⟩ row := by
  simp only [createPricingRule,insertPricing,returnsBind,returnsRaiseIf,returnsOrRaise,returnsStore,returnsPure] at ok
  obtain ⟨_,_,⟨_,rfl⟩,_,_,⟨_,rfl⟩,key,_,⟨named,rfl⟩,currency,_,⟨coded,rfl⟩,_,_,⟨t,inserted,rfl⟩,rfl,rfl⟩ := ok
  exact ⟨t,Table.insertOk inserted,rfl,named,coded,rfl,rfl,rfl,rfl,rfl⟩

theorem createFxRateOk {base quote new T made id row}
    (ok : (createFxRate base quote new T made id).Returns db row db') :
    ∃ t, Table.Inserted db.fxRates row t ∧ db' = { db with fxRates := t } ∧
      PlannedRate.Written T ⟨base,quote,new⟩ row := by
  simp only [createFxRate,insertFx,returnsBind,returnsRaiseIf,returnsOrRaise,returnsStore,returnsPure] at ok
  obtain ⟨pair,_,⟨named,rfl⟩,_,_,⟨_,rfl⟩,_,_,⟨_,rfl⟩,_,_,⟨t,inserted,rfl⟩,rfl,rfl⟩ := ok
  exact ⟨t,Table.insertOk inserted,rfl,named,rfl,rfl,rfl⟩

theorem closeActivePricingRuleOk {provider model endpoint old T}
    (ok : (closeActivePricingRule provider model endpoint old T).Returns db true db') :
    ∃ r t, old.Guard provider model endpoint T r ∧ Table.Updated db.pricingRules r (r.closeAt T) t ∧
      db' = { db with pricingRules := t } := by
  simp only [closeActivePricingRule,returnsBind,returnsReading] at ok
  obtain ⟨found,_,⟨here,rfl⟩,rest⟩ := ok
  cases found with
  | none => simp at rest
  | some r =>
    simp only at rest
    split at rest
    · rename_i guard
      simp only [updatePricing,returnsBind,returnsStore,returnsPure,true_and] at rest
      obtain ⟨_,_,⟨t,updated,rfl⟩,rfl⟩ := rest
      exact ⟨r,t,guard,Table.updateOk (Table.findIff.mp here).1 updated rfl,rfl⟩
    · simp at rest

theorem closeActiveFxRateOk {base quote old T} (ok : (closeActiveFxRate base quote old T).Returns db true db') :
    ∃ r t, old.Guard base quote T r ∧ Table.Updated db.fxRates r (r.closeAt T) t ∧ db' = { db with fxRates := t } := by
  simp only [closeActiveFxRate,returnsBind,returnsReading] at ok
  obtain ⟨found,_,⟨here,rfl⟩,rest⟩ := ok
  cases found with
  | none => simp at rest
  | some r =>
    simp only at rest
    split at rest
    · rename_i guard
      simp only [updateFx,returnsBind,returnsStore,returnsPure,true_and] at rest
      obtain ⟨_,_,⟨t,updated,rfl⟩,rfl⟩ := rest
      exact ⟨r,t,guard,Table.updateOk (Table.findIff.mp here).1 updated rfl,rfl⟩
    · simp at rest

/-- What a prefix of the operations has done to the tables the lookups read. -/
structure Progress (T : Time) (before : CatalogDb) (ops : List Operation) (db : CatalogDb) : Prop where
  pricing : ∃ rows, pricingDated.Rewritten (PlannedPrice.Written T) T before.pricingRules (plannedPrices ops) rows
    db.pricingRules
  fx : ∃ rows, fxDated.Rewritten (PlannedRate.Written T) T before.fxRates (plannedRates ops) rows db.fxRates
  applications : db.applications = before.applications

theorem Progress.start (T : Time) (db : CatalogDb) : Progress T db [] db :=
  ⟨⟨[],Dated.Rewritten.none _⟩,⟨[],Dated.Rewritten.none _⟩,rfl⟩

variable {before : CatalogDb} {ops : List Operation}

theorem Progress.idle {T op} (h : Progress T before ops db) (noPrice : op.price? = none) (noRate : op.rate? = none)
    (pricing : db'.pricingRules = db.pricingRules) (fx : db'.fxRates = db.fxRates)
    (applications : db'.applications = db.applications) : Progress T before (ops ++ [op]) db' := by
  refine ⟨?_,?_,applications.trans h.applications⟩
  · rw [pricing]
    simpa [plannedPrices,noPrice] using h.pricing
  · rw [fx]
    simpa [plannedRates,noRate] using h.fx

theorem Progress.priced {T op plan} (h : Progress T before ops db) (price : op.price? = some plan)
    (noRate : op.rate? = none) {t : Table pricingSchema} (rest : db' = { db with pricingRules := t })
    (step : ∀ rows, pricingDated.Rewritten (PlannedPrice.Written T) T before.pricingRules (plannedPrices ops) rows
      db.pricingRules → ∃ rows', pricingDated.Rewritten (PlannedPrice.Written T) T before.pricingRules
        (plannedPrices ops ++ [plan]) rows' t) : Progress T before (ops ++ [op]) db' := by
  subst rest
  obtain ⟨rows,done⟩ := h.pricing
  refine ⟨?_,by simpa [plannedRates,noRate] using h.fx,h.applications⟩
  simpa [plannedPrices,price] using step rows done

theorem Progress.rated {T op plan} (h : Progress T before ops db) (rate : op.rate? = some plan)
    (noPrice : op.price? = none) {t : Table fxSchema} (rest : db' = { db with fxRates := t })
    (step : ∀ rows, fxDated.Rewritten (PlannedRate.Written T) T before.fxRates (plannedRates ops) rows
      db.fxRates → ∃ rows', fxDated.Rewritten (PlannedRate.Written T) T before.fxRates
        (plannedRates ops ++ [plan]) rows' t) : Progress T before (ops ++ [op]) db' := by
  subst rest
  obtain ⟨rows,done⟩ := h.fx
  refine ⟨by simpa [plannedPrices,noPrice] using h.pricing,?_,h.applications⟩
  simpa [plannedRates,rate] using step rows done

theorem PlannedPrice.Written.opened {T p r} (h : PlannedPrice.Written T p r) : pricingDated.Opened T r := by
  obtain ⟨_,_,_,_,start,stop,live⟩ := h
  exact ⟨start,stop,live⟩

theorem PlannedRate.Written.opened {T p r} (h : PlannedRate.Written T p r) : fxDated.Opened T r := by
  obtain ⟨_,_,start,stop⟩ := h
  exact ⟨start,stop,rfl⟩

theorem executeOperationProgress {applied applied' : AppliedIds} {op : Operation} {n : ℕ}
    (h : Progress draws.effectiveAt before ops db)
    (ok : (executeOperation services draws applied (op,n)).Returns db applied' db') :
    Progress draws.effectiveAt before (ops ++ [op]) db' := by
  cases op with
  | createProvider op =>
    simp only [executeOperation,returnsBind,returnsOrRaise,returnsReading,returnsRaiseIf,returnsStore,returnsPure] at ok
    obtain ⟨row,_,⟨_,rfl⟩,_,_,⟨_,rfl⟩,_,_,⟨_,rfl⟩,_,_,⟨t,_,rfl⟩,_,rfl⟩ := ok
    exact h.idle rfl rfl rfl rfl rfl
  | createRoute op =>
    simp only [executeOperation,returnsBind,returnsOrRaise,returnsStore,returnsPure] at ok
    obtain ⟨row,_,⟨_,rfl⟩,_,_,⟨t,_,rfl⟩,_,rfl⟩ := ok
    exact h.idle rfl rfl rfl rfl rfl
  | createPricing provider model endpoint new =>
    simp only [executeOperation,returnsBind,returnsPure] at ok
    obtain ⟨row,_,made,_,rfl⟩ := ok
    obtain ⟨t,inserted,rfl,wrote⟩ := createPricingRuleOk made
    exact h.priced rfl rfl rfl fun rows done => ⟨_,done.create wrote (fun _ _ => rfl) wrote.opened inserted⟩
  | supersedePricing provider model endpoint old new =>
    simp only [executeOperation,returnsBind,returnsRaiseIf,returnsPure,Bool.not_eq_false] at ok
    obtain ⟨closed,_,shut,_,_,⟨rfl,rfl⟩,row,_,made,_,rfl⟩ := ok
    obtain ⟨r,mid,guard,updated,rfl⟩ := closeActivePricingRuleOk shut
    obtain ⟨t,inserted,rfl,wrote⟩ := createPricingRuleOk made
    obtain ⟨_,texts,_,_,_,_,open'⟩ := guard
    have key : row.key = r.key := by
      have named : r.key.Normal := (Table.validOf updated.here).1
      simp only [PricingKey.texts,Prod.mk.injEq] at texts
      rw [PricingKey.Normal,texts.1,texts.2.1,texts.2.2] at named
      exact Option.some.inj (wrote.1.symm.trans named)
    exact h.priced rfl rfl rfl fun rows done =>
      ⟨_,done.supersede wrote (fun _ _ => rfl) (pricingSeparate t) wrote.opened open'
        (congrArg PricingKey.texts key) updated inserted⟩
  | createFx base quote new =>
    simp only [executeOperation,returnsBind,returnsPure] at ok
    obtain ⟨row,_,made,_,rfl⟩ := ok
    obtain ⟨t,inserted,rfl,wrote⟩ := createFxRateOk made
    exact h.rated rfl rfl rfl fun rows done => ⟨_,done.create wrote (fun _ _ => rfl) wrote.opened inserted⟩
  | supersedeFx base quote old new =>
    simp only [executeOperation,returnsBind,returnsRaiseIf,returnsPure,Bool.not_eq_false] at ok
    obtain ⟨closed,_,shut,_,_,⟨rfl,rfl⟩,row,_,made,_,rfl⟩ := ok
    obtain ⟨r,mid,guard,updated,rfl⟩ := closeActiveFxRateOk shut
    obtain ⟨t,inserted,rfl,wrote⟩ := createFxRateOk made
    obtain ⟨_,texts,_,_,_,open'⟩ := guard
    have pair : row.pair = r.pair := by
      have named : r.pair.Normal := (Table.validOf updated.here).1
      simp only [FxPair.texts,Prod.mk.injEq] at texts
      rw [FxPair.Normal,texts.1,texts.2] at named
      exact Option.some.inj (wrote.1.symm.trans named)
    exact h.rated rfl rfl rfl fun rows done =>
      ⟨_,done.supersede wrote (fun _ _ => rfl) (fxSeparate t) wrote.opened open'
        (congrArg FxPair.texts pair) updated inserted⟩
  | other type => simp [executeOperation] at ok

theorem executeOperationsProgress {applied applied' : AppliedIds} {more : List (Operation × ℕ)}
    (h : Progress draws.effectiveAt before ops db)
    (ok : (executeOperations services draws applied more).Returns db applied' db') :
    Progress draws.effectiveAt before (ops ++ more.map Prod.fst) db' := by
  induction more generalizing applied db ops with
  | nil =>
    simp only [executeOperations,returnsPure] at ok
    obtain ⟨_,rfl⟩ := ok
    simpa using h
  | cons first rest ih =>
    simp only [executeOperations,returnsBind] at ok
    obtain ⟨_,_,head,tail⟩ := ok
    simpa using ih (executeOperationProgress h head) tail
end Operations

/-- Apart from its closing instant. -/
def PricingRule.SameRow (r r' : PricingRule) : Prop := r' = { r with validUntil := r'.validUntil }

def FxRate.SameRow (r r' : FxRate) : Prop := r' = { r with validUntil := r'.validUntil }

structure PricingCut (T : Time) (ops : List Operation) (before after : Table pricingSchema) : Prop where
  past : ∀ provider model endpoint t, t < T → Option.Rel PricingRule.SameRow
    (findActivePricingRule before provider model endpoint t) (findActivePricingRule after provider model endpoint t)
  present : ∀ plan ∈ plannedPrices ops, ∃ row, plan.Written T row ∧ (∀ r ∈ before, r.id ≠ row.id) ∧
    ∀ t, T ≤ t → (∀ r ∈ before, r.key = row.key → r.enabled = true → T < r.validFrom → t < r.validFrom) →
      findActivePricingRule after row.key.provider row.key.upstreamModel row.key.endpoint t = some row
  elsewhere : ∀ provider model endpoint,
    (∀ plan ∈ plannedPrices ops, plan.key.map PricingKey.texts ≠ some (provider,model,endpoint)) →
    ∀ t, findActivePricingRule after provider model endpoint t = findActivePricingRule before provider model endpoint t

structure FxCut (T : Time) (ops : List Operation) (before after : Table fxSchema) : Prop where
  past : ∀ base quote t, t < T → Option.Rel FxRate.SameRow
    (findLatestRate before base quote t) (findLatestRate after base quote t)
  present : ∀ plan ∈ plannedRates ops, ∃ row, plan.Written T row ∧ (∀ r ∈ before, r.id ≠ row.id) ∧
    ∀ t, T ≤ t → (∀ r ∈ before, r.pair = row.pair → T < r.validFrom → t < r.validFrom) →
      findLatestRate after row.pair.baseCurrency row.pair.quoteCurrency t = some row
  elsewhere : ∀ base quote, (∀ plan ∈ plannedRates ops, plan.pair.map FxPair.texts ≠ some (base,quote)) →
    ∀ t, findLatestRate after base quote t = findLatestRate before base quote t

theorem PricingKey.textsInjective {a b : PricingKey} (same : a.texts = b.texts) : a = b := by
  cases a
  cases b
  simp only [PricingKey.texts,Prod.mk.injEq] at same
  simpa only [PricingKey.mk.injEq] using same

theorem FxPair.textsInjective {a b : FxPair} (same : a.texts = b.texts) : a = b := by
  cases a
  cases b
  simp only [FxPair.texts,Prod.mk.injEq] at same
  simpa only [FxPair.mk.injEq] using same

theorem trimmedSamePrice {T rows} {r r' : PricingRule} (h : pricingDated.Trimmed T rows r r') : r.SameRow r' := by
  obtain rfl | ⟨rfl,_⟩ := h
  · rfl
  · rfl

theorem trimmedSameRate {T rows} {r r' : FxRate} (h : fxDated.Trimmed T rows r r') : r.SameRow r' := by
  obtain rfl | ⟨rfl,_⟩ := h
  · rfl
  · rfl

theorem relMono {α : Type} {p q : α → α → Prop} (imp : ∀ a b, p a b → q a b) {a b : Option α} (h : Option.Rel p a b) :
    Option.Rel q a b := by
  cases h with
  | some h => exact .some (imp _ _ h)
  | none => exact .none

section Cuts
variable {T : Time} {before db : CatalogDb} {ops : List Operation}

theorem Progress.pricingCut (h : Progress T before ops db) : PricingCut T ops before.pricingRules db.pricingRules := by
  obtain ⟨rows,done⟩ := h.pricing
  have apart := pricingSeparate before.pricingRules
  have apart' := pricingSeparate db.pricingRules
  refine ⟨fun provider model endpoint t early => ?_,fun plan mem => ?_,fun provider model endpoint unplanned t => ?_⟩
  · exact relMono (fun _ _ => trimmedSamePrice) (done.cut.inForcePast apart apart' early)
  · obtain ⟨row,inserted,wrote⟩ := done.planned plan mem
    refine ⟨row,wrote,fun r here same => done.fresh row inserted r here same.symm,fun t late next => ?_⟩
    refine done.cut.inForcePresent apart' inserted late fun r here key => next r here ?_
    exact PricingKey.textsInjective key
  · refine done.cut.inForceElsewhere apart apart' fun row inserted key => ?_
    obtain ⟨plan,mem,wrote⟩ := done.only row inserted
    exact unplanned plan mem (by rw [wrote.1,Option.map_some]; exact congrArg some key)

theorem Progress.fxCut (h : Progress T before ops db) : FxCut T ops before.fxRates db.fxRates := by
  obtain ⟨rows,done⟩ := h.fx
  have apart := fxSeparate before.fxRates
  have apart' := fxSeparate db.fxRates
  refine ⟨fun base quote t early => ?_,fun plan mem => ?_,fun base quote unplanned t => ?_⟩
  · exact relMono (fun _ _ => trimmedSameRate) (done.cut.inForcePast apart apart' early)
  · obtain ⟨row,inserted,wrote⟩ := done.planned plan mem
    refine ⟨row,wrote,fun r here same => done.fresh row inserted r here same.symm,fun t late next => ?_⟩
    refine done.cut.inForcePresent apart' inserted late fun r here pair _ => next r here ?_
    exact FxPair.textsInjective pair
  · refine done.cut.inForceElsewhere apart apart' fun row inserted pair => ?_
    obtain ⟨plan,mem,wrote⟩ := done.only row inserted
    exact unplanned plan mem (by rw [wrote.1,Option.map_some]; exact congrArg some pair)
end Cuts

section Transaction
variable {services : CatalogServices} {draws : Draws} {request : ApplyRequest} {plan : ApplyPlan} {db db' : CatalogDb}
  {result : ApplyResult}

theorem executionGatesSilent (ok : (executionGates draws request plan).Returns db () db') : db' = db := by
  simp only [executionGates,returnsBind,returnsRaiseIf,returnsReading] at ok
  obtain ⟨_,_,⟨_,rfl⟩,_,_,⟨_,rfl⟩,_,_,⟨_,rfl⟩,_,_,⟨_,rfl⟩,rest⟩ := ok
  cases mode : request.capture.mode <;> cases admin : request.adminId <;>
    simp_all [returnsRaiseIf,returnsPure]

theorem transactionBodyOk (ok : (transactionBody services draws request plan).Returns db result db') :
    (result.status = .alreadyCommitted ∧ db' = db ∧
      findCommittedByBundle db request.capture.semanticBundleSha256 = [result.record]) ∨
    (result.status = .committed ∧ result.effectiveAt = draws.effectiveAt ∧
      findCommittedByBundle db request.capture.semanticBundleSha256 = [] ∧
      (request.capture.mode = .refresh → request.target = request.capture.target) ∧
      ∃ mid t, Progress draws.effectiveAt db plan.operations mid ∧ Table.Inserted mid.applications result.record t ∧
        result.record.bundleSha256 = request.capture.semanticBundleSha256 ∧ db' = { mid with applications := t }) := by
  simp only [transactionBody,returnsBind,returnsRaiseIf,returnsReading] at ok
  obtain ⟨_,_,⟨target,rfl⟩,found,_,⟨known,rfl⟩,rest⟩ := ok
  rw [known]
  rcases found with _ | ⟨row,_ | ⟨other,more⟩⟩
  case cons.nil =>
    simp only [returnsPure] at rest
    obtain ⟨rfl,rfl⟩ := rest
    exact Or.inl ⟨rfl,rfl,rfl⟩
  case cons.cons => simp at rest
  case nil =>
    simp only [returnsBind,returnsStore,returnsPure] at rest
    obtain ⟨_,_,gates,applied,mid,executed,_,_,⟨t,inserted,rfl⟩,rfl,rfl⟩ := rest
    cases executionGatesSilent gates
    have progress := executeOperationsProgress (Progress.start draws.effectiveAt db) executed
    rw [List.nil_append,List.zipIdx_map_fst] at progress
    refine Or.inr ⟨rfl,rfl,rfl,?_,mid,t,progress,Table.insertOk inserted,rfl,rfl⟩
    intro mode
    by_contra other
    exact target ⟨mode,other⟩

theorem transactionBodyAgain {row : CatalogRefreshApplication}
    (target : request.capture.mode = .refresh → request.target = request.capture.target)
    (once : findCommittedByBundle db request.capture.semanticBundleSha256 = [row]) :
    executeTransaction services draws request plan db = (.ok (.of .alreadyCommitted row),db) := by
  have returns : (transactionBody services draws request plan).Returns db (.of .alreadyCommitted row) db := by
    simp only [transactionBody,returnsBind,returnsRaiseIf,returnsReading]
    refine ⟨(),db,⟨fun bad => bad.2 (target bad.1),rfl⟩,_,db,⟨once,rfl⟩,?_⟩
    simp
  unfold executeTransaction
  rw [returns]

theorem executeTransactionOk (ok : executeTransaction services draws request plan db = (.ok result,db'))
    (committed : result.status = .committed) :
    (transactionBody services draws request plan).Returns db result db' := by
  unfold executeTransaction at ok
  split at ok
  · cases ok
    assumption
  · cases ok
  · cases ok
  · split at ok
    · cases ok
      cases committed
    · cases ok

theorem executeTransactionIdle (unchanged : ∀ r, (executeTransaction services draws request plan db).1 = .ok r →
    r.status ≠ .committed) : (executeTransaction services draws request plan db).2 = db := by
  unfold executeTransaction at unchanged ⊢
  split
  · rename_i r after body
    obtain ⟨_,same,_⟩ | ⟨status,_⟩ := transactionBodyOk body
    · exact same
    · simp only [body] at unchanged
      exact absurd status (unchanged r rfl)
  · rfl
  · rfl
  · split <;> rfl
end Transaction

/-- What a committed run leaves behind, whoever repeats it and wherever the catalog has moved since. -/
def Settled (services : CatalogServices) (request : ApplyRequest) (db : CatalogDb) (record : CatalogRefreshApplication) :
    Prop :=
  ∀ (draws : Draws) (again : ApplyRequest) (now : CatalogDb), again.capture = request.capture →
    again.target = request.target → blank again.actor = false → blank again.reason = false →
    findCommittedByBundle now request.capture.semanticBundleSha256 =
      findCommittedByBundle db request.capture.semanticBundleSha256 →
    applyReviewedRun services draws again now = (.ok (.of .alreadyCommitted record),now)

theorem applyCleanCut (services : CatalogServices) (draws : Draws) (request : ApplyRequest) (db : CatalogDb) :
    ((∀ r, (applyReviewedRun services draws request db).1 = .ok r → r.status ≠ .committed) →
      (applyReviewedRun services draws request db).2 = db) ∧
    ∀ result after, applyReviewedRun services draws request db = (.ok result,after) → result.status = .committed →
      ∃ plan, request.capture.sealedPlan = some plan ∧ result.effectiveAt = draws.effectiveAt ∧
        PricingCut draws.effectiveAt plan.operations db.pricingRules after.pricingRules ∧
        FxCut draws.effectiveAt plan.operations db.fxRates after.fxRates ∧
        Settled services request after result.record := by
  constructor
  · intro unchanged
    unfold applyReviewedRun at unchanged ⊢
    split
    · rfl
    · split
      · rfl
      · split
        · rfl
        · split
          · rfl
          · split
            · rfl
            · simp_all only [if_false,if_true]
              exact executeTransactionIdle (by simpa using unchanged)
  · intro result after ok committed
    unfold applyReviewedRun at ok
    split at ok
    · cases ok
    rename_i intent
    split at ok
    · cases ok
    rename_i state
    split at ok
    · cases ok
    rename_i plan sealed
    split at ok
    · cases ok
    rename_i some
    split at ok
    · cases ok
    rename_i version
    obtain ⟨status,_⟩ | ⟨_,instant,none,target,mid,t,progress,inserted,bundle,rfl⟩ :=
      transactionBodyOk (executeTransactionOk ok committed)
    · cases status.symm.trans committed
    refine ⟨plan,sealed,instant,progress.pricingCut,progress.fxCut,?_⟩
    intro draws' again now capture sameTarget actor reason records
    have once : findCommittedByBundle now again.capture.semanticBundleSha256 = [result.record] := by
      rw [capture,records]
      change t.rows.filter _ = _
      rw [inserted.rows,List.filter_cons_of_pos (by simpa using bundle),progress.applications]
      exact congrArg _ none
    unfold applyReviewedRun
    rw [if_neg (by simp [actor,reason]),capture,if_neg state,sealed]
    simp only [if_neg some,if_neg version]
    exact transactionBodyAgain (by rw [capture,sameTarget]; exact target) once

namespace Demo

def key : PricingKey := ⟨"openai","gpt-x","/v1/chat/completions"⟩

def reviewed : PricingRule :=
  ⟨1,key,"USD",⟨some 2,none,some 8,none,none⟩,.empty,0,none,true,none,0⟩

def catalog : CatalogDb :=
  ⟨.empty,.empty,⟨[reviewed],by simp,by simp; decide +kernel⟩,.empty,.empty,[]⟩

def operation : Operation :=
  .supersedePricing "openai" "gpt-x" "/v1/chat/completions" ⟨1,"USD",reviewed.price,0,none,true⟩
    ⟨"USD",⟨some 3,none,some 9,none,none⟩,none⟩

def plan : ApplyPlan := ⟨"1","plan",[operation]⟩

def request : ApplyRequest where
  capture :=
    { runId := "run", semanticBundleSha256 := "bundle", hmacSha256 := "hmac", mode := .refresh,
      target := ⟨"db",5432,"gateway"⟩, baseline := projectCatalogRows catalog, state := .ready,
      sealedPlan := some plan, validateBundle := fun _ => ⟨.ready,[],some plan⟩ }
  target := ⟨"db",5432,"gateway"⟩
  reason := "refresh"
  actor := "operator"
  adminId := none
  ackWarnings := []

def draws : Draws := ⟨99,100,100,fun n => n + 2,7,"gateway"⟩

def services : CatalogServices := ⟨fun _ _ => none,fun _ _ => none⟩
end Demo

theorem applyCleanCutDemo : ∃ result after,
    applyReviewedRun Demo.services Demo.draws Demo.request Demo.catalog = (.ok result,after) ∧
    PricingCut 100 [Demo.operation] Demo.catalog.pricingRules after.pricingRules ∧
    Settled Demo.services Demo.request after result.record := by
  have status : (applyReviewedRun Demo.services Demo.draws Demo.request Demo.catalog).1.toOption.map
      ApplyResult.status = some .committed := by decide +kernel
  match outcome : applyReviewedRun Demo.services Demo.draws Demo.request Demo.catalog with
  | (.error e,after) => simp [outcome,Except.toOption] at status
  | (.ok result,after) =>
    obtain ⟨plan,sealed,_,pricing,_,settled⟩ := (applyCleanCut Demo.services Demo.draws Demo.request Demo.catalog).2
      result after outcome (by simpa [outcome,Except.toOption] using status)
    cases Option.some.inj sealed
    exact ⟨result,after,rfl,pricing,settled⟩
end SlaifGateway.Catalog
