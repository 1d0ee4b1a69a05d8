import SlaifGateway.Library.Transaction
import SlaifGateway.Catalog.Schema

/-! The apply of one reviewed refresh run: the plan's operations, the transaction that
executes them at one instant, and its outcomes. The table locks make the transaction
serial. The provider-config and route services are parameters (they return the row they
would write, or refuse), and so are the identifiers and instants a run draws; audit rows
are left out. -/
namespace SlaifGateway.Catalog
open Store (Uuid Time strip blank)
open Library Library.Tx

structure CreateProvider where
  provider : String
  displayName : String
  baseUrl : String
  apiKeyEnvVar : String
  kind : String
  enabled : Bool
  timeoutSeconds : ℤ
  maxRetries : ℤ
  deriving DecidableEq, Repr

structure CreateRoute where
  requestedModel : String
  matchType : String
  provider : String
  upstreamModel : String
  priority : ℤ
  visibleInModels : Bool
  enabled : Bool
  endpoint : String
  supportsStreaming : Bool
  capabilities : List (String × Bool)
  deriving DecidableEq, Repr

structure NewPrice where
  currency : String
  dimensions : Dimensions
  sourceUrl : Option String
  deriving DecidableEq, Repr

structure OldPrice where
  rowId : Uuid
  currency : String
  dimensions : Dimensions
  validFrom : Time
  validUntil : Option Time
  enabled : Bool
  deriving DecidableEq, Repr

structure NewRate where
  rate : ℚ
  source : Option String
  deriving DecidableEq, Repr

structure OldRate where
  rowId : Uuid
  rate : ℚ
  validFrom : Time
  validUntil : Option Time
  source : Option String
  deriving DecidableEq, Repr

inductive Operation where
  | createProvider (op : CreateProvider)
  | createRoute (op : CreateRoute)
  | createPricing (provider model endpoint : String) (new : NewPrice)
  | supersedePricing (provider model endpoint : String) (old : OldPrice) (new : NewPrice)
  | createFx (baseCurrency quoteCurrency : String) (new : NewRate)
  | supersedeFx (baseCurrency quoteCurrency : String) (old : OldRate) (new : NewRate)
  | other (type : String)
  deriving DecidableEq, Repr

inductive ApplyCode where
  | intentIncomplete | stateNotApplicable | noPlan | planUnsupported
  | targetMismatch | duplicateRecord | freshnessBlocked | warningsUnacknowledged | planMismatch
  | bootstrapNotEmpty | baselineStale | adminUnknown | supersessionGuardFailed | unknownOperation
  | commitConflict | databaseError
  deriving DecidableEq, Repr

inductive Failure where
  | blocked (code : ApplyCode)
  | integrity
  | exception
  deriving DecidableEq, Repr

abbrev Step := Tx CatalogDb Failure

structure CatalogServices where
  createProviderConfig : CreateProvider → Uuid → Option ProviderConfig
  createModelRoute : CreateRoute → Uuid → Option ModelRoute

def store {τ : Type} (put : CatalogDb → τ → CatalogDb) (result : CatalogDb → Option τ) : Step Unit := fun db =>
  match result db with
  | some t => (.ok (),put db t)
  | none => (.error .integrity,db)

@[simp] theorem returnsStore {τ : Type} {put : CatalogDb → τ → CatalogDb} {result db u db'} :
    (store put result).Returns db u db' ↔ ∃ t, result db = some t ∧ put db t = db' := by
  change (match result db with
    | some t => (Except.ok (),put db t)
    | none => (Except.error Failure.integrity,db)) = (Except.ok u,db') ↔ _
  cases result db <;> simp

def insertPricing (r : PricingRule) : Step Unit :=
  store (fun db t => { db with pricingRules := t }) fun db => db.pricingRules.insert r

def insertFx (r : FxRate) : Step Unit := store (fun db t => { db with fxRates := t }) fun db => db.fxRates.insert r

def updatePricing (r : PricingRule) : Step Unit :=
  store (fun db t => { db with pricingRules := t }) fun db => db.pricingRules.update r

def updateFx (r : FxRate) : Step Unit := store (fun db t => { db with fxRates := t }) fun db => db.fxRates.update r

/-- `_pricing_create_kwargs` and `PricingRuleService.create_pricing_rule`. -/
def createPricingRule (provider model endpoint : String) (new : NewPrice) (effectiveAt createdAt : Time) (id : Uuid) :
    Step PricingRule := do
  raiseIf (new.dimensions.input = none ∨ new.dimensions.output = none) .exception
  raiseIf (∃ price ∈ new.dimensions.all, ∃ p ∈ price, p < 0) .exception
  let key ← orRaise (PricingKey.of provider model endpoint) .exception
  let currency ← orRaise (normalizeCurrency new.currency) .exception
  let row : PricingRule :=
    { id, key, currency, price := new.dimensions, pricingMetadata := .empty, validFrom := effectiveAt,
      validUntil := none, enabled := true, sourceUrl := new.sourceUrl.bind requiredText, createdAt }
  insertPricing row
  pure row

/-- `FxRateService.create_fx_rate`. -/
def createFxRate (baseCurrency quoteCurrency : String) (new : NewRate) (effectiveAt createdAt : Time) (id : Uuid) :
    Step FxRate := do
  let pair ← orRaise (FxPair.of baseCurrency quoteCurrency) .exception
  raiseIf (pair.baseCurrency = pair.quoteCurrency) .exception
  raiseIf (new.rate ≤ 0) .exception
  let row : FxRate :=
    { id, pair, rate := new.rate, validFrom := effectiveAt, validUntil := none,
      source := new.source.bind requiredText, createdAt }
  insertFx row
  pure row

def OldPrice.Guard (old : OldPrice) (provider model endpoint : String) (effectiveAt : Time) (r : PricingRule) : Prop :=
  r.id = old.rowId ∧ r.key.texts = (provider,model,endpoint) ∧ r.currency = old.currency ∧
  r.validFrom = old.validFrom ∧ r.enabled = true ∧ r.validUntil = old.validUntil ∧ ∀ e ∈ r.validUntil, effectiveAt < e

instance (old : OldPrice) (p m e : String) (t : Time) (r) : Decidable (old.Guard p m e t r) := by
  unfold OldPrice.Guard; infer_instance

def OldRate.Guard (old : OldRate) (base quote : String) (effectiveAt : Time) (r : FxRate) : Prop :=
  r.id = old.rowId ∧ r.pair.texts = (base,quote) ∧ r.rate = old.rate ∧ r.validFrom = old.validFrom ∧
  r.validUntil = old.validUntil ∧ ∀ e ∈ r.validUntil, effectiveAt < e

instance (old : OldRate) (b q : String) (t : Time) (r) : Decidable (old.Guard b q t r) := by
  unfold OldRate.Guard; infer_instance

def closeActivePricingRule (provider model endpoint : String) (old : OldPrice) (effectiveAt : Time) : Step Bool := do
  match ← reading fun db => db.pricingRules.find old.rowId with
  | some r =>
    if old.Guard provider model endpoint effectiveAt r then
      updatePricing (r.closeAt effectiveAt)
      pure true
    else pure false
  | none => pure false

def closeActiveFxRate (base quote : String) (old : OldRate) (effectiveAt : Time) : Step Bool := do
  match ← reading fun db => db.fxRates.find old.rowId with
  | some r =>
    if old.Guard base quote effectiveAt r then
      updateFx (r.closeAt effectiveAt)
      pure true
    else pure false
  | none => pure false

def AppliedIds.empty : AppliedIds := ⟨[],[],[],[],[],[],[],[]⟩

def AppliedIds.counts (a : AppliedIds) : Counts :=
  ⟨a.providers.length,a.routes.length,a.pricingCreated.length,a.fxCreated.length,a.pricingSupersededOld.length,
   a.fxSupersededOld.length⟩

/-- The instants and identifiers one attempt draws. -/
structure Draws where
  validationNow : Time
  effectiveAt : Time
  createdAt : Time
  rowId : ℕ → Uuid
  recordId : Uuid
  dbActor : String

section Execution
variable (services : CatalogServices) (draws : Draws)

def executeOperation (applied : AppliedIds) : Operation × ℕ → Step AppliedIds
  | (.createProvider op,n) => do
    let row ← orRaise (services.createProviderConfig op (draws.rowId n)) .exception
    raiseIf ((← reading fun db => db.providerConfigs.findUnique row.provider) ≠ none) .exception
    store (fun db t => { db with providerConfigs := t }) fun db => db.providerConfigs.insert row
    pure { applied with providers := applied.providers ++ [row.id] }
  | (.createRoute op,n) => do
    let row ← orRaise (services.createModelRoute op (draws.rowId n)) .exception
    store (fun db t => { db with modelRoutes := t }) fun db => db.modelRoutes.insert row
    pure { applied with routes := applied.routes ++ [row.id] }
  | (.createPricing provider model endpoint new,n) => do
    let row ← createPricingRule provider model endpoint new draws.effectiveAt draws.createdAt (draws.rowId n)
    pure { applied with pricingCreated := applied.pricingCreated ++ [row.id] }
  | (.supersedePricing provider model endpoint old new,n) => do
    let closed ← closeActivePricingRule provider model endpoint old draws.effectiveAt
    raiseIf (closed = false) (.blocked .supersessionGuardFailed)
    let row ← createPricingRule provider model endpoint new draws.effectiveAt draws.createdAt (draws.rowId n)
    pure { applied with
      pricingSupersededOld := applied.pricingSupersededOld ++ [old.rowId]
      pricingSupersededNew := applied.pricingSupersededNew ++ [row.id] }
  | (.createFx base quote new,n) => do
    let row ← createFxRate base quote new draws.effectiveAt draws.createdAt (draws.rowId n)
    pure { applied with fxCreated := applied.fxCreated ++ [row.id] }
  | (.supersedeFx base quote old new,n) => do
    let closed ← closeActiveFxRate base quote old draws.effectiveAt
    raiseIf (closed = false) (.blocked .supersessionGuardFailed)
    let row ← createFxRate base quote new draws.effectiveAt draws.createdAt (draws.rowId n)
    pure { applied with
      fxSupersededOld := applied.fxSupersededOld ++ [old.rowId]
      fxSupersededNew := applied.fxSupersededNew ++ [row.id] }
  | (.other _,_) => throw (.blocked .unknownOperation)

def executeOperations : AppliedIds → List (Operation × ℕ) → Step AppliedIds
  | applied,[] => pure applied
  | applied,op::rest => do
    let applied ← executeOperation services draws applied op
    executeOperations applied rest
end Execution

structure Target where
  serverHost : String
  serverPort : ℕ
  database : String
  deriving DecidableEq, Repr

structure CatalogRows where
  providers : List ProviderConfig
  routes : List ModelRoute
  pricing : List PricingRule
  fx : List FxRate
  deriving DecidableEq, Repr

def projectCatalogRows (db : CatalogDb) : CatalogRows :=
  ⟨db.providerConfigs.rows,db.modelRoutes.rows,db.pricingRules.rows,db.fxRates.rows⟩

/-- Two `_canon_row_map`s differ: a later row of the same id replaces an earlier one. -/
def drifted {ρ : Type} [DecidableEq ρ] (id : ρ → Uuid) (live captured : List ρ) : Bool :=
  (live ++ captured).any fun row =>
    live.reverse.find? (fun r => id r = id row) ≠ captured.reverse.find? fun r => id r = id row

def CatalogRows.stale (live captured : CatalogRows) : Bool :=
  drifted ProviderConfig.id live.providers captured.providers || drifted ModelRoute.id live.routes captured.routes ||
  drifted PricingRule.id live.pricing captured.pricing || drifted FxRate.id live.fx captured.fx

inductive ReviewState where | ready | readyWithWarnings | blocked
  deriving DecidableEq, Repr

structure ApplyPlan where
  schemaVersion : String
  planSha256 : String
  operations : List Operation
  deriving DecidableEq, Repr

/-- What the transaction reads of `validate_bundle`'s report. -/
structure Recomputed where
  state : ReviewState
  openCodes : List String
  applyPlan : Option ApplyPlan
  deriving DecidableEq, Repr

structure VerifiedCapture where
  runId : String
  semanticBundleSha256 : String
  hmacSha256 : String
  mode : ApplyMode
  target : Target
  baseline : CatalogRows
  state : ReviewState
  sealedPlan : Option ApplyPlan
  validateBundle : Time → Recomputed

structure ApplyRequest where
  capture : VerifiedCapture
  target : Target
  reason : String
  actor : String
  adminId : Option Uuid
  ackWarnings : List String

inductive ApplyStatus where | committed | alreadyCommitted
  deriving DecidableEq, Repr

structure ApplyResult where
  status : ApplyStatus
  runId : String
  bundleSha256 : String
  planSha256 : String
  effectiveAt : Time
  counts : Counts
  record : CatalogRefreshApplication
  deriving DecidableEq, Repr

def ApplyResult.of (status : ApplyStatus) (row : CatalogRefreshApplication) : ApplyResult :=
  ⟨status,row.runId,row.bundleSha256,row.planSha256,row.effectiveAt,row.counts,row⟩

def findCommittedByBundle (db : CatalogDb) (bundleSha256 : String) : List CatalogRefreshApplication :=
  db.applications.filter fun a => a.bundleSha256 = bundleSha256

def applyPlanSchemaVersion : String := "1"

section Transaction
variable (services : CatalogServices) (draws : Draws) (request : ApplyRequest) (plan : ApplyPlan)

def executionGates : Step Unit := do
  let report := request.capture.validateBundle draws.validationNow
  raiseIf (report.state = .blocked) (.blocked .freshnessBlocked)
  raiseIf (∃ code ∈ report.openCodes, code ∉ request.ackWarnings) (.blocked .warningsUnacknowledged)
  raiseIf (report.applyPlan.map ApplyPlan.planSha256 ≠ some plan.planSha256) (.blocked .planMismatch)
  let live ← reading projectCatalogRows
  match request.capture.mode with
  | .bootstrap => raiseIf (live ≠ ⟨[],[],[],[]⟩) (.blocked .bootstrapNotEmpty)
  | .refresh => raiseIf (live.stale request.capture.baseline = true) (.blocked .baselineStale)
  match request.adminId with
  | none => pure ()
  | some admin => raiseIf ((← reading fun db => db.adminUsers.contains admin) = false) (.blocked .adminUnknown)

def transactionBody : Step ApplyResult := do
  raiseIf (request.capture.mode = .refresh ∧ request.target ≠ request.capture.target) (.blocked .targetMismatch)
  match ← reading fun db => findCommittedByBundle db request.capture.semanticBundleSha256 with
  | [row] => pure (.of .alreadyCommitted row)
  | _::_::_ => throw (.blocked .duplicateRecord)
  | [] =>
    executionGates draws request plan
    let applied ← executeOperations services draws .empty plan.operations.zipIdx
    let record : CatalogRefreshApplication :=
      { id := draws.recordId, runId := request.capture.runId, bundleSha256 := request.capture.semanticBundleSha256,
        receiptHmacSha256 := request.capture.hmacSha256, planSha256 := plan.planSha256, mode := request.capture.mode,
        operatorActor := strip request.actor, dbActor := draws.dbActor, adminUserId := request.adminId,
        reason := strip request.reason, effectiveAt := draws.effectiveAt, applied, counts := applied.counts,
        createdAt := draws.createdAt }
    store (fun db t => { db with applications := t }) fun db => db.applications.insert record
    pure (.of .committed record)

/-- `_execute_transaction`: a body that fails is rolled back, and a lost uniqueness race is resolved
by a second, read-only lookup. -/
def executeTransaction (db : CatalogDb) : Except ApplyCode ApplyResult × CatalogDb :=
  match (transactionBody services draws request plan).exec db with
  | (.ok result,db') => (.ok result,db')
  | (.error (.blocked code),_) => (.error code,db)
  | (.error .exception,_) => (.error .databaseError,db)
  | (.error .integrity,_) =>
    match db.applications.findUnique (request.capture.semanticBundleSha256,plan.planSha256) with
    | some row => (.ok (.of .alreadyCommitted row),db)
    | none => (.error .commitConflict,db)
end Transaction

def applyReviewedRun (services : CatalogServices) (draws : Draws) (request : ApplyRequest) (db : CatalogDb) :
    Except ApplyCode ApplyResult × CatalogDb :=
  if blank request.actor || blank request.reason then (.error .intentIncomplete,db)
  else if request.capture.state ≠ .ready ∧ request.capture.state ≠ .readyWithWarnings then
    (.error .stateNotApplicable,db)
  else match request.capture.sealedPlan with
  | none => (.error .noPlan,db)
  | some plan =>
    if plan.operations = [] then (.error .noPlan,db)
    else if plan.schemaVersion ≠ applyPlanSchemaVersion then (.error .planUnsupported,db)
    else executeTransaction services draws request plan db
end SlaifGateway.Catalog
