import SlaifGateway.Catalog.SourceEvidence
import SlaifGateway.Catalog.Apply
import Mathlib.Data.List.Sort
import Mathlib.Data.String.Basic

/-! The review of a refresh bundle as far as it decides the plan: which models are
selected, how their routes and prices are paired, the comparison with the baseline, the
pricing and FX operations and the overall state. The remaining checks (source age and
parsing, model limits, capabilities, route attributes, import row syntax) enter as
findings and flags; they only add findings or end a model's review. -/
namespace SlaifGateway.Catalog
open Store (Uuid Time strip)
open Library

structure ModelPricingFacts where
  provider : String
  model : String
  currency : String
  dimensions : List PricingDimension
  distinct : (dimensions.map PricingDimension.name).Nodup
  coded : normalizeCurrency currency = some currency
  validFrom : Time
  sources : List String
  sourceUrl : Option String
  deriving Repr

instance : DecidableEq ModelPricingFacts := fun a b =>
  decidable_of_iff (a.provider = b.provider ∧ a.model = b.model ∧ a.currency = b.currency ∧ a.dimensions = b.dimensions ∧
    a.validFrom = b.validFrom ∧ a.sources = b.sources ∧ a.sourceUrl = b.sourceUrl) (by cases a; cases b; simp)

structure RouteFacts where
  provider : String
  requestedModel : String
  upstreamModel : String
  matchType : String
  priority : ℤ
  enabled : Bool
  visibleInModels : Bool
  supportsStreaming : Bool
  capabilities : List (String × Bool)
  deriving DecidableEq, Repr

structure ModelFacts where
  provider : String
  model : String
  deprecated : Bool
  deriving DecidableEq, Repr

structure FxFacts where
  baseCurrency : String
  quoteCurrency : String
  rate : ℚ
  validFrom : Time
  validUntil : Option Time
  source : Option String
  deriving DecidableEq, Repr

structure RefreshBundle where
  providers : List String
  modelInclude : List String
  models : List ModelFacts
  pricing : List ModelPricingFacts
  routes : List RouteFacts
  fx : List FxFacts
  deriving DecidableEq, Repr

/-- Every fact of the bundle is for the one endpoint of the standard profile. -/
def chatEndpoint : String := "/v1/chat/completions"

abbrev ModelName := String × String

section Selection
variable (b : RefreshBundle) (baseline : Option CatalogRows)

def RefreshBundle.factKeys : List ModelName :=
  b.models.map (fun m => (m.provider,m.model)) ++ b.pricing.map (fun p => (p.provider,p.model)) ++
  b.routes.map fun r => (r.provider,r.requestedModel)

def selectedModelKeys : List ModelName :=
  b.factKeys.flatMap fun (provider,model) =>
    if provider ∉ b.providers then []
    else
      let forwarding := b.routes.filter fun r => r.provider = provider ∧ r.upstreamModel = model
      let resolved :=
        if b.routes.any (fun r => r.provider = provider ∧ r.requestedModel = model) || forwarding.isEmpty then [model]
        else forwarding.map RouteFacts.requestedModel
      (resolved.filter fun m => b.modelInclude = [] ∨ m ∈ b.modelInclude).map fun m => (provider,m)

def baselineModelProviders (rows : CatalogRows) (model : String) : List String :=
  b.providers.filter fun p => rows.routes.any (fun r => r.requestedModel = model ∧ r.provider = p) ||
    rows.pricing.any fun r => r.key.upstreamModel = model ∧ r.key.provider = p

def selectedOutsideFacts : List ModelName :=
  if b.modelInclude ≠ [] then
    (b.modelInclude.filter fun model => ¬b.providers.any fun p => (p,model) ∈ b.factKeys).flatMap fun model =>
      let holders := (baseline.map fun rows => baselineModelProviders b rows model).getD []
      (if holders = [] then b.providers else holders).map fun p => (p,model)
  else match baseline with
  | none => []
  | some rows =>
    (rows.routes.filter fun r => r.provider ∈ b.providers).map (fun r => (r.provider,r.requestedModel)) ++
    (rows.pricing.filter fun r => r.key.provider ∈ b.providers).map fun r => (r.key.provider,r.key.upstreamModel)

def selected : List ModelName :=
  (selectedModelKeys b ++ selectedOutsideFacts b baseline).dedup.insertionSort fun x y => toLex x ≤ toLex y
end Selection

structure Pairing where
  facts : Option ModelFacts
  routes : List RouteFacts
  pricing : List ModelPricingFacts
  deriving DecidableEq, Repr

section Pairing
variable (b : RefreshBundle) (provider : String)

def RefreshBundle.modelFor (model : String) : Option ModelFacts :=
  b.models.find? fun m => m.provider = provider ∧ m.model = model

def RefreshBundle.pricingFor (model : String) : List ModelPricingFacts :=
  b.pricing.filter fun p => p.provider = provider ∧ p.model = model

def pair (model : String) : Pairing :=
  let own := b.routes.filter fun r => r.provider = provider ∧ r.requestedModel = model
  let others := ((own.map RouteFacts.upstreamModel).dedup.insertionSort fun x y => x ≤ y).filter fun u => u ≠ model
  let facts := (b.modelFor provider model).or (others.findSome? (b.modelFor provider))
  let pricing :=
    if b.pricingFor provider model ≠ [] then b.pricingFor provider model
    else ((others.map (b.pricingFor provider)).find? fun l => l ≠ []).getD []
  let routes :=
    if own = [] ∧ (facts ≠ none ∨ pricing ≠ []) then
      b.routes.filter fun r => r.provider = provider ∧ r.upstreamModel = model ∧ r.matchType = "exact"
    else own
  ⟨facts,routes,pricing⟩
end Pairing

/-- `_select_active_pricing` and `_select_active_fx`: the active row and whether several disagree. -/
def selectActive {ρ β : Type} [DecidableEq β] (active : ρ → Bool) (start : ρ → Time) (value : ρ → β) (rows : List ρ) :
    Option ρ × Bool :=
  let live := rows.filter active
  if 1 < (live.map value).dedup.length then (none,true) else (@List.argmax ρ Time Int.instLinearOrder.toPreorder _ start live,false)

def PricingRule.activeAt (now : Time) (r : PricingRule) : Bool := pricingDated.Covers r now

def FxRate.activeAt (now : Time) (r : FxRate) : Bool := fxDated.Covers r now

def FxFacts.activeAt (now : Time) (f : FxFacts) : Bool := f.validFrom ≤ now ∧ ∀ e ∈ f.validUntil, now < e

def selectActivePricing (rows : List PricingRule) (now : Time) : Option PricingRule × Bool :=
  selectActive (PricingRule.activeAt now) PricingRule.validFrom (fun r => (r.currency,r.price)) rows

def countActivePricing (rows : List PricingRule) (now : Time) : ℕ := rows.countP (PricingRule.activeAt now)

def selectActiveFx (rows : List FxRate) (now : Time) : Option FxRate × Bool :=
  selectActive (FxRate.activeAt now) FxRate.validFrom FxRate.rate rows

def countActiveFx (rows : List FxRate) (now : Time) : ℕ := rows.countP (FxRate.activeAt now)

inductive ComparisonState where
  | unchanged | new | removed | zeroTransition | changedReview | changed | currencyMismatch
  deriving DecidableEq, Repr

structure PriceComparison where
  provider : String
  model : String
  dimension : DimensionName
  old : Option ℚ
  new : Option ℚ
  state : ComparisonState
  deriving DecidableEq, Repr

def compareDimension (threshold : ℚ) (old new : Option ℚ) : ComparisonState :=
  match old,new with
  | none,none => .unchanged
  | none,some _ => .new
  | some _,none => .removed
  | some o,some n =>
    if o = 0 ∧ 0 < n ∨ 0 < o ∧ n = 0 then .zeroTransition
    else if o ≠ 0 then
      if threshold * |o| < |n - o| then .changedReview else if o ≠ n then .changed else .unchanged
    else .unchanged

def ModelPricingFacts.value (p : ModelPricingFacts) (name : DimensionName) : Option ℚ :=
  (p.dimensions.find? fun d => d.name = name).bind PricingDimension.value

/-- `_pricing_dimensions`. -/
def ModelPricingFacts.toDimensions (p : ModelPricingFacts) : Dimensions :=
  ⟨p.value .input,p.value .cachedInput,p.value .output,p.value .reasoning,p.value .request⟩

def ModelPricingFacts.newPrice (p : ModelPricingFacts) : NewPrice := ⟨p.currency,p.toDimensions,p.sourceUrl⟩

def createPricingOp (p : ModelPricingFacts) (upstream : String) : Operation :=
  .createPricing p.provider upstream chatEndpoint p.newPrice

def supersedePricingOp (old : PricingRule) (p : ModelPricingFacts) : Operation :=
  .supersedePricing old.key.provider old.key.upstreamModel old.key.endpoint
    ⟨old.id,old.currency,old.price,old.validFrom,old.validUntil,old.enabled⟩ p.newPrice

def createRouteOp (r : RouteFacts) : Operation :=
  .createRoute
    { requestedModel := r.requestedModel, matchType := r.matchType, provider := r.provider,
      upstreamModel := r.upstreamModel, priority := r.priority, visibleInModels := r.visibleInModels,
      enabled := r.enabled, endpoint := chatEndpoint, supportsStreaming := r.supportsStreaming,
      capabilities := r.capabilities }

def createProviderOp (provider : String) : Operation :=
  .createProvider
    { provider, displayName := provider,
      baseUrl := if provider = "openai" then "https://api.openai.com/v1" else "https://openrouter.ai/api/v1",
      apiKeyEnvVar := if provider = "openai" then "OPENAI_UPSTREAM_API_KEY" else "OPENROUTER_API_KEY",
      kind := "openai_compatible", enabled := true, timeoutSeconds := 300, maxRetries := 2 }

/-- The outcome of the checks of one selected model that are not modelled here. -/
structure ModelChecks where
  absent : List Finding
  truncatedRequired : Bool
  findings : List Finding
  evidenceBlocked : Bool
  routeBlockers : List String
  routeChanged : Bool
  deriving DecidableEq, Repr

structure RefreshPolicy where
  priceChangeReview : ℚ
  fxChangeReview : ℚ
  deriving DecidableEq, Repr

structure Context where
  evidence : Evidence
  policy : RefreshPolicy
  findings : List Finding
  checks : String → String → ModelChecks
  fxBound : FxFacts → Bool
  fxRowValid : String → Bool
  routeRowsValid : Bool
  pricingRowsValid : Bool

inductive PricingAction where
  | none
  | create (upstream : String) (facts : ModelPricingFacts)
  | supersede (old : PricingRule) (facts : ModelPricingFacts)
  deriving DecidableEq, Repr

structure ModelReview where
  findings : List Finding
  blocked : Bool
  comparisons : List PriceComparison
  newRoutes : List RouteFacts
  artifact : Option ModelPricingFacts
  upstream : Option String
  action : PricingAction
  priceMutation : Bool
  routeMutation : Bool
  deriving DecidableEq, Repr

def ModelReview.ended (findings : List Finding) (blocked : Bool) : ModelReview :=
  ⟨findings,blocked,[],[],none,none,.none,false,false⟩

def baselinePricingFor (baseline : Option CatalogRows) (provider upstream : String) : List PricingRule :=
  (baseline.map CatalogRows.pricing).getD [] |>.filter fun r => r.key.texts = (provider,upstream,chatEndpoint)

def baselineRouteFor (baseline : Option CatalogRows) (provider model matchType : String) : Option ModelRoute :=
  (baseline.map CatalogRows.routes).getD [] |>.find? fun r =>
    r.provider = provider ∧ r.requestedModel = model ∧ r.matchType = matchType ∧ r.endpoint = chatEndpoint

def comparePrices (threshold : ℚ) (provider model : String) (old : Option PricingRule) (p : ModelPricingFacts) :
    List PriceComparison :=
  p.dimensions.map fun d =>
    let before := old.bind fun r => r.price.get d.name
    let state :=
      if ∃ r ∈ old, r.currency ≠ p.currency then .currencyMismatch else compareDimension threshold before d.value
    ⟨provider,model,d.name,before,d.value,state⟩

def PriceComparison.changes (c : PriceComparison) : Bool := c.state ≠ .unchanged

/-- The proposed dimensions of which at least one differs from the row. -/
def priceChanged (threshold : ℚ) (old : PricingRule) (p : ModelPricingFacts) : Bool :=
  p.dimensions.any fun d => compareDimension threshold (old.price.get d.name) d.value ≠ .unchanged

def movementFindings (comparisons : List PriceComparison) : List Finding :=
  comparisons.flatMap fun c =>
    match c.state with
    | .zeroTransition => [⟨.review,"price_zero_transition"⟩]
    | .changedReview => [⟨.review,"price_moved_review"⟩]
    | _ => []

def ModelPricingFacts.missingRequired (p : ModelPricingFacts) : List Finding :=
  [DimensionName.input,DimensionName.output].filterMap fun name =>
    if p.value name = none then some ⟨.blocker,"missing_required_dimension"⟩ else none

/-- The pricing operation of one model against the baseline rows of its upstream, with the blockers it may raise. -/
def pricingAction (threshold : ℚ) (oldRows : List PricingRule) (now : Time) (upstream : String) (p : ModelPricingFacts) :
    PricingAction × List Finding :=
  if oldRows = [] then (.create upstream p,[])
  else match (selectActivePricing oldRows now).1 with
  | none =>
    if oldRows.any fun r => r.enabled = false then (.none,[⟨.blocker,"baseline_disabled_rows"⟩])
    else if oldRows.any fun r => r.enabled && decide (now < r.validFrom) then
      (.none,[⟨.blocker,"baseline_future_row_overlap"⟩])
    else (.create upstream p,[])
  | some old =>
    if priceChanged threshold old p = false then (.none,[])
    else if countActivePricing oldRows now ≠ 1 then (.none,[⟨.blocker,"baseline_duplicate_active_rows"⟩])
    else (.supersede old p,[])

section Review
variable (ctx : Context) (b : RefreshBundle) (baseline : Option CatalogRows) (now : Time)

def priceConflicts (old : Option PricingRule) (ambiguous : Bool) (routeBlockers : List String) (p : ModelPricingFacts) :
    List Finding :=
  (if ambiguous then [⟨.blocker,"baseline_ambiguous_rows"⟩] else []) ++
  (if ∃ r ∈ old, r.pricingMetadata.unrepresented = true then [⟨.blocker,"baseline_unrepresented_metadata"⟩] else []) ++
  (if ∃ r ∈ old, r.currency ≠ p.currency then [⟨.blocker,"currency_inconsistency"⟩] else []) ++
  routeBlockers.map (fun code => ⟨.blocker,code⟩) ++ p.missingRequired

def exposure (newRoutes : List RouteFacts) (action : PricingAction) : List Finding :=
  if newRoutes = [] then []
  else match action with
  | .supersede _ _ => [⟨.review,"new_route_with_changed_pricing"⟩]
  | _ => [⟨.review,"new_model_exposure"⟩]

/-- The comparison with the baseline, for one price whose evidence did not block. -/
def reviewPrice (provider model upstream : String) (routes : List RouteFacts) (p : ModelPricingFacts)
    (evidence : List Finding) : ModelReview :=
  let checks := ctx.checks provider model
  let threshold := ctx.policy.priceChangeReview
  let oldRows := baselinePricingFor baseline provider upstream
  let (old,ambiguous) := selectActivePricing oldRows now
  let comparisons := comparePrices threshold provider model old p
  let conflicts := priceConflicts old ambiguous checks.routeBlockers p
  let findings := evidence ++ conflicts ++ movementFindings comparisons
  if conflicts ≠ [] then
    { findings, blocked := true, comparisons, newRoutes := [], artifact := none, upstream := some upstream,
      action := .none, priceMutation := false, routeMutation := false }
  else
    let newRoutes :=
      if routes.all fun r => (baselineRouteFor baseline provider model r.matchType).isNone then routes else []
    let (action,blockers) := pricingAction threshold oldRows now upstream p
    { findings := findings ++ blockers ++ exposure newRoutes action, blocked := false, comparisons, newRoutes,
      artifact := if oldRows = [] then some p else none, upstream := some upstream, action,
      priceMutation := oldRows ≠ [] ∧ comparisons.any PriceComparison.changes = true,
      routeMutation := checks.routeChanged }

def evidenceFindings (provider model upstream : String) (p : ModelPricingFacts) : List Finding :=
  let reconciled := p.dimensions.map (ctx.evidence.reconcile provider upstream p.sources)
  (ctx.checks provider model).findings ++ reconciled.flatMap Evidence.Reconciled.findings ++
    if reconciled.flatMap Evidence.Reconciled.missingFx = [] then [] else [⟨.blocker,"fx_evidence_unbound"⟩]

def reviewModel (name : ModelName) : ModelReview :=
  let (provider,model) := name
  let checks := ctx.checks provider model
  let paired := pair b provider model
  if paired.facts = none ∧ paired.routes = [] ∧ paired.pricing = [] then .ended checks.absent false
  else if checks.truncatedRequired then .ended [] true
  else if ∃ f ∈ paired.facts, f.deprecated = true then .ended [⟨.review,"model_deprecated"⟩] false
  else match paired.routes,paired.pricing with
  | [],_ => .ended [⟨.blocker,"missing_route"⟩] true
  | _::_,[] => .ended [⟨.blocker,"missing_pricing"⟩] true
  | route::more,p::rest =>
    let upstream := route.upstreamModel
    if more.any fun r => r.upstreamModel ≠ upstream then .ended [⟨.blocker,"route_upstream_contradiction"⟩] true
    else if rest ≠ [] then .ended [⟨.blocker,"pricing_currency_contradiction"⟩] true
    else
      let findings := evidenceFindings ctx provider model upstream p
      if checks.evidenceBlocked || findings.any fun f => f.severity = .blocker then
        { ModelReview.ended findings true with upstream := some upstream }
      else reviewPrice ctx baseline now provider model upstream paired.routes p findings

def reviews : List ModelReview := (selected b baseline).map (reviewModel ctx b baseline now)

structure Draft where
  operations : List Operation
  supersessionRowIds : List Uuid

def Draft.add (d : Draft) (r : ModelReview) : Draft :=
  let operations := d.operations ++ r.newRoutes.map createRouteOp
  match r.action with
  | .none => ⟨operations,d.supersessionRowIds⟩
  | .create upstream p => ⟨operations ++ [createPricingOp p upstream],d.supersessionRowIds⟩
  | .supersede old p =>
    if old.id ∈ d.supersessionRowIds then ⟨operations,d.supersessionRowIds⟩
    else ⟨operations ++ [supersedePricingOp old p],d.supersessionRowIds ++ [old.id]⟩

def draft (reviews : List ModelReview) : Draft := reviews.foldl Draft.add ⟨[],[]⟩

def newProviders (reviews : List ModelReview) : List String :=
  let named := reviews.flatMap fun r => r.newRoutes.map RouteFacts.provider ++
    r.artifact.toList.map ModelPricingFacts.provider
  let known := ((baseline.map CatalogRows.providers).getD []).map ProviderConfig.provider
  (named.dedup.filter fun p => p ∉ known).insertionSort fun x y => x ≤ y

/-- The identity columns of `pricing-proposal.tsv`; the import gate refuses a repeated one. -/
def pricingTsvKeys (names : List ModelName) (reviews : List ModelReview) : List (String × String × Time) :=
  let upstreams := (names.zip reviews).filterMap fun (name,r) => r.upstream.map fun u => (name,u)
  reviews.filterMap fun r => r.artifact.map fun p =>
    (strip p.provider,strip ((upstreams.lookup (p.provider,p.model)).getD p.model),p.validFrom)

def pricingGate (names : List ModelName) (reviews : List ModelReview) : List Finding :=
  let rows := pricingTsvKeys names reviews
  let leaked := rows.any fun row => baselinePricingFor baseline row.1 row.2.1 ≠ []
  let mutations := reviews.any fun r => r.priceMutation
  let operations := reviews.any fun r => r.action ≠ .none
  if ctx.pricingRowsValid = false ∨ ¬rows.Nodup ∨ leaked = true ∨ mutations = true ∧ operations = false then
    [⟨.blocker,"gate:pricing"⟩]
  else []

/-- The rows of `routes-proposal.tsv` must all classify as creates. -/
def routeGate (reviews : List ModelReview) : List Finding :=
  let rows := reviews.flatMap ModelReview.newRoutes
  let leaked := rows.any fun r =>
    (baselineRouteFor baseline (strip r.provider) (strip r.requestedModel) r.matchType).isSome
  if ctx.routeRowsValid = false ∨ ¬(rows.map fun r => (strip r.requestedModel,r.matchType)).Nodup ∨ leaked = true ∨
      reviews.any ModelReview.routeMutation = true then
    [⟨.blocker,"gate:routes"⟩]
  else []

def completenessGate (reviews : List ModelReview) : List Finding :=
  if reviews.any ModelReview.blocked then [⟨.blocker,"gate:completeness"⟩] else []
end Review

section Fx
variable (ctx : Context) (b : RefreshBundle) (baseline : Option CatalogRows) (now : Time)

def reciprocal (rate : ℚ) : ℚ := Decimal.atScale 9 (Decimal.roundTo 28 (1 / rate))

def fxConsistencyTolerance : ℚ := 1 / 100000000

def baselineFxFor (base quote : String) : List FxRate :=
  (baseline.map CatalogRows.fx).getD [] |>.filter fun r => r.pair.texts = (base,quote)

/-- The rate a bundle gives for a currency to EUR, directly or as the reciprocal of the opposite pair. -/
def effectiveFx (currency : String) : Except Finding (FxFacts × ℚ) :=
  let bound := b.fx.filter ctx.fxBound
  let pick (base quote : String) := selectActive (FxFacts.activeAt now) FxFacts.validFrom FxFacts.rate
    (bound.filter fun f => f.baseCurrency = base ∧ f.quoteCurrency = quote)
  let (direct,directAmbiguous) := pick currency "EUR"
  let (opposite,oppositeAmbiguous) := pick "EUR" currency
  if directAmbiguous || oppositeAmbiguous then .error ⟨.blocker,"fx_ambiguous_" ++ currency⟩
  else match direct,opposite with
  | none,none => .error ⟨.blocker,"fx_missing_required_pair"⟩
  | some d,some o =>
    if |d.rate - reciprocal o.rate| ≤ fxConsistencyTolerance then .ok (d,d.rate)
    else .error ⟨.blocker,"fx_contradictory_rates"⟩
  | some d,none => .ok (d,d.rate)
  | none,some o =>
    if reciprocal o.rate ≤ 0 then .error ⟨.blocker,"fx_invalid_reciprocal"⟩ else .ok (o,reciprocal o.rate)

def createFxOp (currency : String) (rate : ℚ) (source : Option String) : Operation :=
  .createFx currency "EUR" ⟨rate,source⟩

def supersedeFxOp (old : FxRate) (rate : ℚ) (source : Option String) : Operation :=
  .supersedeFx old.pair.baseCurrency old.pair.quoteCurrency ⟨old.id,old.rate,old.validFrom,old.validUntil,old.source⟩
    ⟨rate,source⟩

structure FxReview where
  findings : List Finding
  operation : Option Operation
  deriving DecidableEq, Repr

def reviewFx (currency : String) : FxReview :=
  match effectiveFx ctx b now currency with
  | .error f => ⟨[f],none⟩
  | .ok (fact,rate) =>
    let rows := baselineFxFor baseline currency "EUR"
    let (direct,directAmbiguous) := selectActiveFx rows now
    let (inverse,inverseAmbiguous) := selectActiveFx (baselineFxFor baseline "EUR" currency) now
    let notes : List Finding :=
      (if direct = none ∧ inverse ≠ none then [⟨.review,"fx_baseline_inverse_only"⟩] else []) ++
      (if directAmbiguous || inverseAmbiguous then [⟨.blocker,"fx_baseline_ambiguous"⟩] else [])
    if ctx.fxRowValid currency = false then ⟨notes ++ [⟨.blocker,"fx_row_invalid"⟩],none⟩
    else match direct with
    | some old =>
      let moved : List Finding :=
        if ctx.policy.fxChangeReview * old.rate < |rate - old.rate| then [⟨.review,"fx_moved_review"⟩] else []
      if rate = old.rate then ⟨notes ++ moved,none⟩
      else if countActiveFx rows now ≠ 1 then ⟨notes ++ moved ++ [⟨.blocker,"fx_duplicate_active_rows"⟩],none⟩
      else ⟨notes ++ moved,some (supersedeFxOp old rate fact.source)⟩
    | none =>
      if directAmbiguous || inverseAmbiguous then ⟨notes,none⟩
      else ⟨notes,some (createFxOp currency rate fact.source)⟩

def requiredCurrencies : List String :=
  (((b.pricing.filter fun p => (p.provider,p.model) ∈ selected b baseline).map ModelPricingFacts.currency).dedup.filter
    fun c => c ≠ "EUR").insertionSort fun x y => x ≤ y

def fxReviews : List FxReview := (requiredCurrencies b baseline).map (reviewFx ctx b baseline now)
end Fx

/-- `op_sort_key`. -/
def Operation.sortKey : Operation → ℕ × String × String × String
  | .createProvider op => (0,op.provider,"","")
  | .createRoute op => (1,op.provider,op.requestedModel,op.matchType)
  | .createPricing provider model endpoint _ => (2,provider,model,endpoint)
  | .supersedePricing provider model endpoint _ _ => (3,provider,model,endpoint)
  | .createFx base quote _ => (4,base,quote,"")
  | .supersedeFx base quote _ _ => (5,base,quote,"")
  | .other _ => (6,"","","")

def Operation.before (x y : Operation) : Bool :=
  let (i,a,b,c) := x.sortKey
  let (j,d,e,f) := y.sortKey
  toLex (i,toLex (a,toLex (b,c))) ≤ toLex (j,toLex (d,toLex (e,f)))

structure ValidationReport where
  state : ReviewState
  findings : List Finding
  comparisons : List PriceComparison
  operations : List Operation

section Validate
variable (ctx : Context) (b : RefreshBundle) (baseline : Option CatalogRows) (now : Time)

def planOperations : List Operation :=
  let all := reviews ctx b baseline now
  ((draft all).operations ++ (newProviders baseline all).map createProviderOp ++
    (fxReviews ctx b baseline now).filterMap FxReview.operation).insertionSort fun x y => x.before y

def reportFindings : List Finding :=
  let all := reviews ctx b baseline now
  ctx.findings ++ all.flatMap ModelReview.findings ++ (fxReviews ctx b baseline now).flatMap FxReview.findings ++
    completenessGate all ++ routeGate ctx baseline all ++ pricingGate ctx baseline (selected b baseline) all

def overallState (findings : List Finding) : ReviewState :=
  if findings.any fun f => f.severity = .blocker then .blocked
  else if findings.any fun f => f.severity = .review then .readyWithWarnings
  else .ready

def validateBundle : ValidationReport :=
  let findings := reportFindings ctx b baseline now
  { state := overallState findings, findings,
    comparisons := (reviews ctx b baseline now).flatMap ModelReview.comparisons,
    operations := planOperations ctx b baseline now }
end Validate
end SlaifGateway.Catalog
