import SlaifGateway.Library.Table
import SlaifGateway.Library.Timeline
import SlaifGateway.Library.Json
import SlaifGateway.Store.Schema
import Mathlib.Data.List.DropRight
import Mathlib.Data.Prod.Lex

/-! The catalog tables: provider configs, routes, pricing rules, FX rates and the
records of applied refresh runs, with the two runtime lookups. A table holds pricing keys
and FX pairs in the normal form its writers give them; prices and rates are exact (the
refresh contract admits nine fractional digits, the columns' scale). -/
namespace SlaifGateway.Catalog
open Store (Uuid Time strip isSpace)
open Library (Schema Table Dated Json)

theorem stripStrip (s : String) : strip (strip s) = strip s := by
  have trimmed : ∀ l : List Char, (l.rdropWhile isSpace).dropWhile isSpace = l.rdropWhile isSpace ∨
      l.dropWhile isSpace ≠ l := by
    intro l
    by_cases same : l.dropWhile isSpace = l
    · refine Or.inl (List.dropWhile_eq_self_iff.mpr fun long => ?_)
      have front := List.rdropWhile_prefix isSpace l
      have whole : 0 < l.length := lt_of_lt_of_le long front.length_le
      have head := front.getElem long
      rw [head]
      exact List.dropWhile_eq_self_iff.mp same whole
    · exact Or.inr same
  have inner := (trimmed (s.toList.dropWhile isSpace)).resolve_right
    fun bad => bad (List.dropWhile_idempotent isSpace _)
  have again := List.rdropWhile_idempotent isSpace (s.toList.dropWhile isSpace)
  unfold List.rdropWhile at inner again
  simp only [strip,String.toList_ofList]
  rw [inner,again]

def requiredText (value : String) : Option String := if strip value = "" then none else some (strip value)

theorem requiredTextNormal {value text : String} (h : requiredText value = some text) :
    requiredText text = some text := by
  unfold requiredText at h
  split at h
  · contradiction
  · cases h
    simpa [requiredText,stripStrip] using ‹¬strip value = ""›

def endpointNames : List (String × String) :=
  [("chat.completions","/v1/chat/completions"),("audio.speech","/v1/audio/speech"),
   ("audio.transcriptions","/v1/audio/transcriptions"),("audio.translations","/v1/audio/translations"),
   ("embeddings","/v1/embeddings"),("realtime.client_secrets","/v1/realtime/client_secrets"),
   ("responses","/v1/responses")]

def normalizeEndpoint (value : String) : Option String :=
  (requiredText value).map fun endpoint => (endpointNames.lookup endpoint).getD endpoint

theorem endpointPathsNormal : ∀ entry ∈ endpointNames, normalizeEndpoint entry.2 = some entry.2 := by
  decide +kernel

theorem normalizeEndpointNormal {value endpoint : String} (h : normalizeEndpoint value = some endpoint) :
    normalizeEndpoint endpoint = some endpoint := by
  obtain ⟨text,found,rfl⟩ := Option.map_eq_some_iff.mp h
  cases listed : endpointNames.lookup text with
  | none => simp [normalizeEndpoint,requiredTextNormal found,listed]
  | some path =>
    obtain ⟨entry,mem,_,rfl⟩ : ∃ entry ∈ endpointNames, entry.1 = text ∧ entry.2 = path := by
      have pair := List.lookup_eq_some_iff.mp listed
      obtain ⟨front,back,shape,_⟩ := pair
      exact ⟨(text,path),by rw [shape]; simp,rfl,rfl⟩
    exact endpointPathsNormal entry mem

/-- `value.strip().upper()`, three letters. -/
def normalizeCurrency (value : String) : Option String :=
  let text := (strip value).toList.map Char.toUpper
  if text.length = 3 ∧ text.all Char.isAlpha then some (String.ofList text) else none

structure PricingKey where
  provider : String
  upstreamModel : String
  endpoint : String
  deriving DecidableEq, Repr

def PricingKey.texts (k : PricingKey) : String × String × String := (k.provider,k.upstreamModel,k.endpoint)

def PricingKey.of (provider upstreamModel endpoint : String) : Option PricingKey := do
  let provider ← requiredText provider
  let upstreamModel ← requiredText upstreamModel
  let endpoint ← normalizeEndpoint endpoint
  pure ⟨provider,upstreamModel,endpoint⟩

def PricingKey.Normal (k : PricingKey) : Prop := PricingKey.of k.provider k.upstreamModel k.endpoint = some k

instance (k : PricingKey) : Decidable k.Normal := by unfold PricingKey.Normal; infer_instance

theorem PricingKey.ofNormal {provider upstreamModel endpoint : String} {k : PricingKey}
    (h : PricingKey.of provider upstreamModel endpoint = some k) : k.Normal := by
  simp only [PricingKey.of,bind,Option.bind_eq_some_iff,pure,Option.some.injEq] at h
  obtain ⟨p,hp,m,hm,e,he,rfl⟩ := h
  simp [PricingKey.Normal,PricingKey.of,requiredTextNormal hp,requiredTextNormal hm,normalizeEndpointNormal he]

structure FxPair where
  baseCurrency : String
  quoteCurrency : String
  deriving DecidableEq, Repr

def FxPair.texts (p : FxPair) : String × String := (p.baseCurrency,p.quoteCurrency)

theorem asciiUpper : ∀ n < 128, (Char.ofNat n).toUpper.isAlpha → (Char.ofNat n).toUpper.isUpper := by
  decide +kernel

theorem asciiFixed : ∀ n < 128, (Char.ofNat n).isUpper →
    (Char.ofNat n).toUpper = Char.ofNat n ∧ isSpace (Char.ofNat n) = false := by
  decide +kernel

theorem alphaCases {c : Char} : c.isAlpha = (c.isUpper || c.isLower) := rfl

theorem upperRange {c : Char} : c.isUpper = decide (c.val ≥ 'A'.val ∧ c.val ≤ 'Z'.val) := rfl

theorem lowerRange {c : Char} : c.isLower = (decide (c.val ≥ 'a'.val) && decide (c.val ≤ 'z'.val)) := rfl

theorem letterSmall {c : Char} (letter : c.isAlpha) : c.toNat < 128 := by
  rw [alphaCases,upperRange,lowerRange] at letter
  simp only [Bool.or_eq_true,decide_eq_true_eq,Bool.and_eq_true,ge_iff_le,UInt32.le_iff_toNat_le] at letter
  have value : c.toNat = c.val.toNat := rfl
  have upper : 'Z'.val.toNat = 90 := rfl
  have lower : 'z'.val.toNat = 122 := rfl
  omega

theorem upperOfLetter {c : Char} (letter : c.toUpper.isAlpha) : c.toUpper.isUpper := by
  by_cases lower : c.isLower
  · have known := asciiUpper c.toNat (letterSmall (by simp [alphaCases,lower]))
    rw [Char.ofNat_toNat] at known
    exact known letter
  · have fixed : c.toUpper = c := by
      unfold Char.toUpper
      rw [dif_neg]
      simpa [lowerRange] using lower
    rw [fixed] at letter ⊢
    simpa [alphaCases,lower] using letter

theorem upperFixed {c : Char} (upper : c.isUpper) : c.toUpper = c ∧ isSpace c = false := by
  have known := asciiFixed c.toNat (letterSmall (by simp [alphaCases,upper]))
  rw [Char.ofNat_toNat] at known
  exact known upper

theorem normalizeCurrencyNormal {value text : String} (h : normalizeCurrency value = some text) :
    normalizeCurrency text = some text := by
  simp only [normalizeCurrency,Option.ite_none_right_eq_some,Option.some.injEq] at h
  obtain ⟨⟨long,letters⟩,rfl⟩ := h
  generalize made : (strip value).toList.map Char.toUpper = chars at long letters
  have upper : ∀ c ∈ chars, c.isUpper := by
    intro c mem
    have letter := List.all_eq_true.mp letters c mem
    rw [← made] at mem
    obtain ⟨raw,_,rfl⟩ := List.mem_map.mp mem
    exact upperOfLetter letter
  have fixed : chars.map Char.toUpper = chars := by
    conv_rhs => rw [← List.map_id chars]
    exact List.map_congr_left fun c mem => (upperFixed (upper c mem)).1
  have dense : ∀ l : List Char, (∀ c ∈ l, c.isUpper) → l.dropWhile isSpace = l := by
    intro l all
    cases l with
    | nil => rfl
    | cons c rest => simp [(upperFixed (all c List.mem_cons_self)).2]
  have stripped : strip (String.ofList chars) = String.ofList chars := by
    simp only [strip,String.toList_ofList]
    rw [dense chars upper,dense chars.reverse fun c mem => upper c (List.mem_reverse.mp mem),List.reverse_reverse]
  simp [normalizeCurrency,stripped,fixed,long,letters]

def FxPair.of (baseCurrency quoteCurrency : String) : Option FxPair := do
  let base ← normalizeCurrency baseCurrency
  let quote ← normalizeCurrency quoteCurrency
  pure ⟨base,quote⟩

def FxPair.Normal (p : FxPair) : Prop := FxPair.of p.baseCurrency p.quoteCurrency = some p

instance (p : FxPair) : Decidable p.Normal := by unfold FxPair.Normal; infer_instance

theorem FxPair.ofNormal {baseCurrency quoteCurrency : String} {p : FxPair}
    (h : FxPair.of baseCurrency quoteCurrency = some p) : p.Normal := by
  simp only [FxPair.of,bind,Option.bind_eq_some_iff,pure,Option.some.injEq] at h
  obtain ⟨b,hb,q,hq,rfl⟩ := h
  simp [FxPair.Normal,FxPair.of,normalizeCurrencyNormal hb,normalizeCurrencyNormal hq]

inductive CacheWrite where
  | pricePer1m (price : ℚ)
  | multiplier (factor : ℚ)
  deriving DecidableEq, Repr

structure CodexAccounting where
  cacheWrite : CacheWrite
  longContextThresholdTokens : ℕ
  longContextInputMultiplier : ℚ
  longContextOutputMultiplier : ℚ
  deriving DecidableEq, Repr

/-- The monetary keys of `pricing_metadata`, and whether it holds anything else. -/
structure PricingMetadata where
  audioOutputPricePer1m : Option ℚ
  codexAccounting : Option CodexAccounting
  externalToolPricePerCall : Option ℚ
  unrepresented : Bool
  deriving DecidableEq, Repr

def PricingMetadata.empty : PricingMetadata := ⟨none,none,none,false⟩

structure Dimensions where
  input : Option ℚ
  cachedInput : Option ℚ
  output : Option ℚ
  reasoning : Option ℚ
  request : Option ℚ
  deriving DecidableEq, Repr

structure PricingRule where
  id : Uuid
  key : PricingKey
  currency : String
  price : Dimensions
  pricingMetadata : PricingMetadata
  validFrom : Time
  validUntil : Option Time
  enabled : Bool
  sourceUrl : Option String
  createdAt : Time
  deriving DecidableEq, Repr

structure FxRate where
  id : Uuid
  pair : FxPair
  rate : ℚ
  validFrom : Time
  validUntil : Option Time
  source : Option String
  createdAt : Time
  deriving DecidableEq, Repr

structure ProviderConfig where
  id : Uuid
  provider : String
  displayName : String
  kind : String
  baseUrl : String
  apiKeyEnvVar : String
  enabled : Bool
  timeoutSeconds : ℤ
  maxRetries : ℤ
  deriving DecidableEq, Repr

structure ModelRoute where
  id : Uuid
  requestedModel : String
  matchType : String
  endpoint : String
  provider : String
  upstreamModel : String
  priority : ℤ
  enabled : Bool
  visibleInModels : Bool
  supportsStreaming : Bool
  capabilities : List (String × Bool)
  deriving DecidableEq, Repr

inductive ApplyMode where | bootstrap | refresh
  deriving DecidableEq, Repr

structure Counts where
  createdProviders : ℕ
  createdRoutes : ℕ
  createdPricing : ℕ
  createdFx : ℕ
  supersededPricing : ℕ
  supersededFx : ℕ
  deriving DecidableEq, Repr

structure AppliedIds where
  providers : List Uuid
  routes : List Uuid
  pricingCreated : List Uuid
  pricingSupersededOld : List Uuid
  pricingSupersededNew : List Uuid
  fxCreated : List Uuid
  fxSupersededOld : List Uuid
  fxSupersededNew : List Uuid
  deriving DecidableEq, Repr

structure CatalogRefreshApplication where
  id : Uuid
  runId : String
  bundleSha256 : String
  receiptHmacSha256 : String
  planSha256 : String
  mode : ApplyMode
  operatorActor : String
  dbActor : String
  adminUserId : Option Uuid
  reason : String
  effectiveAt : Time
  applied : AppliedIds
  counts : Counts
  createdAt : Time
  deriving DecidableEq, Repr

def Dimensions.all (d : Dimensions) : List (Option ℚ) := [d.input,d.cachedInput,d.output,d.reasoning,d.request]

/-- The check constraints, and the key as every writer of the table leaves it. -/
def PricingRule.Valid (r : PricingRule) : Prop := r.key.Normal ∧ ∀ price ∈ r.price.all, ∀ p ∈ price, 0 ≤ p

instance : DecidablePred PricingRule.Valid := fun r => by unfold PricingRule.Valid; infer_instance

def providerSchema : Schema ProviderConfig Uuid String := ⟨ProviderConfig.id,ProviderConfig.provider,fun _ => True⟩

def routeSchema : Schema ModelRoute Uuid Uuid := ⟨ModelRoute.id,ModelRoute.id,fun _ => True⟩

/-- `uq_pricing_rules_identity`. -/
def pricingSchema : Schema PricingRule Uuid ((String × String × String) × Time) :=
  ⟨PricingRule.id,fun r => (r.key.texts,r.validFrom),PricingRule.Valid⟩

/-- `uq_fx_rates_pair_valid_from` and `fx_rates_rate_positive`. -/
def fxSchema : Schema FxRate Uuid ((String × String) × Time) :=
  ⟨FxRate.id,fun r => (r.pair.texts,r.validFrom),fun r => r.pair.Normal ∧ 0 < r.rate⟩

/-- `uq_catalog_refresh_application_identity`. -/
def applicationSchema : Schema CatalogRefreshApplication Uuid (String × String) :=
  ⟨CatalogRefreshApplication.id,fun a => (a.bundleSha256,a.planSha256),fun _ => True⟩

structure CatalogDb where
  providerConfigs : Table providerSchema
  modelRoutes : Table routeSchema
  pricingRules : Table pricingSchema
  fxRates : Table fxSchema
  applications : Table applicationSchema
  adminUsers : List Uuid

def PricingRule.closeAt (r : PricingRule) (t : Time) : PricingRule := { r with validUntil := some t }

def FxRate.closeAt (r : FxRate) (t : Time) : FxRate := { r with validUntil := some t }

/-- `ORDER BY valid_from DESC`. -/
def pricingDated : Dated PricingRule (String × String × String) Time Time where
  key r := r.key.texts
  start := PricingRule.validFrom
  stop := PricingRule.validUntil
  live := PricingRule.enabled
  rank := PricingRule.validFrom
  close := PricingRule.closeAt
  later h := h
  keyClose _ _ := rfl
  startClose _ _ := rfl
  stopClose _ _ := rfl
  liveClose _ _ := rfl

/-- `ORDER BY valid_from DESC, created_at DESC`. -/
def fxDated : Dated FxRate (String × String) Time (Time ×ₗ Time) where
  key r := r.pair.texts
  start := FxRate.validFrom
  stop := FxRate.validUntil
  live _ := true
  rank r := toLex (r.validFrom,r.createdAt)
  close := FxRate.closeAt
  later h := Prod.Lex.toLex_lt_toLex.mpr (Or.inl h)
  keyClose _ _ := rfl
  startClose _ _ := rfl
  stopClose _ _ := rfl
  liveClose _ _ := rfl

theorem pricingSeparate (t : Table pricingSchema) : pricingDated.Separate t.rows := by
  intro a left b right key start
  exact Table.eqOfUnique (t := t) left right (Prod.ext key start)

theorem fxSeparate (t : Table fxSchema) : fxDated.Separate t.rows := by
  intro a left b right key start
  exact Table.eqOfUnique (t := t) left right (Prod.ext key start)

def findActivePricingRule (t : Table pricingSchema) (provider upstreamModel endpoint : String) (atTime : Time) :
    Option PricingRule :=
  pricingDated.inForce t.rows (provider,upstreamModel,endpoint) atTime

def findLatestRate (t : Table fxSchema) (baseCurrency quoteCurrency : String) (atTime : Time) : Option FxRate :=
  fxDated.inForce t.rows (baseCurrency,quoteCurrency) atTime
end SlaifGateway.Catalog
