import SlaifGateway.Billing.Sanitization
import SlaifGateway.Library.DecimalLaws
import SlaifGateway.Store.Errors
import SlaifGateway.Store.Schema

/-! From a provider's usage object to the actual cost: the usage parser, the extraction of validated
counts, and the component costs of the ordinary and the Codex accounting, in the 28-digit decimal
context. -/
namespace SlaifGateway.Billing
open Library Store

abbrev Charged := Except ServiceError

section Usage

inductive UsageKey where
  | plain (key : String)
  | nested (parent key : String)

def nestedValue (payload : Fields) (parent key : String) : Document :=
  match payload.get (text parent) with
  | .obj nested => Fields.get nested (text key)
  | _ => .null

def keyValue (payload : Fields) : UsageKey → Document
  | .plain key => payload.get (text key)
  | .nested parent key => nestedValue payload parent key

def firstPresent (payload : Fields) : List UsageKey → Document
  | [] => .null
  | key :: rest => if (keyValue payload key).isNull then firstPresent payload rest else keyValue payload key

def optionalInt : Document → Option Int
  | .int n => some n
  | _ => none

structure ProviderUsage where
  promptTokens : Option Int := none
  completionTokens : Option Int := none
  totalTokens : Option Int := none
  cachedTokens : Option Int := none
  cacheWriteTokens : Option Int := none
  reasoningTokens : Option Int := none
  otherUsage : Fields := []

def parseUsage (payload : Fields) : Option ProviderUsage :=
  match payload.get (text "usage") with
  | .obj usage => some {
      promptTokens := optionalInt (firstPresent usage [.plain "prompt_tokens",.plain "input_tokens"])
      completionTokens := optionalInt (firstPresent usage [.plain "completion_tokens",.plain "output_tokens"])
      totalTokens := optionalInt (Fields.get usage (text "total_tokens"))
      cachedTokens := optionalInt (firstPresent usage [.plain "cached_tokens",
        .nested "prompt_tokens_details" "cached_tokens",.nested "input_tokens_details" "cached_tokens"])
      cacheWriteTokens := optionalInt (firstPresent usage [.plain "cache_write_tokens",
        .nested "prompt_tokens_details" "cache_write_tokens",.nested "input_tokens_details" "cache_write_tokens"])
      reasoningTokens := optionalInt (firstPresent usage [.plain "reasoning_tokens",
        .nested "completion_tokens_details" "reasoning_tokens",.nested "output_tokens_details" "reasoning_tokens"])
      otherUsage := usage }
  | _ => none

structure ProviderResponse where
  provider : String
  usage : Option ProviderUsage := none
  rawCostNative : Option ℚ := none
  nativeCurrency : Option String := none

structure ActualUsage where
  promptTokens : Int
  completionTokens : Int
  totalTokens : Int
  cachedTokens : Option Int
  cacheWriteTokens : Option Int
  reasoningTokens : Option Int
  otherUsage : Fields

def optionalTokenCount (value : Option Int) (fieldName : String) : Charged (Option Int) :=
  match value with
  | none => .ok none
  | some n =>
    if n < 0 then .error (ErrorKind.invalidUsage.naming "Provider usage token counts must be non-negative" fieldName)
    else .ok (some n)

def totalOf (prompt completion total : Option Int) : Charged Int :=
  match total with
  | some n => .ok n
  | none =>
    match prompt,completion with
    | some p,some c => .ok (p + c)
    | _,_ => .error (ErrorKind.usageMissing.saying "Provider response did not include enough usage metadata")

def require (condition : Prop) [Decidable condition] (e : ServiceError) : Charged Unit :=
  if condition then .ok () else .error e

def extractUsage (r : Redaction) (response : ProviderResponse) : Charged ActualUsage :=
  match response.usage with
  | none => .error ErrorKind.usageMissing.error
  | some usage => do
    let prompt ← optionalTokenCount usage.promptTokens "prompt_tokens"
    let completion ← optionalTokenCount usage.completionTokens "completion_tokens"
    let total ← optionalTokenCount usage.totalTokens "total_tokens"
    let cached ← optionalTokenCount usage.cachedTokens "cached_tokens"
    let cacheWrite ← optionalTokenCount usage.cacheWriteTokens "cache_write_tokens"
    let reasoning ← optionalTokenCount usage.reasoningTokens "reasoning_tokens"
    let total ← totalOf prompt completion total
    require (prompt.getD 0 + completion.getD 0 ≤ total)
      (ErrorKind.invalidUsage.naming "Provider usage token components exceed total tokens" "total_tokens")
    .ok ⟨prompt.getD 0,completion.getD 0,total,cached,cacheWrite,reasoning,sanitizeMapping r true usage.otherUsage⟩

end Usage

section Prices

def decimal (x : ℚ) : ℚ := Decimal.roundTo 28 x

structure ChatCostEstimate where
  nativeCurrency : String
  estimatedInputTokens : Int
  estimatedOutputTokens : Int
  estimatedInputCostNative : ℚ
  estimatedOutputCostNative : ℚ
  estimatedTotalCostNative : ℚ
  estimatedTotalCostEur : ℚ
  inputPricePer1m : Option ℚ := none
  cachedInputPricePer1m : Option ℚ := none
  outputPricePer1m : Option ℚ := none
  reasoningPricePer1m : Option ℚ := none
  audioOutputPricePer1m : Option ℚ := none
  requestPrice : Option ℚ := none
  cacheWriteInputPricePer1m : Option ℚ := none
  longContextThresholdTokens : Option Int := none
  longContextInputMultiplier : Option ℚ := none
  longContextOutputMultiplier : Option ℚ := none
  codexAccounting : Bool := false

def unsupported (message param : String) : ServiceError := ErrorKind.unsupportedProviderCost.naming message param

def validatePrice (value : ℚ) (param : String) : Charged Unit :=
  require (0 ≤ value) (unsupported "Pricing component must be non-negative" param)

def pricePer1m (value : Option ℚ) (fallbackCost : ℚ) (fallbackTokens : Int) (param : String) : Charged ℚ :=
  match value with
  | some price => do
    validatePrice price param
    .ok price
  | none => do
    require (0 ≤ fallbackCost) (unsupported "Estimated cost must be non-negative" param)
    if fallbackTokens ≤ 0 then
      if fallbackCost = 0 then .ok 0 else .error (unsupported "Estimated token count must be positive" param)
    else .ok (decimal (decimal (fallbackCost * 1000000) / fallbackTokens))

def tokensToCost (tokens : Int) (price : ℚ) : ℚ := decimal (decimal (tokens / 1000000) * price)

def audioCount (value : Document) : Option Int :=
  match value with
  | .int n => if 0 ≤ n then some n else none
  | _ => none

-- The first readable count; a truth value or a negative number is passed over.
def audioOutputTokens (otherUsage : Fields) : Option Int :=
  (audioCount (nestedValue otherUsage "completion_tokens_details" "audio_tokens")).or
    ((audioCount (nestedValue otherUsage "output_tokens_details" "audio_tokens")).or
      (audioCount (otherUsage.get (text "audio_tokens"))))

structure Components where
  costs : List (String × ℚ)
  tokens : List (String × Int)
  warnings : List String

def warnIf (condition : Prop) [Decidable condition] (warning : String) : List String :=
  if condition then [warning] else []

def ordinaryComponents (usage : ActualUsage) (estimate : ChatCostEstimate) (allowUnpricedAudioOutput : Bool) :
    Charged Components := do
  let inputPrice ← pricePer1m estimate.inputPricePer1m estimate.estimatedInputCostNative estimate.estimatedInputTokens
    "input_price_per_1m"
  require (¬(estimate.inputPricePer1m = none ∧ estimate.estimatedInputTokens ≤ 0 ∧ 0 < usage.promptTokens))
    (unsupported "Actual input cost cannot be computed from a zero-token estimate" "prompt_tokens")
  let outputPrice ← pricePer1m estimate.outputPricePer1m estimate.estimatedOutputCostNative
    estimate.estimatedOutputTokens "output_price_per_1m"
  require (¬(estimate.outputPricePer1m = none ∧ estimate.estimatedOutputTokens ≤ 0 ∧ 0 < usage.completionTokens))
    (unsupported "Actual output cost cannot be computed from a zero-token estimate" "completion_tokens")
  let cached := min (usage.cachedTokens.getD 0) usage.promptTokens
  let uncached := usage.promptTokens - cached
  let cachedPrice := estimate.cachedInputPricePer1m.getD inputPrice
  validatePrice cachedPrice "cached_input_price_per_1m"
  let audio := min ((audioOutputTokens usage.otherUsage).getD 0) usage.completionTokens
  let reasoning := min (usage.reasoningTokens.getD 0) (usage.completionTokens - audio)
  let nonReasoning := usage.completionTokens - reasoning - audio
  let reasoningPrice := estimate.reasoningPricePer1m.getD outputPrice
  validatePrice reasoningPrice "reasoning_price_per_1m"
  require (¬(audio ≠ 0 ∧ estimate.audioOutputPricePer1m = none ∧ allowUnpricedAudioOutput = false))
    (unsupported "Actual audio output cost cannot be computed without configured audio pricing" "audio")
  let audioPrice := estimate.audioOutputPricePer1m.getD outputPrice
  validatePrice audioPrice "audio_output_price_per_1m"
  .ok
    { costs := [("input_uncached",tokensToCost uncached inputPrice),("input_cached",tokensToCost cached cachedPrice),
        ("output_non_reasoning",tokensToCost nonReasoning outputPrice),
        ("output_reasoning",tokensToCost reasoning reasoningPrice),("output_audio",tokensToCost audio audioPrice)]
      tokens := [("input_uncached_tokens",uncached),("input_cached_tokens",cached),
        ("output_non_reasoning_tokens",nonReasoning),("output_reasoning_tokens",reasoning),
        ("output_audio_tokens",audio),("total_tokens",usage.totalTokens)]
      warnings := warnIf (cached ≠ 0 ∧ estimate.cachedInputPricePer1m = none) "cached_input_price_fallback_to_input" ++
        warnIf (reasoning ≠ 0 ∧ estimate.reasoningPricePer1m = none) "reasoning_price_fallback_to_output" ++
        warnIf (usage.promptTokens < usage.cachedTokens.getD 0) "cached_tokens_exceed_prompt_tokens_capped" ++
        warnIf (usage.completionTokens < usage.reasoningTokens.getD 0)
          "reasoning_tokens_exceed_completion_tokens_capped" ++
        warnIf (usage.completionTokens < (audioOutputTokens usage.otherUsage).getD 0)
          "audio_output_tokens_exceed_completion_tokens_capped" ++
        warnIf (usage.promptTokens + usage.completionTokens < usage.totalTokens)
          "total_tokens_include_unpriced_provider_components" ++
        warnIf (audio ≠ 0 ∧ estimate.audioOutputPricePer1m = none)
          "audio_output_price_fallback_to_output_for_provider_cost_comparison" }

end Prices

section Codex

def numeric : Document → Option ℚ
  | .bool b => some (if b then 1 else 0)
  | .int n => some n
  | .float value _ => value
  | _ => none

def required (value : Option ℚ) (field : String) : Charged ℚ :=
  match value with
  | none => .error (unsupported "Complete Codex accounting prices are required." field)
  | some price => do
    validatePrice price field
    .ok price

-- A detail object that may only hold the given dimensions.
def detailShape (usage : ActualUsage) (field : String) (dimensions : List String) (malformed unknown : String) :
    Charged (List Fields) :=
  match usage.otherUsage.get (text field) with
  | .null => .ok []
  | .obj raw => do
    require (Fields.keysWithin raw dimensions = true) (unsupported unknown field)
    .ok [raw]
  | _ => .error (unsupported malformed field)

def rawUsageCount (raw : Fields) (field : String) (typedValue : Option Int) : Charged Unit :=
  match raw.get? (text field) with
  | none => require (typedValue = none) (unsupported "Codex typed usage contradicts provider detail metadata." field)
  | some (.int n) =>
    require (0 ≤ n ∧ typedValue = some n) (unsupported "Codex token detail metadata is invalid." field)
  | some _ => .error (unsupported "Codex token detail metadata is invalid." field)

mutual
-- Equality of decoded values: truth values and numbers compare by value, objects by their keys.
def sameValue : Document → Document → Bool
  | .null,.null => true
  | .str a,.str b => a = b
  | .arr a,.arr b => sameItems a b
  | .obj a,.obj b => a.length = b.length && sameFields a b
  | a,b =>
    match numeric a,numeric b with
    | some x,some y => x = y
    | _,_ => false

def sameItems : List Document → List Document → Bool
  | [],[] => true
  | a :: as,b :: bs => sameValue a b && sameItems as bs
  | _,_ => false

def sameFields : List (Text × Document) → List (Text × Document) → Bool
  | [],_ => true
  | (key,a) :: rest,fields =>
    (match Fields.get? fields key with
      | some b => sameValue a b
      | none => false) && sameFields rest fields
end

def consistent (shapes : List Fields) (message param : String) : Charged Unit :=
  match shapes with
  | [a,b] => require (sameValue (.obj a) (.obj b) = true) (unsupported message param)
  | _ => .ok ()

def inputCounts (usage : ActualUsage) : List Fields → Charged Unit
  | [] => .ok ()
  | raw :: _ => do
    rawUsageCount raw "cached_tokens" usage.cachedTokens
    rawUsageCount raw "cache_write_tokens" usage.cacheWriteTokens

def outputCounts (usage : ActualUsage) : List Fields → Charged Unit
  | [] => .ok ()
  | raw :: _ => rawUsageCount raw "reasoning_tokens" usage.reasoningTokens

def validateCodexUsageDetailShape (usage : ActualUsage) : Charged Unit := do
  let unknown := "Codex input token details contain an unknown billable dimension."
  let first ← detailShape usage "input_tokens_details" ["cached_tokens","cache_write_tokens"]
    "Codex input token details are malformed." unknown
  let second ← detailShape usage "prompt_tokens_details" ["cached_tokens","cache_write_tokens"]
    "Codex input token details are malformed." unknown
  consistent (first ++ second) "Codex input token detail aliases are contradictory." "input_tokens_details"
  inputCounts usage (first ++ second)
  let malformed := "Codex output token details are malformed or contain an unknown dimension."
  let first ← detailShape usage "output_tokens_details" ["reasoning_tokens"] malformed malformed
  let second ← detailShape usage "completion_tokens_details" ["reasoning_tokens"] malformed malformed
  consistent (first ++ second) "Codex output token detail aliases are contradictory." "output_tokens_details"
  outputCounts usage (first ++ second)

def codexComponents (usage : ActualUsage) (estimate : ChatCostEstimate) : Charged Components := do
  let inputPrice ← required estimate.inputPricePer1m "input_price_per_1m"
  let cachedPrice ← required estimate.cachedInputPricePer1m "cached_input_price_per_1m"
  let cacheWritePrice ← required estimate.cacheWriteInputPricePer1m "cache_write_input_price_per_1m"
  let outputPrice ← required estimate.outputPricePer1m "output_price_per_1m"
  let reasoningPrice ← required estimate.reasoningPricePer1m "reasoning_price_per_1m"
  let inputMultiplier ← required estimate.longContextInputMultiplier "long_context_input_multiplier"
  let outputMultiplier ← required estimate.longContextOutputMultiplier "long_context_output_multiplier"
  let threshold := estimate.longContextThresholdTokens.getD 0
  require (0 < threshold)
    (unsupported "A positive Codex long-context threshold is required." "long_context_threshold_tokens")
  validateCodexUsageDetailShape usage
  require (usage.promptTokens + usage.completionTokens = usage.totalTokens)
    (unsupported "Codex provider input and output tokens do not exactly match total tokens." "total_tokens")
  let cached := usage.cachedTokens.getD 0
  let cacheWrite := usage.cacheWriteTokens.getD 0
  require (cached + cacheWrite ≤ usage.promptTokens)
    (unsupported "Codex cached-read and cache-write tokens exceed provider input tokens." "input_tokens_details")
  let reasoning := usage.reasoningTokens.getD 0
  require (reasoning ≤ usage.completionTokens)
    (unsupported "Codex reasoning tokens exceed provider output tokens." "output_tokens_details.reasoning_tokens")
  require ((audioOutputTokens usage.otherUsage).getD 0 = 0)
    (unsupported "Codex accounting received an unsupported output token dimension." "output_tokens_details")
  let ordinaryInput := usage.promptTokens - cached - cacheWrite
  let ordinaryOutput := usage.completionTokens - reasoning
  let longContext : Bool := threshold < usage.promptTokens
  let inputTier := if longContext then inputMultiplier else 1
  let outputTier := if longContext then outputMultiplier else 1
  .ok
    { costs := [("input_uncached",tokensToCost ordinaryInput (decimal (inputPrice * inputTier))),
        ("input_cached",tokensToCost cached (decimal (cachedPrice * inputTier))),
        ("input_cache_write",tokensToCost cacheWrite (decimal (cacheWritePrice * inputTier))),
        ("output_non_reasoning",tokensToCost ordinaryOutput (decimal (outputPrice * outputTier))),
        ("output_reasoning",tokensToCost reasoning (decimal (reasoningPrice * outputTier))),("output_audio",0)]
      tokens := [("input_uncached_tokens",ordinaryInput),("input_cached_tokens",cached),
        ("input_cache_write_tokens",cacheWrite),("output_non_reasoning_tokens",ordinaryOutput),
        ("output_reasoning_tokens",reasoning),("output_audio_tokens",0),
        ("long_context_tier_applied",if longContext then 1 else 0),("total_tokens",usage.totalTokens)]
      warnings := warnIf (longContext = true) "codex_long_context_tier_applied" }

end Codex

section Cost

def componentSlaifCosts (usage : ActualUsage) (estimate : ChatCostEstimate) (allowUnpricedAudioOutput : Bool) :
    Charged Components :=
  if estimate.codexAccounting then codexComponents usage estimate
  else ordinaryComponents usage estimate allowUnpricedAudioOutput

def normalizeCurrency (value : String) : Charged String :=
  if blank value then .error (unsupported "Currency is required" "currency") else .ok ((strip value).map Char.toUpper)

-- The provider's own price of the request, with a warning when it cannot be used.
def providerReportedCost (response : ProviderResponse) : Option (ℚ × String) × List String :=
  match response.rawCostNative with
  | none => (none,[])
  | some cost =>
    if cost < 0 then (none,["provider_reported_cost_invalid"])
    else
      match response.nativeCurrency with
      | none => (none,["provider_reported_currency_missing"])
      | some currency =>
        match normalizeCurrency currency with
        | .error _ => (none,["provider_reported_currency_invalid"])
        | .ok currency => (some (cost,currency),[])

def convertEstimateNativeToEur (actualNative : ℚ) (nativeCurrency : String) (estimate : ChatCostEstimate) : Charged ℚ :=
  let totalNative := estimate.estimatedTotalCostNative
  let totalEur := estimate.estimatedTotalCostEur
  if totalNative < 0 ∨ totalEur < 0 then
    .error (ErrorKind.unsupportedProviderCost.saying "Estimated total costs must be non-negative")
  else if totalNative = 0 then
    if actualNative = 0 then .ok 0
    else .error (ErrorKind.unsupportedProviderCost.saying "Actual cost cannot be converted from a zero-cost estimate")
  else if nativeCurrency = "EUR" ∧ totalNative = totalEur then .ok actualNative
  else .ok (decimal (actualNative * decimal (totalEur / totalNative)))

def providerReportedCostToEur (cost : ℚ) (currency nativeCurrency : String) (estimate : ChatCostEstimate) : Option ℚ :=
  if currency = "EUR" then some cost
  else if currency ≠ nativeCurrency then none
  else (convertEstimateNativeToEur cost nativeCurrency estimate).toOption

inductive CostSource where
  | slaifCalculated
  | providerReported
  deriving DecidableEq, Repr

structure ActualCost where
  actualCostEur : ℚ
  actualCostNative : ℚ
  nativeCurrency : String
  slaifCalculatedCostEur : ℚ
  slaifCalculatedCostNative : ℚ
  costSource : CostSource
  costConfidence : String
  costWarnings : List String := []
  componentCostsNative : List (String × ℚ)
  componentTokenCounts : List (String × Int)
  providerReportedCostNative : Option ℚ := none
  providerReportedCurrency : Option String := none
  providerReportedCostEur : Option ℚ := none

def ActualCost.reported (c : ActualCost) (eur native : ℚ) (currency : String) (warnings : List String) : ActualCost :=
  { c with
    actualCostEur := eur
    actualCostNative := native
    nativeCurrency := currency
    costSource := .providerReported
    costConfidence := "provider_reported_with_slaif_comparison"
    costWarnings := warnings }

def fixedRequestActualCost (estimate : ChatCostEstimate) : Charged ActualCost :=
  match estimate.requestPrice.filter fun p => 0 ≤ p with
  | none => .error (unsupported "Native module fixed-request pricing is missing or invalid" "request_price")
  | some requestPrice => do
    let currency ← normalizeCurrency estimate.nativeCurrency
    .ok
      { actualCostEur := estimate.estimatedTotalCostEur
        actualCostNative := requestPrice
        nativeCurrency := currency
        slaifCalculatedCostEur := estimate.estimatedTotalCostEur
        slaifCalculatedCostNative := requestPrice
        costSource := .slaifCalculated
        costConfidence := "fixed_request_pricing"
        componentCostsNative := [("request",requestPrice)]
        componentTokenCounts := [("total_tokens",0)] }

def isFixedRequestModuleBilling (providerKind : Option String) (endpoint : String) : Bool :=
  let endpoint := strip endpoint
  providerKind = some "module" && (endpoint = "chat.completions" || endpoint = "/v1/chat/completions")

def decimalSum (values : List ℚ) : ℚ := values.foldl (fun total x => decimal (total + x)) 0

-- The reported cost in euros, and whether it is the one that is charged.
def trustedCost (response : ProviderResponse) (reported : Option (ℚ × String)) (nativeCurrency : String)
    (estimate : ChatCostEstimate) : Option ℚ × Bool :=
  match reported with
  | none => (none,false)
  | some (cost,currency) =>
    let eur := providerReportedCostToEur cost currency nativeCurrency estimate
    (eur,response.provider = "openrouter" && eur.isSome)

def slaifConfidence (warnings : List String) (reported : Option (ℚ × String)) : String :=
  if reported.isSome then "slaif_calculated_provider_cost_untrusted"
  else if warnings = [] then "slaif_calculated" else "slaif_calculated_with_fallbacks"

def computeActualCost (response : ProviderResponse) (providerKind : Option String) (usage : ActualUsage)
    (estimate : ChatCostEstimate) (endpoint : String) : Charged ActualCost :=
  if isFixedRequestModuleBilling providerKind endpoint then fixedRequestActualCost estimate
  else do
    let nativeCurrency ← normalizeCurrency estimate.nativeCurrency
    let (reported,reportedWarnings) := providerReportedCost response
    let (reportedEur,trusted) := trustedCost response reported nativeCurrency estimate
    let components ← componentSlaifCosts usage estimate trusted
    let warnings := reportedWarnings ++ warnIf (reported.isSome = true ∧ response.provider = "openrouter" ∧
      reportedEur = none) "provider_reported_cost_currency_unsupported" ++ components.warnings
    let slaifNative := decimalSum (components.costs.map Prod.snd)
    let slaifEur ← convertEstimateNativeToEur slaifNative nativeCurrency estimate
    let result : ActualCost :=
      { actualCostEur := slaifEur
        actualCostNative := slaifNative
        nativeCurrency := nativeCurrency
        slaifCalculatedCostEur := slaifEur
        slaifCalculatedCostNative := slaifNative
        costSource := .slaifCalculated
        costConfidence := slaifConfidence warnings reported
        costWarnings := (warnings ++ warnIf (reported.isSome = true ∧ response.provider ≠ "openrouter")
          "provider_reported_cost_not_supported_for_provider").eraseDups
        componentCostsNative := components.costs
        componentTokenCounts := components.tokens
        providerReportedCostNative := reported.map Prod.fst
        providerReportedCurrency := reported.map Prod.snd
        providerReportedCostEur := reportedEur }
    match reported,reportedEur with
    | some (cost,currency),some eur =>
      .ok (if trusted then result.reported eur cost currency warnings.eraseDups else result)
    | _,_ => .ok result

end Cost

end SlaifGateway.Billing
