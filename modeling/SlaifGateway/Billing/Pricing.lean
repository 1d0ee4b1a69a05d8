import SlaifGateway.Billing.ComponentPartition
import SlaifGateway.Library.JsonText

/-! The pricing service: what a pricing row must hold to be used, the Codex accounting block of its
metadata, and the cost that is estimated for a request before it is sent. -/
namespace SlaifGateway.Billing
open Library Store
open JsonText (isDigit)

inductive PricingError where
  | invalidPricingData (message : String)
  | invalidFxRate (message : String)
  | fxRateNotFound (param : String)
  | unsupportedCurrency (param : String)
  | audioOutputPricingNotSupported (param : String)
  deriving DecidableEq, Repr

abbrev Priced := Except PricingError

def demand (condition : Prop) [Decidable condition] (e : PricingError) : Priced Unit :=
  if condition then .ok () else .error e

section Literals

def numberOf (digits : Text) : ℕ := digits.foldl (fun n c => 10 * n + (c.val - 48)) 0

def signed : Text → Int × Text
  | [] => (1,[])
  | c :: rest => if c = 45 then (-1,rest) else if c = 43 then (1,rest) else (1,c :: rest)

def exponentOf : Text → Option Int
  | [] => some 0
  | e :: rest =>
    let (sign,digits) := signed rest
    if (e = 101 ∨ e = 69) ∧ digits ≠ [] ∧ digits.all isDigit then some (sign * numberOf digits) else none

def fractionOf : Text → Text × Text
  | c :: rest => if c = 46 then (rest.takeWhile isDigit,rest.dropWhile isDigit) else ([],c :: rest)
  | [] => ([],[])

-- The finite decimals of the constructor's grammar, in ASCII digits; an infinity or a NaN is refused anyway.
def decimalText (t : Text) : Option ℚ :=
  let (sign,t) := signed ((stripText t).filter fun c => c ≠ 95)
  let whole := t.takeWhile isDigit
  let (fraction,rest) := fractionOf (t.dropWhile isDigit)
  if whole ++ fraction = [] then none
  else (exponentOf rest).map fun e => sign * numberOf (whole ++ fraction) * (10 : ℚ) ^ (e - fraction.length : Int)

example : decimalText (text " +1_0.25e-1 ") = some (41 / 40) := by decide +kernel

def strictNonNegativeDecimalString (value : Document) (fieldName : String) : Priced ℚ :=
  let malformed := PricingError.invalidPricingData s!"Configured Codex pricing field '{fieldName}' must be a decimal string."
  match value with
  | .str t =>
    if stripText t = [] then .error malformed
    else
      match decimalText t with
      | none => .error malformed
      | some x => do
        demand (0 ≤ x) (.invalidPricingData s!"Configured Codex pricing field '{fieldName}' must be non-negative.")
        .ok x
  | _ => .error malformed

def strictPositiveDecimalString (value : Document) (fieldName : String) : Priced ℚ := do
  let parsed ← strictNonNegativeDecimalString value fieldName
  demand (0 < parsed) (.invalidPricingData s!"Configured Codex pricing field '{fieldName}' must be positive.")
  .ok parsed

end Literals

section Rows

-- A pricing row; the audio price is the number its metadata holds.
structure PricingRule where
  currency : String
  inputPricePer1m : Option ℚ
  outputPricePer1m : Option ℚ
  cachedInputPricePer1m : Option ℚ := none
  reasoningPricePer1m : Option ℚ := none
  requestPrice : Option ℚ := none
  audioOutputPricePer1m : Option ℚ := none
  pricingMetadata : Option Fields := none

structure CodexMetadata where
  cacheWriteInputPricePer1m : Option ℚ := none
  cacheWriteInputMultiplier : Option ℚ := none
  longContextThresholdTokens : Option Int := none
  longContextInputMultiplier : Option ℚ := none
  longContextOutputMultiplier : Option ℚ := none

structure PricingLookupResult extends CodexMetadata where
  currency : String
  inputPricePer1m : ℚ
  outputPricePer1m : ℚ
  cachedInputPricePer1m : Option ℚ
  reasoningPricePer1m : Option ℚ
  audioOutputPricePer1m : Option ℚ
  requestPrice : Option ℚ

def pricingCurrency (value : String) : Priced String :=
  if blank value then .error (.unsupportedCurrency "currency") else .ok ((strip value).map Char.toUpper)

def optionalNonNegativeDecimal (value : Option ℚ) (fieldName : String) : Priced (Option ℚ) := do
  demand (∀ x ∈ value, 0 ≤ x) (.invalidPricingData s!"Configured pricing field '{fieldName}' must be non-negative.")
  .ok value

def requiredNonNegativeDecimal (value : Option ℚ) (fieldName : String) : Priced ℚ :=
  match value with
  | none => .error (.invalidPricingData s!"Configured pricing field '{fieldName}' is required for chat cost estimates.")
  | some x => do
    demand (0 ≤ x) (.invalidPricingData s!"Configured pricing field '{fieldName}' must be non-negative.")
    .ok x

def codexAccountingRequiredFields : List String :=
  ["long_context_threshold_tokens","long_context_input_multiplier","long_context_output_multiplier"]

def codexAccountingCacheFields : List String := ["cache_write_input_price_per_1m","cache_write_input_multiplier"]

def longContextThreshold (value : Document) : Priced Int :=
  let invalid := PricingError.invalidPricingData "Configured Codex long-context threshold must be a positive integer."
  match value with
  | .int n => do
    demand (0 < n) invalid
    .ok n
  | _ => .error invalid

def cacheWritePrice (raw : Fields) (inputPricePer1m : ℚ) : Priced (ℚ × Option ℚ) :=
  if raw.has (text "cache_write_input_price_per_1m") then do
    let price ← strictNonNegativeDecimalString (raw.get (text "cache_write_input_price_per_1m"))
      "cache_write_input_price_per_1m"
    .ok (price,none)
  else do
    let multiplier ← strictPositiveDecimalString (raw.get (text "cache_write_input_multiplier"))
      "cache_write_input_multiplier"
    .ok (decimal (inputPricePer1m * multiplier),some multiplier)

def codexAccountingMetadata (metadata : Option Fields) (inputPricePer1m : ℚ) : Priced CodexMetadata :=
  match (metadata.getD []).get? (text "codex_accounting") with
  | none => .ok {}
  | some (.obj raw) => do
    let cacheFields := codexAccountingCacheFields.filter fun name => Fields.has raw (text name)
    demand (cacheFields.length = 1 ∧ Fields.keysAre raw (codexAccountingRequiredFields ++ cacheFields) = true)
      (.invalidPricingData "Configured Codex accounting metadata is partial or contains unknown fields.")
    let threshold ← longContextThreshold (Fields.get raw (text "long_context_threshold_tokens"))
    let longInput ← strictPositiveDecimalString (Fields.get raw (text "long_context_input_multiplier"))
      "long_context_input_multiplier"
    let longOutput ← strictPositiveDecimalString (Fields.get raw (text "long_context_output_multiplier"))
      "long_context_output_multiplier"
    let (price,multiplier) ← cacheWritePrice raw inputPricePer1m
    .ok ⟨some price,multiplier,some threshold,some longInput,some longOutput⟩
  | some _ => .error (.invalidPricingData "Configured Codex accounting metadata must be an object.")

def pricingLookupResult (row : PricingRule) : Priced PricingLookupResult := do
  let currency ← pricingCurrency row.currency
  let input ← requiredNonNegativeDecimal row.inputPricePer1m "input_price_per_1m"
  let output ← requiredNonNegativeDecimal row.outputPricePer1m "output_price_per_1m"
  let cached ← optionalNonNegativeDecimal row.cachedInputPricePer1m "cached_input_price_per_1m"
  let reasoning ← optionalNonNegativeDecimal row.reasoningPricePer1m "reasoning_price_per_1m"
  let audio ← optionalNonNegativeDecimal row.audioOutputPricePer1m "audio_output_price_per_1m"
  let codex ← codexAccountingMetadata row.pricingMetadata input
  let request ← optionalNonNegativeDecimal row.requestPrice "request_price"
  .ok { codex with
    currency := currency, inputPricePer1m := input, outputPricePer1m := output, cachedInputPricePer1m := cached
    reasoningPricePer1m := reasoning, audioOutputPricePer1m := audio, requestPrice := request }

end Rows

section Estimates

-- What the request policy decided: the estimated input, the output ceiling, and the body that is sent.
structure Policy where
  estimatedInputTokens : Int
  effectiveOutputTokens : Int
  effectiveBody : Fields := []
  codexLimitsApplied : Bool := false

def usesAudioOutput (payload : Fields) : Bool :=
  match payload.get (text "modalities") with
  | .arr items => items.any fun item => sameValue item (.str (text "audio"))
  | _ => false

def fxConversionResult (rate : ℚ) : Priced ℚ := do
  demand (0 < rate) (.invalidFxRate "Configured FX field 'rate' must be positive.")
  .ok rate

-- The amount in euros; `latest` is the rate the repository finds.
def convertToEur (amount : ℚ) (nativeCurrency : String) (latest : Option ℚ) : Priced ℚ := do
  let currency ← pricingCurrency nativeCurrency
  if currency = "EUR" then .ok amount
  else
    match latest with
    | none => .error (.fxRateNotFound "currency")
    | some row => do
      let rate ← fxConversionResult row
      .ok (decimal (amount * rate))

-- A captured rate is used as it is.
def eurAmount (amount : ℚ) (nativeCurrency : String) (fx latest : Option ℚ) : Priced ℚ :=
  match fx with
  | none => convertToEur amount nativeCurrency latest
  | some rate => .ok (decimal (amount * rate))

def codexEstimatePrices (pricing : PricingLookupResult) : Priced (ℚ × ℚ) :=
  match pricing.cacheWriteInputPricePer1m,pricing.longContextThresholdTokens,pricing.longContextInputMultiplier,
      pricing.longContextOutputMultiplier,pricing.reasoningPricePer1m,pricing.cachedInputPricePer1m with
  | some cacheWrite,some _,some longInput,some longOutput,some reasoning,some _ =>
    .ok (decimal (max pricing.inputPricePer1m cacheWrite * max 1 longInput),
      decimal (max pricing.outputPricePer1m reasoning * max 1 longOutput))
  | _,_,_,_,_,_ => .error (.invalidPricingData "Complete Codex cache, reasoning, and long-context pricing is required.")

def estimatePrices (pricing : PricingLookupResult) (codexAccounting : Bool) : Priced (ℚ × ℚ) :=
  if codexAccounting then codexEstimatePrices pricing else .ok (pricing.inputPricePer1m,pricing.outputPricePer1m)

def fixedRequestEstimate (pricing : PricingLookupResult) (fx latest : Option ℚ) : Priced ChatCostEstimate :=
  match pricing.requestPrice with
  | none => .error (.invalidPricingData "Native module Chat Completions pricing requires a request price.")
  | some price => do
    demand (0 ≤ price) (.invalidPricingData "Configured pricing field 'request_price' must be non-negative.")
    let totalEur ← eurAmount price pricing.currency fx latest
    .ok
      { nativeCurrency := pricing.currency, estimatedInputTokens := 0, estimatedOutputTokens := 0
        estimatedInputCostNative := 0, estimatedOutputCostNative := 0, estimatedTotalCostNative := price
        estimatedTotalCostEur := totalEur, inputPricePer1m := some pricing.inputPricePer1m
        cachedInputPricePer1m := pricing.cachedInputPricePer1m, outputPricePer1m := some pricing.outputPricePer1m
        reasoningPricePer1m := pricing.reasoningPricePer1m, audioOutputPricePer1m := pricing.audioOutputPricePer1m
        requestPrice := some price }

def audioPrice (pricing : PricingLookupResult) (requested : Bool) (output : ℚ) : ℚ :=
  match requested,pricing.audioOutputPricePer1m with
  | true,some price => max output price
  | _,_ => output

def tokenEstimate (pricing : PricingLookupResult) (policy : Policy) (fx latest : Option ℚ) : Priced ChatCostEstimate := do
  let audio := usesAudioOutput policy.effectiveBody
  demand (¬(audio = true ∧ pricing.audioOutputPricePer1m = none)) (.audioOutputPricingNotSupported "audio")
  let (inputPrice,outputPrice) ← estimatePrices pricing policy.codexLimitsApplied
  let inputCost := tokensToCost policy.estimatedInputTokens inputPrice
  let outputCost := tokensToCost policy.effectiveOutputTokens (audioPrice pricing audio outputPrice)
  let totalNative := decimal (inputCost + outputCost)
  let totalEur ← eurAmount totalNative pricing.currency fx latest
  .ok
    { nativeCurrency := pricing.currency
      estimatedInputTokens := policy.estimatedInputTokens
      estimatedOutputTokens := policy.effectiveOutputTokens
      estimatedInputCostNative := inputCost
      estimatedOutputCostNative := outputCost
      estimatedTotalCostNative := totalNative
      estimatedTotalCostEur := totalEur
      inputPricePer1m := some pricing.inputPricePer1m
      cachedInputPricePer1m := pricing.cachedInputPricePer1m
      outputPricePer1m := some pricing.outputPricePer1m
      reasoningPricePer1m := pricing.reasoningPricePer1m
      audioOutputPricePer1m := pricing.audioOutputPricePer1m
      requestPrice := pricing.requestPrice
      cacheWriteInputPricePer1m := pricing.cacheWriteInputPricePer1m
      longContextThresholdTokens := pricing.longContextThresholdTokens
      longContextInputMultiplier := pricing.longContextInputMultiplier
      longContextOutputMultiplier := pricing.longContextOutputMultiplier
      codexAccounting := policy.codexLimitsApplied }

def estimateChatCompletionCost (pricing : PricingLookupResult) (providerKind : Option String) (endpoint : String)
    (policy : Policy) (fx latest : Option ℚ) : Priced ChatCostEstimate :=
  if isFixedRequestModuleBilling providerKind endpoint then fixedRequestEstimate pricing fx latest
  else tokenEstimate pricing policy fx latest

end Estimates

end SlaifGateway.Billing
