import SlaifGateway.Billing.OrdinaryEstimate

/-! The conversion rate of the estimate against the rate of the bill. The bill is converted by the ratio of
the estimate's totals, so the functions are taken here with their rounding and their priced tokens left
open: the rates agree over exact rationals whatever the tokens cost. -/
namespace SlaifGateway.Billing
open Library Store
open Decimal (Near nearSelf nearMore nearMul nearRound roundingUnit unitNonneg)

section Arithmetic
variable (round : ℚ → ℚ)

def convertWith (actualNative : ℚ) (nativeCurrency : String) (estimate : ChatCostEstimate) : Charged ℚ :=
  let totalNative := estimate.estimatedTotalCostNative
  let totalEur := estimate.estimatedTotalCostEur
  if totalNative < 0 ∨ totalEur < 0 then
    .error (ErrorKind.unsupportedProviderCost.saying "Estimated total costs must be non-negative")
  else if totalNative = 0 then
    if actualNative = 0 then .ok 0
    else .error (ErrorKind.unsupportedProviderCost.saying "Actual cost cannot be converted from a zero-cost estimate")
  else if nativeCurrency = "EUR" ∧ totalNative = totalEur then .ok actualNative
  else .ok (round (actualNative * round (totalEur / totalNative)))

def reportedToEurWith (cost : ℚ) (currency nativeCurrency : String) (estimate : ChatCostEstimate) : Option ℚ :=
  if currency = "EUR" then some cost
  else if currency ≠ nativeCurrency then none
  else (convertWith round cost nativeCurrency estimate).toOption

def trustedWith (response : ProviderResponse) (reported : Option (ℚ × String)) (nativeCurrency : String)
    (estimate : ChatCostEstimate) : Option ℚ × Bool :=
  match reported with
  | none => (none,false)
  | some (cost,currency) =>
    let eur := reportedToEurWith round cost currency nativeCurrency estimate
    (eur,response.provider = "openrouter" && eur.isSome)

def sumWith (values : List ℚ) : ℚ := values.foldl (fun total x => round (total + x)) 0

-- The bill of components that were priced somewhere else.
def actualCostWith (components : Bool → Charged Components) (response : ProviderResponse) (providerKind : Option String)
    (estimate : ChatCostEstimate) (endpoint : String) : Charged ActualCost :=
  if isFixedRequestModuleBilling providerKind endpoint then fixedRequestActualCost estimate
  else do
    let nativeCurrency ← normalizeCurrency estimate.nativeCurrency
    let (reported,reportedWarnings) := providerReportedCost response
    let (reportedEur,trusted) := trustedWith round response reported nativeCurrency estimate
    let components ← components trusted
    let warnings := reportedWarnings ++ warnIf (reported.isSome = true ∧ response.provider = "openrouter" ∧
      reportedEur = none) "provider_reported_cost_currency_unsupported" ++ components.warnings
    let slaifNative := sumWith round (components.costs.map Prod.snd)
    let slaifEur ← convertWith round slaifNative nativeCurrency estimate
    let result : ActualCost :=
      { actualCostEur := slaifEur
        actualCostNative := slaifNative
        nativeCurrency := nativeCurrency
        slaifCalculatedCostEur := slaifEur
        slaifCalculatedCostNative := slaifNative
        costSource := .slaifCalculated
        costConfidence := slaifConfidence warnings reported
        costWarnings := (warnings ++ warnIf (reported.isSome = true ∧ response.provider ≠ "openrouter")
          "provider_reported_cost_not_supported_for_provider").eraseDups
        componentCostsNative := components.costs
        componentTokenCounts := components.tokens
        providerReportedCostNative := reported.map Prod.fst
        providerReportedCurrency := reported.map Prod.snd
        providerReportedCostEur := reportedEur }
    match reported,reportedEur with
    | some (cost,currency),some eur =>
      .ok (if trusted then result.reported eur cost currency warnings.eraseDups else result)
    | _,_ => .ok result

def convertToEurWith (amount : ℚ) (nativeCurrency : String) (latest : Option ℚ) : Priced ℚ := do
  let currency ← pricingCurrency nativeCurrency
  if currency = "EUR" then .ok amount
  else
    match latest with
    | none => .error (.fxRateNotFound "currency")
    | some row => do
      let rate ← fxConversionResult row
      .ok (round (amount * rate))

def eurAmountWith (amount : ℚ) (nativeCurrency : String) (fx latest : Option ℚ) : Priced ℚ :=
  match fx with
  | none => convertToEurWith round amount nativeCurrency latest
  | some rate => .ok (round (amount * rate))

def fixedEstimateWith (pricing : PricingLookupResult) (fx latest : Option ℚ) : Priced ChatCostEstimate :=
  match pricing.requestPrice with
  | none => .error (.invalidPricingData "Native module Chat Completions pricing requires a request price.")
  | some price => do
    demand (0 ≤ price) (.invalidPricingData "Configured pricing field 'request_price' must be non-negative.")
    let totalEur ← eurAmountWith round price pricing.currency fx latest
    .ok
      { nativeCurrency := pricing.currency, estimatedInputTokens := 0, estimatedOutputTokens := 0
        estimatedInputCostNative := 0, estimatedOutputCostNative := 0, estimatedTotalCostNative := price
        estimatedTotalCostEur := totalEur, inputPricePer1m := some pricing.inputPricePer1m
        cachedInputPricePer1m := pricing.cachedInputPricePer1m, outputPricePer1m := some pricing.outputPricePer1m
        reasoningPricePer1m := pricing.reasoningPricePer1m, audioOutputPricePer1m := pricing.audioOutputPricePer1m
        requestPrice := some price }

-- The estimate of input and output costs that were priced somewhere else.
def tokenEstimateWith (costs : Priced (ℚ × ℚ)) (pricing : PricingLookupResult) (policy : Policy) (fx latest : Option ℚ) :
    Priced ChatCostEstimate := do
  let (inputCost,outputCost) ← costs
  let totalNative := round (inputCost + outputCost)
  let totalEur ← eurAmountWith round totalNative pricing.currency fx latest
  .ok
    { nativeCurrency := pricing.currency
      estimatedInputTokens := policy.estimatedInputTokens
      estimatedOutputTokens := policy.effectiveOutputTokens
      estimatedInputCostNative := inputCost
      estimatedOutputCostNative := outputCost
      estimatedTotalCostNative := totalNative
      estimatedTotalCostEur := totalEur
      inputPricePer1m := some pricing.inputPricePer1m
      cachedInputPricePer1m := pricing.cachedInputPricePer1m
      outputPricePer1m := some pricing.outputPricePer1m
      reasoningPricePer1m := pricing.reasoningPricePer1m
      audioOutputPricePer1m := pricing.audioOutputPricePer1m
      requestPrice := pricing.requestPrice
      cacheWriteInputPricePer1m := pricing.cacheWriteInputPricePer1m
      longContextThresholdTokens := pricing.longContextThresholdTokens
      longContextInputMultiplier := pricing.longContextInputMultiplier
      longContextOutputMultiplier := pricing.longContextOutputMultiplier
      codexAccounting := policy.codexLimitsApplied }

def estimateWith (costs : Priced (ℚ × ℚ)) (pricing : PricingLookupResult) (providerKind : Option String) (endpoint : String)
    (policy : Policy) (fx latest : Option ℚ) : Priced ChatCostEstimate :=
  if isFixedRequestModuleBilling providerKind endpoint then fixedEstimateWith round pricing fx latest
  else tokenEstimateWith round costs pricing policy fx latest

end Arithmetic

section Code

def estimatedCosts (pricing : PricingLookupResult) (policy : Policy) : Priced (ℚ × ℚ) := do
  let audio := usesAudioOutput policy.effectiveBody
  demand (¬(audio = true ∧ pricing.audioOutputPricePer1m = none)) (.audioOutputPricingNotSupported "audio")
  let (inputPrice,outputPrice) ← estimatePrices pricing policy.codexLimitsApplied
  .ok (tokensToCost policy.estimatedInputTokens inputPrice,
    tokensToCost policy.effectiveOutputTokens (audioPrice pricing audio outputPrice))

-- The code's functions are these in the 28-digit context.
theorem actualCostDecimal (response : ProviderResponse) (kind : Option String) (usage : ActualUsage)
    (estimate : ChatCostEstimate) (endpoint : String) : computeActualCost response kind usage estimate endpoint =
      actualCostWith decimal (componentSlaifCosts usage estimate) response kind estimate endpoint := rfl

theorem tokenEstimateDecimal (pricing : PricingLookupResult) (policy : Policy) (fx latest : Option ℚ) :
    tokenEstimate pricing policy fx latest =
      tokenEstimateWith decimal (estimatedCosts pricing policy) pricing policy fx latest := by
  unfold tokenEstimate tokenEstimateWith estimatedCosts
  dsimp only
  cases demand (¬(usesAudioOutput policy.effectiveBody = true ∧ pricing.audioOutputPricePer1m = none))
    (.audioOutputPricingNotSupported "audio") with
  | error e => rfl
  | ok u =>
    cases estimatePrices pricing policy.codexLimitsApplied with
    | error e => rfl
    | ok prices => rfl

theorem estimateDecimal (pricing : PricingLookupResult) (kind : Option String) (endpoint : String) (policy : Policy)
    (fx latest : Option ℚ) : estimateChatCompletionCost pricing kind endpoint policy fx latest =
      estimateWith decimal (estimatedCosts pricing policy) pricing kind endpoint policy fx latest := by
  unfold estimateChatCompletionCost estimateWith
  rw [tokenEstimateDecimal]
  rfl

end Code

section Rates
variable {round : ℚ → ℚ} {costs : Priced (ℚ × ℚ)} {components : Bool → Charged Components} {pricing : PricingLookupResult}
  {kind : Option String} {endpoint : String} {policy : Policy} {fx latest : Option ℚ} {response : ProviderResponse}
  {estimate : ChatCostEstimate} {cost : ActualCost}

theorem eurAmountMeans {native eur : ℚ} (ok : eurAmountWith round native pricing.currency fx latest = .ok eur) :
    eur = round (native * appliedRate pricing fx latest) ∨ eur = native ∧ appliedRate pricing fx latest = 1 := by
  unfold eurAmountWith at ok
  cases fx with
  | some rate =>
    cases ok
    exact .inl rfl
  | none =>
    obtain ⟨currency,normalized,ok⟩ := okBind ok
    unfold pricingCurrency at normalized
    split at normalized
    · cases normalized
    · cases normalized
      unfold appliedRate
      rw [Option.getD_none]
      split at ok
      · next euro =>
        cases ok
        exact .inr ⟨rfl,if_pos euro⟩
      · next foreign =>
        rw [if_neg foreign]
        cases latest with
        | none => cases ok
        | some row =>
          obtain ⟨rate,rateOk,ok⟩ := okBind ok
          obtain ⟨_,_,rateOk⟩ := okBind rateOk
          cases rateOk
          cases ok
          exact .inl rfl

-- Whether an amount is converted does not depend on the rounding.
theorem ratePositive {native eur : ℚ} (captured : ∀ rate ∈ fx, 0 < rate)
    (ok : eurAmountWith round native pricing.currency fx latest = .ok eur) : 0 < appliedRate pricing fx latest := by
  cases fx with
  | some rate => exact captured rate rfl
  | none =>
    obtain ⟨currency,normalized,ok⟩ := okBind ok
    have converts : ∃ other, convertToEur native pricing.currency latest = .ok other := by
      unfold convertToEur
      rw [normalized]
      change ∃ other, (if currency = "EUR" then Except.ok native else _) = _
      split at ok
      · next euro => exact ⟨native,if_pos euro⟩
      · next foreign =>
        rw [if_neg foreign]
        cases latest with
        | none => cases ok
        | some row =>
          obtain ⟨rate,rateOk,ok⟩ := okBind ok
          dsimp only
          rw [rateOk]
          exact ⟨_,rfl⟩
    obtain ⟨other,converted⟩ := converts
    exact @appliedPositive pricing none latest native other captured converted

-- What every estimate holds of its totals, however its tokens were priced.
structure Totals (round : ℚ → ℚ) (pricing : PricingLookupResult) (kind : Option String) (endpoint : String)
    (fx latest : Option ℚ) (estimate : ChatCostEstimate) : Prop where
  currency : estimate.nativeCurrency = pricing.currency
  eur : eurAmountWith round estimate.estimatedTotalCostNative pricing.currency fx latest =
    .ok estimate.estimatedTotalCostEur
  fixed : isFixedRequestModuleBilling kind endpoint = true → estimate.requestPrice = some estimate.estimatedTotalCostNative

theorem estimateTotals (ok : estimateWith round costs pricing kind endpoint policy fx latest = .ok estimate) :
    Totals round pricing kind endpoint fx latest estimate := by
  unfold estimateWith at ok
  cases fixed : isFixedRequestModuleBilling kind endpoint with
  | true =>
    rw [fixed,if_pos rfl] at ok
    unfold fixedEstimateWith at ok
    split at ok
    · cases ok
    · obtain ⟨_,_,ok⟩ := okBind ok
      obtain ⟨eur,eurOk,ok⟩ := okBind ok
      cases ok
      exact ⟨rfl,eurOk,fun _ => rfl⟩
  | false =>
    rw [fixed,if_neg Bool.false_ne_true] at ok
    obtain ⟨prices,_,ok⟩ := okBind ok
    obtain ⟨eur,eurOk,ok⟩ := okBind ok
    cases ok
    exact ⟨rfl,eurOk,fun yes => by rw [fixed] at yes; cases yes⟩

-- How a charged cost was converted.
inductive Conversion (round : ℚ → ℚ) (kind : Option String) (endpoint : String) (estimate : ChatCostEstimate)
    (cost : ActualCost) : Prop
  | fixed (billed : isFixedRequestModuleBilling kind endpoint = true)
      (native : estimate.requestPrice = some cost.actualCostNative) (eur : cost.actualCostEur = estimate.estimatedTotalCostEur)
  | converted (currency : String) (eur : convertWith round cost.actualCostNative currency estimate = .ok cost.actualCostEur)
  | reportedEuros (source : cost.costSource = .providerReported) (currency : cost.nativeCurrency = "EUR")
      (eur : cost.actualCostEur = cost.actualCostNative)

theorem fixedConversion (ok : fixedRequestActualCost estimate = .ok cost) :
    estimate.requestPrice = some cost.actualCostNative ∧ cost.actualCostEur = estimate.estimatedTotalCostEur := by
  unfold fixedRequestActualCost at ok
  split at ok
  · cases ok
  · next price held =>
    obtain ⟨currency,_,ok⟩ := okBind ok
    cases ok
    exact ⟨(Option.filter_eq_some_iff.mp held).1,rfl⟩

theorem reportedConversion {paid eur : ℚ} {currency native : String}
    (ok : reportedToEurWith round paid currency native estimate = some eur) :
    currency = "EUR" ∧ eur = paid ∨ convertWith round paid native estimate = .ok eur := by
  unfold reportedToEurWith at ok
  split at ok
  · next euro =>
    cases ok
    exact .inl ⟨euro,rfl⟩
  · split at ok
    · cases ok
    · cases converted : convertWith round paid native estimate with
      | error e =>
        rw [converted] at ok
        cases ok
      | ok x =>
        rw [converted] at ok
        cases ok
        exact .inr rfl

theorem costConversion (ok : actualCostWith round components response kind estimate endpoint = .ok cost) :
    Conversion round kind endpoint estimate cost := by
  unfold actualCostWith at ok
  cases fixed : isFixedRequestModuleBilling kind endpoint with
  | true =>
    rw [fixed,if_pos rfl] at ok
    obtain ⟨native,eur⟩ := fixedConversion ok
    exact .fixed fixed native eur
  | false =>
    rw [fixed,if_neg Bool.false_ne_true] at ok
    obtain ⟨currency,_,ok⟩ := okBind ok
    cases reportedIs : providerReportedCost response with
    | mk reported warnings =>
    rw [reportedIs] at ok
    dsimp only at ok
    cases trustedIs : trustedWith round response reported currency estimate with
    | mk reportedEur trusted =>
    rw [trustedIs] at ok
    dsimp only at ok
    obtain ⟨c,_,ok⟩ := okBind ok
    obtain ⟨eur,converted,ok⟩ := okBind ok
    split at ok
    · next paid reportedCurrency value _ _ =>
      cases ok
      cases trusted with
      | true =>
        have held : reportedToEurWith round paid reportedCurrency currency estimate = some value :=
          congrArg Prod.fst trustedIs
        rcases reportedConversion held with ⟨euro,same⟩ | exchanged
        · exact .reportedEuros rfl euro same
        · exact .converted currency exchanged
      | false => exact .converted currency converted
    · cases ok
      exact .converted currency converted

-- Over exact rationals the ratio of the totals is the rate of the estimate.
theorem convertedRate {native eur : ℚ} {currency : String} (totals : Totals id pricing kind endpoint fx latest estimate)
    (ok : convertWith id native currency estimate = .ok eur) : eur = native * appliedRate pricing fx latest := by
  have total : estimate.estimatedTotalCostEur = estimate.estimatedTotalCostNative * appliedRate pricing fx latest := by
    rcases eurAmountMeans totals.eur with product | ⟨same,one⟩
    · exact product
    · rw [same,one,mul_one]
  unfold convertWith at ok
  dsimp only [id] at ok
  split at ok
  · cases ok
  · split at ok
    · split at ok
      · next free =>
        cases ok
        rw [free,zero_mul]
      · cases ok
    · next charged =>
      split at ok
      · next euro =>
        cases ok
        rw [total] at euro
        rw [(mul_eq_left₀ charged).mp euro.2.symm,mul_one]
      · cases ok
        rw [total,mul_div_cancel_left₀ _ charged]

-- In the code's arithmetic the two rates differ by at most three roundings.
theorem convertedNear {native eur : ℚ} {currency : String}
    (totals : Totals decimal pricing kind endpoint fx latest estimate) (captured : ∀ rate ∈ fx, 0 < rate)
    (positive : 0 ≤ estimate.estimatedTotalCostNative) (nonneg : 0 ≤ native)
    (ok : convertWith decimal native currency estimate = .ok eur) :
    Near (roundingUnit 28) 3 (native * appliedRate pricing fx latest) eur := by
  have rate := (appliedPositive captured totals.eur).le
  have product := mul_nonneg nonneg rate
  have total : Near (roundingUnit 28) 1 (estimate.estimatedTotalCostNative * appliedRate pricing fx latest)
      estimate.estimatedTotalCostEur := by
    rcases eurAmountMeans totals.eur with rounded | ⟨same,one⟩
    · rw [rounded]
      exact nearRound unitSmall (mul_nonneg positive rate) (nearSelf _ _)
    · rw [same,one,mul_one]
      exact nearMore (unitNonneg 28) unitSmall positive (Nat.zero_le 1) (nearSelf _ _)
  unfold convertWith at ok
  dsimp only at ok
  split at ok
  · cases ok
  · split at ok
    · split at ok
      · next free =>
        cases ok
        rw [free,zero_mul]
        exact nearMore (unitNonneg 28) unitSmall (le_refl _) (Nat.zero_le 3) (nearSelf _ _)
      · cases ok
    · next charged =>
      have ratio : Near (roundingUnit 28) 1 (appliedRate pricing fx latest)
          (estimate.estimatedTotalCostEur / estimate.estimatedTotalCostNative) := by
        have above := lt_of_le_of_ne positive (Ne.symm charged)
        constructor
        · rw [le_div_iff₀ above]
          calc appliedRate pricing fx latest * (1 - roundingUnit 28) ^ 1 * estimate.estimatedTotalCostNative =
              estimate.estimatedTotalCostNative * appliedRate pricing fx latest * (1 - roundingUnit 28) ^ 1 := by ring
            _ ≤ estimate.estimatedTotalCostEur := total.1
        · rw [div_le_iff₀ above]
          calc estimate.estimatedTotalCostEur ≤
              estimate.estimatedTotalCostNative * appliedRate pricing fx latest * (1 + roundingUnit 28) ^ 1 := total.2
            _ = appliedRate pricing fx latest * (1 + roundingUnit 28) ^ 1 * estimate.estimatedTotalCostNative := by ring
      split at ok
      · next euro =>
        cases ok
        rw [← euro.2,div_self charged] at ratio
        have kept := nearMul (unitNonneg 28) unitSmall nonneg rate (nearSelf (roundingUnit 28) native) ratio
        rw [mul_one] at kept
        exact nearMore (unitNonneg 28) unitSmall product (by decide) kept
      · cases ok
        exact nearRound unitSmall product
          (nearMul (unitNonneg 28) unitSmall nonneg rate (nearSelf _ _) (nearRound unitSmall rate ratio))

-- Whether the reported cost of a response is the one that is charged.
def trusts (round : ℚ → ℚ) (response : ProviderResponse) (estimate : ChatCostEstimate) : Bool :=
  (trustedWith round response (providerReportedCost response).1 ((strip estimate.nativeCurrency).map Char.toUpper) estimate).2

def zeroCostEstimate : ServiceError :=
  ErrorKind.unsupportedProviderCost.saying "Actual cost cannot be converted from a zero-cost estimate"

def refusedWith (e : ServiceError) : Charged ActualCost → Bool
  | .error e' => e' = e
  | .ok _ => false

theorem refusedMeans {e : ServiceError} {result : Charged ActualCost} (refused : refusedWith e result = true) :
    result = .error e := by
  cases result with
  | error e' => exact congrArg Except.error (of_decide_eq_true refused)
  | ok cost => cases refused

-- Priced components fail to be charged only when they cost something and the estimate does not.
theorem chargedUnlessFree {c : Components} (tokenBilled : isFixedRequestModuleBilling kind endpoint = false)
    (filled : blank estimate.nativeCurrency = false)
    (totals : 0 ≤ estimate.estimatedTotalCostNative ∧ 0 ≤ estimate.estimatedTotalCostEur)
    (priced : components (trusts round response estimate) = .ok c) :
    (¬(estimate.estimatedTotalCostNative = 0 ∧ sumWith round (c.costs.map Prod.snd) ≠ 0) →
      ∃ cost, actualCostWith round components response kind estimate endpoint = .ok cost) ∧
    (estimate.estimatedTotalCostNative = 0 ∧ sumWith round (c.costs.map Prod.snd) ≠ 0 →
      actualCostWith round components response kind estimate endpoint = .error zeroCostEstimate) := by
  have currencyOk : normalizeCurrency estimate.nativeCurrency = .ok ((strip estimate.nativeCurrency).map Char.toUpper) := by
    unfold normalizeCurrency
    rw [filled,if_neg Bool.false_ne_true]
  have signs : ¬(estimate.estimatedTotalCostNative < 0 ∨ estimate.estimatedTotalCostEur < 0) :=
    not_or.mpr ⟨not_lt.mpr totals.1,not_lt.mpr totals.2⟩
  unfold trusts at priced
  unfold actualCostWith
  rw [tokenBilled,if_neg Bool.false_ne_true,currencyOk]
  cases reportedIs : providerReportedCost response with
  | mk reported warnings =>
  rw [reportedIs] at priced
  dsimp only at priced
  simp only [bind,Except.bind]
  cases trustedIs : trustedWith round response reported ((strip estimate.nativeCurrency).map Char.toUpper) estimate with
  | mk reportedEur trusted =>
  rw [trustedIs] at priced
  dsimp only at priced ⊢
  rw [priced]
  dsimp only
  constructor
  · intro convertible
    have converted : ∃ eur, convertWith round (sumWith round (c.costs.map Prod.snd))
        ((strip estimate.nativeCurrency).map Char.toUpper) estimate = .ok eur := by
      unfold convertWith
      dsimp only
      rw [if_neg signs]
      split
      · next free =>
        rw [if_pos (by_contra fun some => convertible ⟨free,some⟩)]
        exact ⟨_,rfl⟩
      · split
        · exact ⟨_,rfl⟩
        · exact ⟨_,rfl⟩
    obtain ⟨eur,converted⟩ := converted
    rw [converted]
    dsimp only
    split
    · exact ⟨_,rfl⟩
    · exact ⟨_,rfl⟩
  · rintro ⟨free,some⟩
    have refused : convertWith round (sumWith round (c.costs.map Prod.snd))
        ((strip estimate.nativeCurrency).map Char.toUpper) estimate = .error zeroCostEstimate := by
      unfold convertWith
      dsimp only
      rw [if_neg signs,if_pos free,if_neg some]
      rfl
    rw [refused]

def reasoningRow : PricingRule :=
  { currency := "usd", inputPricePer1m := some 0, outputPricePer1m := some 0, reasoningPricePer1m := some 5 }

def smallPolicy : Policy := { estimatedInputTokens := 100, effectiveOutputTokens := 100 }

def reasoningResponse : ProviderResponse :=
  { provider := "openai", usage := parseUsage [(text "usage",.obj [(text "prompt_tokens",.int 10),
      (text "completion_tokens",.int 10),(text "total_tokens",.int 20),(text "reasoning_tokens",.int 4)])] }

end Rates

end SlaifGateway.Billing
