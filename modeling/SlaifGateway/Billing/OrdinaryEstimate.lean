import SlaifGateway.Billing.CodexEstimate

/-! The ordinary estimate against the ordinary bill. The estimate prices every token at the plain input
and output price, the bill moves cached and reasoning tokens to prices of their own. -/
namespace SlaifGateway.Billing
open Library Store
open Decimal (Digits Scaled)

section Rules

-- The prices a request is estimated and billed at; the estimated output price includes requested audio.
structure PlainRates where
  input : ℚ
  cached : ℚ
  output : ℚ
  reasoning : ℚ
  estimated : ℚ

def plainRates (pricing : PricingLookupResult) (policy : Policy) : PlainRates :=
  ⟨pricing.inputPricePer1m,pricing.cachedInputPricePer1m.getD pricing.inputPricePer1m,pricing.outputPricePer1m,
    pricing.reasoningPricePer1m.getD pricing.outputPricePer1m,
    audioPrice pricing (usesAudioOutput policy.effectiveBody) pricing.outputPricePer1m⟩

-- A million times a cost within the token caps.
def Policy.capped (policy : Policy) (input output : ℚ) : ℚ :=
  (policy.estimatedInputTokens : ℚ) * input + (policy.effectiveOutputTokens : ℚ) * output

def PlainRates.estimate (p : PlainRates) (policy : Policy) : ℚ := policy.capped p.input p.estimated

def PlainRates.worstBill (p : PlainRates) (policy : Policy) : ℚ :=
  policy.capped (max p.input p.cached) (max p.output p.reasoning)

-- Both the estimate and the worst bill stay below it.
def PlainRates.most (p : PlainRates) (policy : Policy) : ℚ :=
  policy.capped (max p.input p.cached) (max p.estimated p.reasoning)

-- The prices and the rate have a last decimal place, at which every amount within the caps has 28 digits.
structure Fitting (p : PlainRates) (policy : Policy) (rate : ℚ) (scale places : ℕ) : Prop where
  prices : ∀ x ∈ [p.input,p.cached,p.output,p.reasoning,p.estimated], Scaled scale x
  converted : Scaled places rate
  prompt : 0 ≤ policy.estimatedInputTokens ∧ policy.estimatedInputTokens < 10 ^ 28
  completion : 0 ≤ policy.effectiveOutputTokens ∧ policy.effectiveOutputTokens < 10 ^ 28
  native : p.most policy * 10 ^ scale < 10 ^ 28
  eur : p.most policy * 10 ^ scale * (rate * 10 ^ places) < 10 ^ 28

-- A usage within the caps, without audio output, and its bill; the provider's own price is not the one charged.
structure WithinCaps (policy : Policy) (kind : Option String) (endpoint : String) (estimate : ChatCostEstimate)
    (response : ProviderResponse) (usage : ActualUsage) (cost : ActualCost) : Prop where
  untrusted : response.provider ≠ "openrouter" ∨ response.rawCostNative = none
  counted : Counted usage
  silent : (audioOutputTokens usage.otherUsage).getD 0 = 0
  prompt : usage.promptTokens ≤ policy.estimatedInputTokens
  completion : usage.completionTokens ≤ policy.effectiveOutputTokens
  computed : computeActualCost response kind usage estimate endpoint = .ok cost

-- What a rule that was accepted and a token estimate outside Codex accounting hold.
structure PlainEstimated (pricing : PricingLookupResult) (policy : Policy) (fx latest : Option ℚ)
    (estimate : ChatCostEstimate) : Prop where
  ordinary : estimate.codexAccounting = false
  currency : estimate.nativeCurrency = pricing.currency
  input : estimate.inputPricePer1m = some pricing.inputPricePer1m
  cached : estimate.cachedInputPricePer1m = pricing.cachedInputPricePer1m
  output : estimate.outputPricePer1m = some pricing.outputPricePer1m
  reasoning : estimate.reasoningPricePer1m = pricing.reasoningPricePer1m
  audio : estimate.audioOutputPricePer1m = pricing.audioOutputPricePer1m
  native : estimate.estimatedTotalCostNative =
    decimal (tokensToCost policy.estimatedInputTokens (plainRates pricing policy).input +
      tokensToCost policy.effectiveOutputTokens (plainRates pricing policy).estimated)
  eur : eurAmount estimate.estimatedTotalCostNative pricing.currency fx latest = .ok estimate.estimatedTotalCostEur

structure PlainPrices (pricing : PricingLookupResult) : Prop where
  input : 0 ≤ pricing.inputPricePer1m
  output : 0 ≤ pricing.outputPricePer1m
  cached : ∀ x ∈ pricing.cachedInputPricePer1m, 0 ≤ x
  reasoning : ∀ x ∈ pricing.reasoningPricePer1m, 0 ≤ x
  audio : ∀ x ∈ pricing.audioOutputPricePer1m, 0 ≤ x
  currency : blank pricing.currency = false

theorem filledCurrency {value currency : String} (ok : pricingCurrency value = .ok currency) : blank currency = false := by
  unfold pricingCurrency at ok
  split at ok
  · cases ok
  · next filled =>
    cases ok
    exact upperFilled (by simpa using filled)

theorem plainPrices {row : PricingRule} {pricing : PricingLookupResult} (accepted : pricingLookupResult row = .ok pricing) :
    PlainPrices pricing := by
  obtain ⟨currency,currencyOk,ok⟩ := okBind accepted
  obtain ⟨input,inputOk,ok⟩ := okBind ok
  obtain ⟨output,outputOk,ok⟩ := okBind ok
  obtain ⟨cached,cachedOk,ok⟩ := okBind ok
  obtain ⟨reasoning,reasoningOk,ok⟩ := okBind ok
  obtain ⟨audio,audioOk,ok⟩ := okBind ok
  obtain ⟨codex,_,ok⟩ := okBind ok
  obtain ⟨request,_,ok⟩ := okBind ok
  cases ok
  exact ⟨requiredNonneg inputOk,requiredNonneg outputOk,optionalNonneg cachedOk,optionalNonneg reasoningOk,
    optionalNonneg audioOk,filledCurrency currencyOk⟩

end Rules

section Bills
variable {pricing : PricingLookupResult} {kind : Option String} {endpoint : String} {policy : Policy}
  {fx latest : Option ℚ} {response : ProviderResponse} {estimate : ChatCostEstimate} {usage : ActualUsage}
  {cost : ActualCost} {p : PlainRates} {scale places : ℕ} {rate : ℚ}

theorem plainEstimated (ordinary : policy.codexLimitsApplied = false)
    (tokenBilled : isFixedRequestModuleBilling kind endpoint = false)
    (ok : estimateChatCompletionCost pricing kind endpoint policy fx latest = .ok estimate) :
    PlainEstimated pricing policy fx latest estimate := by
  unfold estimateChatCompletionCost at ok
  rw [tokenBilled,if_neg Bool.false_ne_true] at ok
  obtain ⟨_,_,ok⟩ := okBind ok
  obtain ⟨prices,pricesOk,ok⟩ := okBind ok
  unfold estimatePrices at pricesOk
  rw [ordinary,if_neg Bool.false_ne_true] at pricesOk
  cases pricesOk
  obtain ⟨eur,eurOk,ok⟩ := okBind ok
  cases ok
  exact ⟨ordinary,rfl,rfl,rfl,rfl,rfl,rfl,rfl,eurOk⟩

-- A fixed request price is charged as it was estimated.
theorem fixedEstimateCharged (fixed : isFixedRequestModuleBilling kind endpoint = true)
    (ok : computeActualCost response kind usage estimate endpoint = .ok cost) :
    cost.actualCostEur = estimate.estimatedTotalCostEur := by
  unfold computeActualCost at ok
  rw [fixed,if_pos rfl] at ok
  unfold fixedRequestActualCost at ok
  split at ok
  · cases ok
  · obtain ⟨currency,_,ok⟩ := okBind ok
    cases ok
    rfl

theorem appliedPositive {native eur : ℚ} (captured : ∀ rate ∈ fx, 0 < rate)
    (ok : eurAmount native pricing.currency fx latest = .ok eur) : 0 < appliedRate pricing fx latest := by
  unfold eurAmount at ok
  cases fx with
  | some rate => exact captured rate rfl
  | none =>
    obtain ⟨currency,normalized,ok⟩ := okBind ok
    unfold pricingCurrency at normalized
    split at normalized
    · cases normalized
    · cases normalized
      unfold appliedRate
      rw [Option.getD_none]
      split
      · exact zero_lt_one
      · next foreign =>
        rw [if_neg foreign] at ok
        cases latest with
        | none => cases ok
        | some row =>
          obtain ⟨rate,rateOk,ok⟩ := okBind ok
          obtain ⟨_,positive,_⟩ := okBind rateOk
          exact demandOk positive

theorem cappedMono {input input' output output' : ℚ} (prompt : 0 ≤ policy.estimatedInputTokens)
    (completion : 0 ≤ policy.effectiveOutputTokens) (inputs : input ≤ input') (outputs : output ≤ output') :
    policy.capped input output ≤ policy.capped input' output' := by
  have promptCast : (0 : ℚ) ≤ policy.estimatedInputTokens := by exact_mod_cast prompt
  have completionCast : (0 : ℚ) ≤ policy.effectiveOutputTokens := by exact_mod_cast completion
  unfold Policy.capped
  gcongr

-- A price that is charged for some token fits, whatever the number of tokens.
theorem plainCostExact {tokens : Int} {price : ℚ} (nonneg : 0 ≤ tokens) (count : tokens < 10 ^ 28)
    (scaled : Scaled scale price) (below : tokens * price * 10 ^ scale < 10 ^ 28) :
    tokensToCost tokens price = tokens / 1000000 * price := by
  rcases nonneg.lt_or_eq with some | none
  · have positive : (1 : ℚ) ≤ tokens := by exact_mod_cast some
    have power : (0 : ℚ) < 10 ^ scale := by positivity
    have fits : price * 10 ^ scale < 10 ^ 28 := by
      have more := mul_le_mul_of_nonneg_right positive (mul_nonneg (Decimal.scaledNonneg scaled) power.le)
      linarith
    have same := costExact nonneg count scaled below
    rwa [decimalScaled scaled fits] at same
  · rw [← none,tokensToCostZero]
    simp

-- Amounts within the caps are estimated without rounding.
theorem plainNativeExact (estimated : PlainEstimated pricing policy fx latest estimate)
    (fits : Fitting (plainRates pricing policy) policy rate scale places) :
    estimate.estimatedTotalCostNative = (plainRates pricing policy).estimate policy / 1000000 ∧
      Scaled (6 + scale) ((plainRates pricing policy).estimate policy / 1000000) := by
  have prices := fits.prices
  simp only [List.mem_cons,List.not_mem_nil,or_false,forall_eq_or_imp,forall_eq] at prices
  have power : (0 : ℚ) < 10 ^ scale := by positivity
  have below : (plainRates pricing policy).estimate policy * 10 ^ scale < 10 ^ 28 := by
    have less : (plainRates pricing policy).estimate policy ≤ (plainRates pricing policy).most policy :=
      cappedMono fits.prompt.1 fits.completion.1 (le_max_left ..) (le_max_left ..)
    exact (mul_le_mul_of_nonneg_right less power.le).trans_lt fits.native
  have inputNonneg : 0 ≤ (policy.estimatedInputTokens : ℚ) * (plainRates pricing policy).input * 10 ^ scale :=
    mul_nonneg (mul_nonneg (by exact_mod_cast fits.prompt.1) (Decimal.scaledNonneg prices.1)) power.le
  have outputNonneg : 0 ≤ (policy.effectiveOutputTokens : ℚ) * (plainRates pricing policy).estimated * 10 ^ scale :=
    mul_nonneg (mul_nonneg (by exact_mod_cast fits.completion.1) (Decimal.scaledNonneg prices.2.2.2.2)) power.le
  have whole := below
  unfold PlainRates.estimate Policy.capped at whole
  rw [add_mul] at whole
  have inputCost := plainCostExact fits.prompt.1 fits.prompt.2 prices.1 (by linarith)
  have outputCost := plainCostExact fits.completion.1 fits.completion.2 prices.2.2.2.2 (by linarith)
  have sum : (policy.estimatedInputTokens : ℚ) / 1000000 * (plainRates pricing policy).input +
      policy.effectiveOutputTokens / 1000000 * (plainRates pricing policy).estimated =
      (plainRates pricing policy).estimate policy / 1000000 := by
    unfold PlainRates.estimate Policy.capped
    ring
  have scaled : Scaled (6 + scale) ((plainRates pricing policy).estimate policy / 1000000) := by
    rw [← sum]
    exact Decimal.scaledAdd (Decimal.scaledMul (tokensScaled fits.prompt.1) prices.1)
      (Decimal.scaledMul (tokensScaled fits.completion.1) prices.2.2.2.2)
  refine ⟨?_,scaled⟩
  rw [estimated.native,inputCost,outputCost,sum]
  refine decimalScaled scaled ?_
  have units := costUnits ((plainRates pricing policy).estimate policy) 1 scale
  rw [mul_one,mul_one] at units
  rw [units]
  exact below

def cachedCount (usage : ActualUsage) : Int := min (usage.cachedTokens.getD 0) usage.promptTokens

def reasoningCount (usage : ActualUsage) : Int := min (usage.reasoningTokens.getD 0) usage.completionTokens

theorem plainParts (counted : Counted usage) (silent : (audioOutputTokens usage.otherUsage).getD 0 = 0)
    (estimated : PlainEstimated pricing policy fx latest estimate) :
    ordinaryParts usage estimate pricing.inputPricePer1m pricing.outputPricePer1m =
      [⟨"input_uncached",usage.promptTokens - cachedCount usage,(plainRates pricing policy).input,1⟩,
        ⟨"input_cached",cachedCount usage,(plainRates pricing policy).cached,1⟩,
        ⟨"output_non_reasoning",usage.completionTokens - reasoningCount usage,(plainRates pricing policy).output,1⟩,
        ⟨"output_reasoning",reasoningCount usage,(plainRates pricing policy).reasoning,1⟩,
        ⟨"output_audio",0,pricing.audioOutputPricePer1m.getD pricing.outputPricePer1m,1⟩] := by
  have none : min (0 : Int) usage.completionTokens = 0 := min_eq_left counted.completion
  unfold ordinaryParts
  rw [silent,none,estimated.cached,estimated.reasoning,estimated.audio]
  simp only [sub_zero]
  rfl

theorem countsWithin (counted : Counted usage) : 0 ≤ cachedCount usage ∧ cachedCount usage ≤ usage.promptTokens ∧
    0 ≤ reasoningCount usage ∧ reasoningCount usage ≤ usage.completionTokens :=
  ⟨le_min counted.cached counted.prompt,min_le_right ..,le_min counted.reasoning counted.completion,min_le_right ..⟩

-- The bill before any rounding, in price units.
def PlainRates.bill (p : PlainRates) (usage : ActualUsage) : ℚ :=
  ((usage.promptTokens - cachedCount usage : ℤ) : ℚ) * p.input + (cachedCount usage : ℚ) * p.cached +
    ((usage.completionTokens - reasoningCount usage : ℤ) : ℚ) * p.output + (reasoningCount usage : ℚ) * p.reasoning

theorem billWithin (counted : Counted usage) (prompt : usage.promptTokens ≤ policy.estimatedInputTokens)
    (completion : usage.completionTokens ≤ policy.effectiveOutputTokens) (nonneg : 0 ≤ p.input ∧ 0 ≤ p.output) :
    p.bill usage ≤ p.worstBill policy := by
  obtain ⟨cached,cachedBelow,reasoning,reasoningBelow⟩ := countsWithin counted
  have first : (0 : ℚ) ≤ ((usage.promptTokens - cachedCount usage : ℤ) : ℚ) := by
    exact_mod_cast Int.sub_nonneg.mpr cachedBelow
  have second : (0 : ℚ) ≤ (cachedCount usage : ℚ) := by exact_mod_cast cached
  have third : (0 : ℚ) ≤ ((usage.completionTokens - reasoningCount usage : ℤ) : ℚ) := by
    exact_mod_cast Int.sub_nonneg.mpr reasoningBelow
  have fourth : (0 : ℚ) ≤ (reasoningCount usage : ℚ) := by exact_mod_cast reasoning
  have promptCast : (usage.promptTokens : ℚ) ≤ policy.estimatedInputTokens := by exact_mod_cast prompt
  have completionCast : (usage.completionTokens : ℚ) ≤ policy.effectiveOutputTokens := by exact_mod_cast completion
  have a := mul_le_mul_of_nonneg_left (le_max_left p.input p.cached) first
  have b := mul_le_mul_of_nonneg_left (le_max_right p.input p.cached) second
  have c := mul_le_mul_of_nonneg_left (le_max_left p.output p.reasoning) third
  have d := mul_le_mul_of_nonneg_left (le_max_right p.output p.reasoning) fourth
  have e := mul_le_mul_of_nonneg_right promptCast (nonneg.1.trans (le_max_left _ p.cached))
  have f := mul_le_mul_of_nonneg_right completionCast (nonneg.2.trans (le_max_left _ p.reasoning))
  unfold PlainRates.bill PlainRates.worstBill Policy.capped
  push_cast at a c ⊢
  linarith

theorem worstBelowMost (prompt : 0 ≤ policy.estimatedInputTokens) (completion : 0 ≤ policy.effectiveOutputTokens) :
    (plainRates pricing policy).worstBill policy ≤ (plainRates pricing policy).most policy :=
  cappedMono prompt completion (le_refl _) (max_le_max_right _ (audioAtLeast ..))

theorem exactBill (counted : Counted usage) (silent : (audioOutputTokens usage.otherUsage).getD 0 = 0)
    (estimated : PlainEstimated pricing policy fx latest estimate) :
    exactCost (ordinaryParts usage estimate pricing.inputPricePer1m pricing.outputPricePer1m) =
      (plainRates pricing policy).bill usage / 1000000 := by
  rw [plainParts counted silent estimated]
  unfold exactCost PlainRates.bill
  simp only [List.map_cons,List.map_nil,List.sum_cons,List.sum_nil]
  push_cast
  ring

-- A bill within the caps is summed without rounding.
theorem plainBillExact (counted : Counted usage) (silent : (audioOutputTokens usage.otherUsage).getD 0 = 0)
    (estimated : PlainEstimated pricing policy fx latest estimate)
    (fits : Fitting (plainRates pricing policy) policy rate scale places)
    (prompt : usage.promptTokens ≤ policy.estimatedInputTokens)
    (completion : usage.completionTokens ≤ policy.effectiveOutputTokens) :
    decimalSum ((ordinaryParts usage estimate pricing.inputPricePer1m pricing.outputPricePer1m).map fun part =>
        tokensToCost part.tokens part.price) = (plainRates pricing policy).bill usage / 1000000 ∧
      Scaled (6 + scale) ((plainRates pricing policy).bill usage / 1000000) := by
  have prices := fits.prices
  simp only [List.mem_cons,List.not_mem_nil,or_false,forall_eq_or_imp,forall_eq] at prices
  obtain ⟨cached,cachedBelow,reasoning,reasoningBelow⟩ := countsWithin counted
  have most := fits.prompt.2
  have most' := fits.completion.2
  have power : (0 : ℚ) < 10 ^ (6 + scale) := by positivity
  have shown := plainParts counted silent estimated
  have counts : ∀ part ∈ ordinaryParts usage estimate pricing.inputPricePer1m pricing.outputPricePer1m,
      0 ≤ part.tokens ∧ part.tokens < 10 ^ 28 ∧ part.tier = 1 ∧ (part.tokens = 0 ∨ Scaled scale part.price) := by
    rw [shown]
    simp only [List.mem_cons,List.not_mem_nil,or_false,forall_eq_or_imp,forall_eq]
    exact ⟨⟨by omega,by omega,trivial,.inr prices.1⟩,⟨cached,by omega,trivial,.inr prices.2.1⟩,
      ⟨by omega,by omega,trivial,.inr prices.2.2.1⟩,⟨reasoning,by omega,trivial,.inr prices.2.2.2.1⟩,
      le_refl _,by decide,trivial,.inl trivial⟩
  have scaled : ∀ part ∈ ordinaryParts usage estimate pricing.inputPricePer1m pricing.outputPricePer1m,
      Scaled (6 + scale) part.cost := by
    intro part mem
    obtain ⟨nonneg,_,tier,none | price⟩ := counts part mem
    · exact ⟨0,by simp [Part.cost,none]⟩
    · unfold Part.cost
      rw [tier,mul_one]
      exact Decimal.scaledMul (tokensScaled nonneg) price
  have total := exactBill counted silent estimated
  have below : exactCost (ordinaryParts usage estimate pricing.inputPricePer1m pricing.outputPricePer1m) *
      10 ^ (6 + scale) < 10 ^ 28 := by
    have inputs := Decimal.scaledNonneg prices.1
    have outputs := Decimal.scaledNonneg prices.2.2.1
    have within := (billWithin counted prompt completion ⟨inputs,outputs⟩).trans
      (worstBelowMost fits.prompt.1 fits.completion.1)
    have units := costUnits ((plainRates pricing policy).bill usage) 1 scale
    rw [mul_one,mul_one] at units
    rw [total,units]
    exact (mul_le_mul_of_nonneg_right within (by positivity)).trans_lt fits.native
  have costs : ((ordinaryParts usage estimate pricing.inputPricePer1m pricing.outputPricePer1m).map fun part =>
      tokensToCost part.tokens part.price) =
      (ordinaryParts usage estimate pricing.inputPricePer1m pricing.outputPricePer1m).map Part.cost := by
    apply List.map_congr_left
    intro part mem
    obtain ⟨nonneg,count,tier,none | price⟩ := counts part mem
    · rw [none,tokensToCostZero]
      simp [Part.cost,none]
    · have single := mul_le_mul_of_nonneg_right (partCost scaled mem) power.le
      unfold Part.cost at single ⊢
      rw [tier,mul_one] at single ⊢
      rw [costUnits] at single
      exact plainCostExact nonneg count price (single.trans_lt below)
  rw [costs,← total]
  exact costsExact scaled below

-- What a computed ordinary bill adds up to.
theorem plainBill (estimated : PlainEstimated pricing policy fx latest estimate)
    (tokenBilled : isFixedRequestModuleBilling kind endpoint = false) (nonneg : PlainPrices pricing)
    (ok : computeActualCost response kind usage estimate endpoint = .ok cost) :
    cost.slaifCalculatedCostNative = decimalSum ((ordinaryParts usage estimate pricing.inputPricePer1m
      pricing.outputPricePer1m).map fun part => tokensToCost part.tokens part.price) ∧ Source response cost ∧
    ∃ currency, convertEstimateNativeToEur cost.slaifCalculatedCostNative currency estimate =
      .ok cost.slaifCalculatedCostEur := by
  obtain ⟨currency,trusted,c,run⟩ := computedMeans tokenBilled ok
  have components := run.components
  unfold componentSlaifCosts at components
  rw [estimated.ordinary,if_neg Bool.false_ne_true] at components
  obtain ⟨input,output,inputOk,outputOk,_,_,costs⟩ := ordinaryMeans components
  rw [estimated.input,pricePer1mSome nonneg.input] at inputOk
  rw [estimated.output,pricePer1mSome nonneg.output] at outputOk
  cases inputOk
  cases outputOk
  refine ⟨?_,run.source,currency,run.eur⟩
  rw [run.native,costs,List.map_map]
  rfl

theorem convertedBill (nonneg : PlainPrices pricing) (estimated : PlainEstimated pricing policy fx latest estimate)
    (tokenBilled : isFixedRequestModuleBilling kind endpoint = false)
    (fits : Fitting (plainRates pricing policy) policy (appliedRate pricing fx latest) scale places)
    (charged : (plainRates pricing policy).estimate policy ≠ 0)
    (within : WithinCaps policy kind endpoint estimate response usage cost) :
    estimate.estimatedTotalCostEur =
        (plainRates pricing policy).estimate policy / 1000000 * appliedRate pricing fx latest ∧
      cost.actualCostEur = (plainRates pricing policy).bill usage / 1000000 * appliedRate pricing fx latest := by
  obtain ⟨native,totalScaled⟩ := plainNativeExact estimated fits
  have euros := eurMeans estimated.eur
  rw [native] at euros
  obtain ⟨total,source,currency,converted⟩ := plainBill estimated tokenBilled nonneg within.computed
  obtain ⟨bill,billScaled⟩ := plainBillExact within.counted within.silent estimated fits within.prompt within.completion
  rw [total,bill] at converted
  rw [chargedCalculated within.untrusted source]
  have prices := fits.prices
  simp only [List.mem_cons,List.not_mem_nil,or_false,forall_eq_or_imp,forall_eq] at prices
  have million : (0 : ℚ) ≤ 1000000 := by norm_num
  have units := costUnits ((plainRates pricing policy).most policy) 1 scale
  rw [mul_one,mul_one] at units
  have billBelow : (plainRates pricing policy).bill usage / 1000000 ≤ (plainRates pricing policy).most policy / 1000000 :=
    div_le_div_of_nonneg_right ((billWithin within.counted within.prompt within.completion
      ⟨Decimal.scaledNonneg prices.1,Decimal.scaledNonneg prices.2.2.1⟩).trans
      (worstBelowMost fits.prompt.1 fits.completion.1)) million
  have estimateBelow : (plainRates pricing policy).estimate policy / 1000000 ≤
      (plainRates pricing policy).most policy / 1000000 :=
    div_le_div_of_nonneg_right (cappedMono fits.prompt.1 fits.completion.1 (le_max_left ..) (le_max_left ..)) million
  refine convertedExact native euros billScaled totalScaled (div_ne_zero charged (by norm_num)) billBelow estimateBelow
    fits.converted ?_ converted
  rw [units]
  exact fits.eur

-- The whole prompt or completion moved to the dearer price.
def worstUsage (p : PlainRates) (policy : Policy) : ActualUsage :=
  ⟨policy.estimatedInputTokens,policy.effectiveOutputTokens,policy.estimatedInputTokens + policy.effectiveOutputTokens,
    some (if p.input ≤ p.cached then policy.estimatedInputTokens else 0),none,
    some (if p.output ≤ p.reasoning then policy.effectiveOutputTokens else 0),[]⟩

theorem worstCounted (prompt : 0 ≤ policy.estimatedInputTokens) (completion : 0 ≤ policy.effectiveOutputTokens) :
    Counted (worstUsage p policy) := by
  refine ⟨prompt,completion,le_refl _,?_,le_refl _,?_⟩
  · unfold worstUsage
    dsimp only [Option.getD_some]
    split
    · exact prompt
    · exact le_refl _
  · unfold worstUsage
    dsimp only [Option.getD_some]
    split
    · exact completion
    · exact le_refl _

theorem worstBilled (prompt : 0 ≤ policy.estimatedInputTokens) (completion : 0 ≤ policy.effectiveOutputTokens) :
    p.bill (worstUsage p policy) = p.worstBill policy := by
  have cached : (cachedCount (worstUsage p policy) : ℚ) * (p.cached - p.input) =
      policy.estimatedInputTokens * (max p.input p.cached - p.input) := by
    unfold cachedCount worstUsage
    dsimp only [Option.getD_some]
    split
    · next dearer => rw [min_self,max_eq_right dearer]
    · next cheaper => rw [min_eq_left prompt,max_eq_left (not_le.mp cheaper).le,sub_self,mul_zero,Int.cast_zero,zero_mul]
  have reasoning : (reasoningCount (worstUsage p policy) : ℚ) * (p.reasoning - p.output) =
      policy.effectiveOutputTokens * (max p.output p.reasoning - p.output) := by
    unfold reasoningCount worstUsage
    dsimp only [Option.getD_some]
    split
    · next dearer => rw [min_self,max_eq_right dearer]
    · next cheaper =>
      rw [min_eq_left completion,max_eq_left (not_le.mp cheaper).le,sub_self,mul_zero,Int.cast_zero,zero_mul]
  have prompts : (worstUsage p policy).promptTokens = policy.estimatedInputTokens := rfl
  have completions : (worstUsage p policy).completionTokens = policy.effectiveOutputTokens := rfl
  unfold PlainRates.bill PlainRates.worstBill Policy.capped
  rw [prompts,completions]
  push_cast
  linarith

theorem ordinaryRuns (nonneg : PlainPrices pricing) (estimated : PlainEstimated pricing policy fx latest estimate)
    (counted : Counted usage) (silent : (audioOutputTokens usage.otherUsage).getD 0 = 0) :
    ∃ c, ∀ trusted, componentSlaifCosts usage estimate trusted = .ok c := by
  have none : min (0 : Int) usage.completionTokens = 0 := min_eq_left counted.completion
  have priced : ∀ {value : Option ℚ} {price : ℚ} {param : String}, (∀ x ∈ value, 0 ≤ x) → 0 ≤ price →
      validatePrice (value.getD price) param = .ok () := by
    intro value price param each fallback
    refine requireTrue ?_ _
    cases value with
    | none => exact fallback
    | some x => exact each x rfl
  -- Without audio output the flag for unpriced audio is not read.
  have same : ∀ trusted, ordinaryComponents usage estimate trusted = ordinaryComponents usage estimate true := by
    intro trusted
    unfold ordinaryComponents
    rw [silent,none]
    simp only [ne_eq,not_true_eq_false,false_and,not_false_eq_true]
  have run : ∃ c, ordinaryComponents usage estimate true = .ok c := by
    unfold ordinaryComponents
    rw [estimated.input,pricePer1mSome nonneg.input,estimated.output,pricePer1mSome nonneg.output,estimated.cached,
      estimated.reasoning,estimated.audio,silent,none]
    simp only [bind,Except.bind]
    rw [requireTrue (by simp)]
    dsimp only
    rw [requireTrue (by simp)]
    dsimp only
    rw [priced nonneg.cached nonneg.input]
    dsimp only
    rw [priced nonneg.reasoning nonneg.output]
    dsimp only
    rw [requireTrue (by simp)]
    dsimp only
    rw [priced nonneg.audio nonneg.output]
    exact ⟨_,rfl⟩
  obtain ⟨c,components⟩ := run
  refine ⟨c,fun trusted => ?_⟩
  unfold componentSlaifCosts
  rw [estimated.ordinary,if_neg Bool.false_ne_true,same,components]

theorem ordinaryCharged (nonneg : PlainPrices pricing) (estimated : PlainEstimated pricing policy fx latest estimate)
    (tokenBilled : isFixedRequestModuleBilling kind endpoint = false) (counted : Counted usage)
    (silent : (audioOutputTokens usage.otherUsage).getD 0 = 0) (captured : ∀ rate ∈ fx, 0 < rate)
    (charged : 0 < estimate.estimatedTotalCostNative) :
    ∃ cost, computeActualCost response kind usage estimate endpoint = .ok cost := by
  obtain ⟨c,slaif⟩ := ordinaryRuns nonneg estimated counted silent
  refine computedRuns tokenBilled ?_ slaif fun currency => convertsIff.mpr ⟨⟨charged.le,?_⟩,fun zero => absurd zero charged.ne'⟩
  · rw [estimated.currency]
    exact nonneg.currency
  · rcases eurMeans estimated.eur with rounded | ⟨same,_⟩
    · rw [rounded]
      exact decimalNonneg (mul_nonneg charged.le (appliedPositive captured estimated.eur).le)
    · rw [same]
      exact charged.le

end Bills

section Bounds
variable {pricing : PricingLookupResult} {kind : Option String} {endpoint : String} {policy : Policy}
  {fx latest : Option ℚ} {estimate : ChatCostEstimate} {scale places : ℕ}

theorem plainBounds (nonneg : PlainPrices pricing) (estimated : PlainEstimated pricing policy fx latest estimate)
    (tokenBilled : isFixedRequestModuleBilling kind endpoint = false) (captured : ∀ rate ∈ fx, 0 < rate)
    (fits : Fitting (plainRates pricing policy) policy (appliedRate pricing fx latest) scale places)
    (covered : (plainRates pricing policy).estimate policy = 0 ∨
      (plainRates pricing policy).worstBill policy ≤ (plainRates pricing policy).estimate policy) {response : ProviderResponse}
    {usage : ActualUsage} {cost : ActualCost} (within : WithinCaps policy kind endpoint estimate response usage cost) :
    cost.actualCostEur ≤ estimate.estimatedTotalCostEur := by
  have rate := appliedPositive captured estimated.eur
  by_cases free : (plainRates pricing policy).estimate policy = 0
  · -- A free estimate charges nothing, and a bill that is not free is refused.
    obtain ⟨_,source,currency,converted⟩ := plainBill estimated tokenBilled nonneg within.computed
    have native := (plainNativeExact estimated fits).1
    rw [free,zero_div] at native
    rw [chargedCalculated within.untrusted source]
    refine freeEstimate native ?_ converted
    have euros := eurMeans estimated.eur
    rw [native] at euros
    rcases euros with rounded | ⟨same,_⟩
    · rw [rounded,zero_mul]
      exact (@Decimal.roundZero 28).ge
    · rw [same]
  · have prices := fits.prices
    simp only [List.mem_cons,List.not_mem_nil,or_false,forall_eq_or_imp,forall_eq] at prices
    obtain ⟨eur,bill⟩ := convertedBill nonneg estimated tokenBilled fits free within
    have most := (billWithin within.counted within.prompt within.completion
      ⟨Decimal.scaledNonneg prices.1,Decimal.scaledNonneg prices.2.2.1⟩).trans (covered.resolve_left free)
    rw [eur,bill]
    exact mul_le_mul_of_nonneg_right (div_le_div_of_nonneg_right most (by norm_num)) rate.le

theorem worstExceeds (nonneg : PlainPrices pricing) (estimated : PlainEstimated pricing policy fx latest estimate)
    (tokenBilled : isFixedRequestModuleBilling kind endpoint = false) (captured : ∀ rate ∈ fx, 0 < rate)
    (fits : Fitting (plainRates pricing policy) policy (appliedRate pricing fx latest) scale places)
    (charged : (plainRates pricing policy).estimate policy ≠ 0)
    (above : (plainRates pricing policy).estimate policy < (plainRates pricing policy).worstBill policy) :
    ∃ response usage cost, WithinCaps policy kind endpoint estimate response usage cost ∧
      estimate.estimatedTotalCostEur < cost.actualCostEur := by
  have counted := @worstCounted policy (plainRates pricing policy) fits.prompt.1 fits.completion.1
  have silent : (audioOutputTokens (worstUsage (plainRates pricing policy) policy).otherUsage).getD 0 = 0 := rfl
  obtain ⟨native,totalScaled⟩ := plainNativeExact estimated fits
  have total : 0 < estimate.estimatedTotalCostNative := by
    rw [native]
    exact lt_of_le_of_ne (Decimal.scaledNonneg totalScaled) (div_ne_zero charged (by norm_num)).symm
  obtain ⟨cost,computed⟩ := @ordinaryCharged pricing kind endpoint policy fx latest ⟨"openai",none,none,none⟩ estimate _
    nonneg estimated tokenBilled counted silent captured total
  have within : WithinCaps policy kind endpoint estimate ⟨"openai",none,none,none⟩
      (worstUsage (plainRates pricing policy) policy) cost :=
    ⟨.inr rfl,counted,silent,le_refl _,le_refl _,computed⟩
  obtain ⟨eur,bill⟩ := convertedBill nonneg estimated tokenBilled fits charged within
  refine ⟨_,_,cost,within,?_⟩
  rw [eur,bill,worstBilled fits.prompt.1 fits.completion.1]
  exact mul_lt_mul_of_pos_right (div_lt_div_of_pos_right above (by norm_num)) (appliedPositive captured estimated.eur)

-- Of all bills within the caps none exceeds the estimate exactly when the worst one does not.
theorem ordinaryEstimateBoundsIff {row : PricingRule} (accepted : pricingLookupResult row = .ok pricing)
    (ordinary : policy.codexLimitsApplied = false) (captured : ∀ rate ∈ fx, 0 < rate)
    (made : estimateChatCompletionCost pricing kind endpoint policy fx latest = .ok estimate)
    (fits : isFixedRequestModuleBilling kind endpoint = false →
      Fitting (plainRates pricing policy) policy (appliedRate pricing fx latest) scale places) :
    (∀ response usage cost, WithinCaps policy kind endpoint estimate response usage cost →
      cost.actualCostEur ≤ estimate.estimatedTotalCostEur) ↔
    isFixedRequestModuleBilling kind endpoint = true ∨ (plainRates pricing policy).estimate policy = 0 ∨
      (plainRates pricing policy).worstBill policy ≤ (plainRates pricing policy).estimate policy := by
  have nonneg := plainPrices accepted
  cases tokenBilled : isFixedRequestModuleBilling kind endpoint with
  | true => exact iff_of_true (fun _ _ _ within => (fixedEstimateCharged tokenBilled within.computed).le) (.inl rfl)
  | false =>
    have estimated := plainEstimated ordinary tokenBilled made
    have exact_ := fits tokenBilled
    constructor
    · intro bounded
      by_contra exceeding
      rw [not_or,not_or,not_le] at exceeding
      obtain ⟨_,charged,above⟩ := exceeding
      obtain ⟨response,usage,cost,within,more⟩ := worstExceeds nonneg estimated tokenBilled captured exact_ charged above
      exact more.not_ge (bounded response usage cost within)
    · rintro (fixed | covered) response usage cost within
      · cases fixed
      · exact plainBounds nonneg estimated tokenBilled captured exact_ covered within

def plainRow (cached : ℚ) : PricingRule :=
  { currency := "eur", inputPricePer1m := some 2, outputPricePer1m := some 4, cachedInputPricePer1m := some cached
    reasoningPricePer1m := some 4 }

def promptPolicy : Policy := { estimatedInputTokens := 1000000, effectiveOutputTokens := 0 }

theorem ordinaryEstimateBoundsDemo : ∃ pricing estimate, pricingLookupResult (plainRow (1/5)) = .ok pricing ∧
    estimateChatCompletionCost pricing none "chat.completions" promptPolicy none none = .ok estimate ∧
    ∀ response usage cost, WithinCaps promptPolicy none "chat.completions" estimate response usage cost →
      cost.actualCostEur ≤ estimate.estimatedTotalCostEur := by
  have run : ((pricingLookupResult (plainRow (1/5))).toOption.any fun pricing =>
      (estimateChatCompletionCost pricing none "chat.completions" promptPolicy none none).toOption.any fun _ =>
        pricing.currency = "EUR" && pricing.inputPricePer1m = 2 && pricing.cachedInputPricePer1m = some (1/5) &&
          pricing.outputPricePer1m = 4 && pricing.reasoningPricePer1m = some 4) = true := by
    decide +kernel
  obtain ⟨pricing,accepted,run⟩ := chargedAny run
  obtain ⟨estimate,made,run⟩ := chargedAny run
  simp only [Bool.and_eq_true,decide_eq_true_eq] at run
  obtain ⟨⟨⟨⟨currency,input⟩,cached⟩,output⟩,reasoning⟩ := run
  have rates : plainRates pricing promptPolicy = ⟨2,1/5,4,4,4⟩ := by
    unfold plainRates audioPrice
    rw [input,cached,output,reasoning]
    rfl
  have rate : appliedRate pricing none none = 1 := by
    have euro : (strip "EUR").map Char.toUpper = "EUR" := by decide +kernel
    unfold appliedRate
    rw [currency,if_pos euro]
    rfl
  refine ⟨pricing,estimate,accepted,made,
    (@ordinaryEstimateBoundsIff pricing none _ _ none none estimate 1 0 _ accepted rfl (by simp) made fun _ => ?_).mpr (.inr (.inr ?_))⟩
  · rw [rates,rate]
    refine ⟨?_,⟨1,by norm_num⟩,by decide,by decide,?_,?_⟩
    · simp only [List.mem_cons,List.not_mem_nil,or_false,forall_eq_or_imp,forall_eq]
      exact ⟨⟨20,by norm_num⟩,⟨2,by norm_num⟩,⟨40,by norm_num⟩,⟨40,by norm_num⟩,40,by norm_num⟩
    · norm_num [PlainRates.most,Policy.capped,promptPolicy]
    · norm_num [PlainRates.most,Policy.capped,promptPolicy]
  · rw [rates]
    norm_num [PlainRates.worstBill,PlainRates.estimate,Policy.capped,promptPolicy]

theorem cachedReadsExceedOrdinaryEstimate : ∃ pricing estimate usage cost, pricingLookupResult (plainRow 3) = .ok pricing ∧
    estimateChatCompletionCost pricing none "chat.completions" promptPolicy none none = .ok estimate ∧
    extractUsage plainRedaction (cachedResponse 1000000) = .ok usage ∧
    WithinCaps promptPolicy none "chat.completions" estimate (cachedResponse 1000000) usage cost ∧
    estimate.estimatedTotalCostEur = 2 ∧ cost.actualCostEur = 3 := by
  have run : ((pricingLookupResult (plainRow 3)).toOption.any fun pricing =>
      (estimateChatCompletionCost pricing none "chat.completions" promptPolicy none none).toOption.any fun estimate =>
      (extractUsage plainRedaction (cachedResponse 1000000)).toOption.any fun usage =>
      (computeActualCost (cachedResponse 1000000) none usage estimate "chat.completions").toOption.any fun cost =>
        usage.promptTokens = 1000000 && usage.completionTokens = 0 && (audioOutputTokens usage.otherUsage).getD 0 = 0 &&
          estimate.estimatedTotalCostEur = 2 && cost.actualCostEur = 3) = true := by
    decide +kernel
  obtain ⟨pricing,accepted,run⟩ := chargedAny run
  obtain ⟨estimate,made,run⟩ := chargedAny run
  obtain ⟨usage,extracted,run⟩ := chargedAny run
  obtain ⟨cost,computed,run⟩ := chargedAny run
  simp only [Bool.and_eq_true,decide_eq_true_eq] at run
  obtain ⟨⟨⟨⟨prompt,completion⟩,silent⟩,eur⟩,paid⟩ := run
  obtain ⟨_,_,facts⟩ := extractUsageMeans extracted
  exact ⟨pricing,estimate,usage,cost,accepted,made,extracted,
    ⟨.inr rfl,facts.counted,silent,prompt.le,completion.le,computed⟩,eur,paid⟩

end Bounds

end SlaifGateway.Billing
