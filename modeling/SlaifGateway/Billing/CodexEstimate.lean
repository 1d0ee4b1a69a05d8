import SlaifGateway.Billing.DetailLoss
import SlaifGateway.Billing.Pricing
import Mathlib.Algebra.Order.Archimedean.Basic

/-! The Codex estimate against the Codex bill. While no amount needs rounding the estimate bounds
every bill it was made for exactly when the cached-read price, which the estimate leaves out, is no
higher than the input price it takes. -/
namespace SlaifGateway.Billing
open Library Store
open Decimal (Digits Scaled)

section Exactness
variable {scale : ℕ}

theorem demandOk {condition : Prop} [Decidable condition] {e : PricingError} {u : Unit}
    (ok : demand condition e = .ok u) : condition := by
  unfold demand at ok
  split at ok
  · assumption
  · cases ok

theorem decimalExact {x : ℚ} (fits : Digits 28 x) : decimal x = x := Decimal.roundExact fits

theorem decimalDigits {x : ℚ} (nonneg : 0 ≤ x) : Digits 28 (decimal x) := Decimal.roundDigits (by decide) nonneg

theorem decimalScaled {x : ℚ} (scaled : Scaled scale x) (below : x * 10 ^ scale < 10 ^ 28) : decimal x = x :=
  decimalExact (Decimal.scaledDigits scaled below)

theorem tokensScaled {tokens : Int} (nonneg : 0 ≤ tokens) : Scaled 6 ((tokens : ℚ) / 1000000) := by
  obtain ⟨n,rfl⟩ := Int.eq_ofNat_of_zero_le nonneg
  refine ⟨n,?_⟩
  push_cast
  norm_num

-- Scaling a cost by the places of its tokens and of its price counts price units.
theorem costUnits (tokens price : ℚ) (scale : ℕ) :
    tokens / 1000000 * price * 10 ^ (6 + scale) = tokens * price * 10 ^ scale := by
  rw [pow_add]
  ring

-- Tokens at a price whose product fits are charged without rounding.
theorem costExact {tokens : Int} {price : ℚ} (nonneg : 0 ≤ tokens) (count : tokens < 10 ^ 28) (scaled : Scaled scale price)
    (below : tokens * price * 10 ^ scale < 10 ^ 28) :
    tokensToCost tokens (decimal price) = tokens / 1000000 * price := by
  rcases nonneg.lt_or_eq with some | none
  · have positive : (1 : ℚ) ≤ tokens := by exact_mod_cast some
    have priceNonneg := Decimal.scaledNonneg scaled
    have power : (0 : ℚ) < 10 ^ scale := by positivity
    have fits : price * 10 ^ scale < 10 ^ 28 := by
      have more : 1 * (price * 10 ^ scale) ≤ tokens * (price * 10 ^ scale) :=
        mul_le_mul_of_nonneg_right positive (by positivity)
      linarith
    have share := tokensScaled nonneg
    have shareFits : (tokens : ℚ) / 1000000 * 10 ^ 6 < 10 ^ 28 := by
      have cast : (tokens : ℚ) < 10 ^ 28 := by exact_mod_cast count
      norm_num at cast ⊢
      linarith
    have product := Decimal.scaledMul share scaled
    have productFits : (tokens : ℚ) / 1000000 * price * 10 ^ (6 + scale) < 10 ^ 28 := by
      rw [costUnits]
      exact below
    unfold tokensToCost
    rw [decimalScaled scaled fits,decimalScaled share shareFits,decimalScaled product productFits]
  · rw [← none,tokensToCostZero]
    simp

theorem sumExact {values : List ℚ} {start : ℚ} (origin : Scaled scale start) (scaled : ∀ x ∈ values, Scaled scale x)
    (below : (start + values.sum) * 10 ^ scale < 10 ^ 28) :
    values.foldl (fun total x => decimal (total + x)) start = start + values.sum := by
  induction values generalizing start with
  | nil => simp
  | cons x rest ih =>
    have first := scaled x (List.mem_cons_self ..)
    have others := fun y mem => scaled y (List.mem_cons_of_mem _ mem)
    have restNonneg : 0 ≤ rest.sum := List.sum_nonneg fun y mem => Decimal.scaledNonneg (others y mem)
    rw [List.sum_cons] at below ⊢
    have next := Decimal.scaledAdd origin first
    have power : (0 : ℚ) ≤ 10 ^ scale := by positivity
    have fits : (start + x) * 10 ^ scale < 10 ^ 28 := by
      have more : (start + x) * 10 ^ scale ≤ (start + (x + rest.sum)) * 10 ^ scale :=
        mul_le_mul_of_nonneg_right (by linarith) power
      linarith
    rw [List.foldl_cons,decimalScaled next fits,ih next others (by rw [add_assoc]; exact below)]
    ring

def Part.cost (p : Part) : ℚ := (p.tokens : ℚ) / 1000000 * (p.price * p.tier)

theorem scaledSum {values : List ℚ} (scaled : ∀ x ∈ values, Scaled scale x) : Scaled scale values.sum := by
  induction values with
  | nil => exact ⟨0,by simp⟩
  | cons x rest ih =>
    rw [List.sum_cons]
    exact Decimal.scaledAdd (scaled x (List.mem_cons_self ..)) (ih fun y mem => scaled y (List.mem_cons_of_mem _ mem))

theorem partCost {parts : List Part} (scaled : ∀ p ∈ parts, Scaled scale p.cost) {p : Part} (mem : p ∈ parts) :
    p.cost ≤ exactCost parts := by
  refine List.single_le_sum ?_ _ (List.mem_map_of_mem (f := Part.cost) mem)
  intro x inside
  obtain ⟨q,held,rfl⟩ := List.mem_map.mp inside
  exact Decimal.scaledNonneg (scaled q held)

-- Costs that fit together are summed without rounding.
theorem costsExact {parts : List Part} (scaled : ∀ p ∈ parts, Scaled scale p.cost)
    (below : exactCost parts * 10 ^ scale < 10 ^ 28) :
    decimalSum (parts.map Part.cost) = exactCost parts ∧ Scaled scale (exactCost parts) := by
  have members : ∀ x ∈ parts.map Part.cost, Scaled scale x := by
    intro x mem
    obtain ⟨p,inside,rfl⟩ := List.mem_map.mp mem
    exact scaled p inside
  have total := sumExact (⟨0,by simp⟩ : Scaled scale 0) members (by rw [zero_add]; exact below)
  unfold decimalSum
  rw [total,zero_add]
  exact ⟨rfl,scaledSum members⟩

theorem partsExact {parts : List Part} (counts : ∀ p ∈ parts, 0 ≤ p.tokens ∧ p.tokens < 10 ^ 28)
    (scaled : ∀ p ∈ parts, Scaled scale (p.price * p.tier)) (below : exactCost parts * 10 ^ (6 + scale) < 10 ^ 28) :
    decimalSum (parts.map fun p => tokensToCost p.tokens (p.rate true)) = exactCost parts ∧
      Scaled (6 + scale) (exactCost parts) := by
  have share : ∀ p ∈ parts, Scaled (6 + scale) p.cost := fun p mem =>
    Decimal.scaledMul (tokensScaled (counts p mem).1) (scaled p mem)
  have costs : (parts.map fun p => tokensToCost p.tokens (p.rate true)) = parts.map Part.cost := by
    apply List.map_congr_left
    intro p mem
    refine costExact (counts p mem).1 (counts p mem).2 (scaled p mem) ?_
    have single := mul_le_mul_of_nonneg_right (partCost share mem) (by positivity : (0 : ℚ) ≤ 10 ^ (6 + scale))
    have same := costUnits p.tokens (p.price * p.tier) scale
    unfold Part.cost at single
    linarith
  rw [costs]
  exact costsExact share below

end Exactness

section Rules

-- The complete Codex prices of a rule.
structure Rates where
  input : ℚ
  cached : ℚ
  cacheWrite : ℚ
  output : ℚ
  reasoning : ℚ
  longInput : ℚ
  longOutput : ℚ
  threshold : Int

def codexRates (pricing : PricingLookupResult) : Option Rates := do
  let cached ← pricing.cachedInputPricePer1m
  let cacheWrite ← pricing.cacheWriteInputPricePer1m
  let reasoning ← pricing.reasoningPricePer1m
  let longInput ← pricing.longContextInputMultiplier
  let longOutput ← pricing.longContextOutputMultiplier
  let threshold ← pricing.longContextThresholdTokens
  some ⟨pricing.inputPricePer1m,cached,cacheWrite,pricing.outputPricePer1m,reasoning,longInput,longOutput,threshold⟩

def Rates.estimatedInput (p : Rates) : ℚ := max p.input p.cacheWrite * max 1 p.longInput

def Rates.estimatedOutput (p : Rates) : ℚ := max p.output p.reasoning * max 1 p.longOutput

structure Rates.Of (p : Rates) (pricing : PricingLookupResult) : Prop where
  input : pricing.inputPricePer1m = p.input ∧ 0 ≤ p.input
  cached : pricing.cachedInputPricePer1m = some p.cached ∧ 0 ≤ p.cached
  cacheWrite : pricing.cacheWriteInputPricePer1m = some p.cacheWrite ∧ 0 ≤ p.cacheWrite
  output : pricing.outputPricePer1m = p.output ∧ 0 ≤ p.output
  reasoning : pricing.reasoningPricePer1m = some p.reasoning ∧ 0 ≤ p.reasoning
  longInput : pricing.longContextInputMultiplier = some p.longInput ∧ 0 < p.longInput
  longOutput : pricing.longContextOutputMultiplier = some p.longOutput ∧ 0 < p.longOutput
  threshold : pricing.longContextThresholdTokens = some p.threshold ∧ 0 < p.threshold
  audio : ∀ x ∈ pricing.audioOutputPricePer1m, 0 ≤ x
  currency : blank pricing.currency = false

theorem positiveDecimal {value : Document} {field : String} {x : ℚ} (ok : strictPositiveDecimalString value field = .ok x) :
    0 < x := by
  obtain ⟨parsed,_,ok⟩ := okBind ok
  obtain ⟨_,positive,ok⟩ := okBind ok
  cases ok
  exact demandOk positive

theorem nonNegativeDecimal {value : Document} {field : String} {x : ℚ}
    (ok : strictNonNegativeDecimalString value field = .ok x) : 0 ≤ x := by
  unfold strictNonNegativeDecimalString at ok
  dsimp only at ok
  split at ok
  · split at ok
    · cases ok
    · split at ok
      · cases ok
      · obtain ⟨_,nonneg,ok⟩ := okBind ok
        cases ok
        exact demandOk nonneg
  · cases ok

theorem cacheWriteNonneg {raw : Fields} {input : ℚ} {result : ℚ × Option ℚ} (nonneg : 0 ≤ input)
    (ok : cacheWritePrice raw input = .ok result) : 0 ≤ result.1 := by
  unfold cacheWritePrice at ok
  split at ok
  · obtain ⟨price,parsed,ok⟩ := okBind ok
    cases ok
    exact nonNegativeDecimal parsed
  · obtain ⟨multiplier,parsed,ok⟩ := okBind ok
    cases ok
    exact decimalNonneg (mul_nonneg nonneg (positiveDecimal parsed).le)

theorem optionalNonneg {value result : Option ℚ} {field : String} (ok : optionalNonNegativeDecimal value field = .ok result) :
    ∀ x ∈ result, 0 ≤ x := by
  obtain ⟨_,nonneg,ok⟩ := okBind ok
  cases ok
  exact demandOk nonneg

theorem requiredNonneg {value : Option ℚ} {field : String} {x : ℚ} (ok : requiredNonNegativeDecimal value field = .ok x) :
    0 ≤ x := by
  unfold requiredNonNegativeDecimal at ok
  split at ok
  · cases ok
  · obtain ⟨_,nonneg,ok⟩ := okBind ok
    cases ok
    exact demandOk nonneg

-- Every value of the Codex block is nonnegative, multipliers and threshold positive.
theorem codexMetadataMeans {metadata : Option Fields} {input : ℚ} {codex : CodexMetadata} (nonneg : 0 ≤ input)
    (ok : codexAccountingMetadata metadata input = .ok codex) :
    (∀ x ∈ codex.cacheWriteInputPricePer1m, 0 ≤ x) ∧ (∀ x ∈ codex.longContextInputMultiplier, 0 < x) ∧
      (∀ x ∈ codex.longContextOutputMultiplier, 0 < x) ∧ ∀ n ∈ codex.longContextThresholdTokens, 0 < n := by
  unfold codexAccountingMetadata at ok
  split at ok
  · cases ok
    simp
  · obtain ⟨_,_,ok⟩ := okBind ok
    obtain ⟨threshold,thresholdOk,ok⟩ := okBind ok
    obtain ⟨longInput,inputOk,ok⟩ := okBind ok
    obtain ⟨longOutput,outputOk,ok⟩ := okBind ok
    obtain ⟨⟨price,multiplier⟩,priceOk,ok⟩ := okBind ok
    cases ok
    have positive : 0 < threshold := by
      unfold longContextThreshold at thresholdOk
      dsimp only at thresholdOk
      split at thresholdOk
      · obtain ⟨_,positive,thresholdOk⟩ := okBind thresholdOk
        cases thresholdOk
        exact demandOk positive
      · cases thresholdOk
    simp only [Option.mem_def,Option.some.injEq,forall_eq']
    exact ⟨cacheWriteNonneg nonneg priceOk,positiveDecimal inputOk,positiveDecimal outputOk,positive⟩
  · cases ok

theorem upperSpaceless (c : Char) (plain : Store.isSpace c = false) : Store.isSpace c.toUpper = false := by
  unfold Char.toUpper
  split
  · next low =>
    have least : 97 ≤ c.toNat := low.1
    have most : c.toNat ≤ 122 := low.2
    have shown : ∀ n < 123, 97 ≤ n → Store.isSpace (Char.ofNat n).toUpper = false := by decide
    have same := shown c.toNat (Nat.lt_succ_of_le most) least
    rw [Char.ofNat_toNat] at same
    unfold Char.toUpper at same
    rw [dif_pos low] at same
    exact same
  · exact plain

theorem dropWhileKeeps {α : Type} {p : α → Bool} {l : List α} {a : α} (mem : a ∈ l) (kept : p a = false) : a ∈ l.dropWhile p := by
  induction l with
  | nil => cases mem
  | cons b rest ih =>
    rw [List.dropWhile_cons]
    split
    · next dropped =>
      rcases List.mem_cons.mp mem with rfl | later
      · rw [kept] at dropped
        cases dropped
      · exact ih later
    · exact mem

theorem upperFilled {s : String} (filled : blank s = false) : blank ((strip s).map Char.toUpper) = false := by
  unfold blank at filled ⊢
  obtain ⟨c,mem,plain⟩ := List.all_eq_false.mp filled
  rw [Bool.not_eq_true] at plain
  refine List.all_eq_false.mpr ⟨c.toUpper,?_,by rw [upperSpaceless c plain]; decide⟩
  unfold strip
  rw [String.toList_map,String.toList_ofList]
  refine List.mem_map_of_mem (List.mem_reverse.mpr (dropWhileKeeps (List.mem_reverse.mpr ?_) plain))
  exact dropWhileKeeps mem plain

theorem ratesOf {row : PricingRule} {pricing : PricingLookupResult} {p : Rates}
    (accepted : pricingLookupResult row = .ok pricing) (rates : codexRates pricing = some p) : p.Of pricing := by
  obtain ⟨currency,currencyOk,ok⟩ := okBind accepted
  obtain ⟨input,inputOk,ok⟩ := okBind ok
  obtain ⟨output,outputOk,ok⟩ := okBind ok
  obtain ⟨cached,cachedOk,ok⟩ := okBind ok
  obtain ⟨reasoning,reasoningOk,ok⟩ := okBind ok
  obtain ⟨audio,audioOk,ok⟩ := okBind ok
  obtain ⟨codex,codexOk,ok⟩ := okBind ok
  obtain ⟨request,requestOk,ok⟩ := okBind ok
  cases ok
  have inputNonneg := requiredNonneg inputOk
  obtain ⟨cacheWrites,longInputs,longOutputs,thresholds⟩ := codexMetadataMeans inputNonneg codexOk
  obtain ⟨cached,cachedIs,rates⟩ := Option.bind_eq_some_iff.mp rates
  obtain ⟨cacheWrite,cacheWriteIs,rates⟩ := Option.bind_eq_some_iff.mp rates
  obtain ⟨reasoning,reasoningIs,rates⟩ := Option.bind_eq_some_iff.mp rates
  obtain ⟨longInput,longInputIs,rates⟩ := Option.bind_eq_some_iff.mp rates
  obtain ⟨longOutput,longOutputIs,rates⟩ := Option.bind_eq_some_iff.mp rates
  obtain ⟨threshold,thresholdIs,rates⟩ := Option.bind_eq_some_iff.mp rates
  cases rates
  have filled : blank currency = false := by
    unfold pricingCurrency at currencyOk
    split at currencyOk
    · cases currencyOk
    · next filled =>
      cases currencyOk
      exact upperFilled (by simpa using filled)
  exact ⟨⟨rfl,inputNonneg⟩,⟨cachedIs,optionalNonneg cachedOk _ cachedIs⟩,⟨cacheWriteIs,cacheWrites _ cacheWriteIs⟩,
    ⟨rfl,requiredNonneg outputOk⟩,⟨reasoningIs,optionalNonneg reasoningOk _ reasoningIs⟩,
    ⟨longInputIs,longInputs _ longInputIs⟩,⟨longOutputIs,longOutputs _ longOutputIs⟩,
    ⟨thresholdIs,thresholds _ thresholdIs⟩,optionalNonneg audioOk,filled⟩

end Rules

section Bills

-- A request that was estimated, answered and charged: the response is not one whose own price is trusted.
structure Billed (pricing : PricingLookupResult) (kind : Option String) (endpoint : String) (policy : Policy)
    (fx latest : Option ℚ) (r : Redaction) (response : ProviderResponse) (estimate : ChatCostEstimate) (usage : ActualUsage)
    (cost : ActualCost) : Prop where
  codex : policy.codexLimitsApplied = true
  tokenBilled : isFixedRequestModuleBilling kind endpoint = false
  captured : ∀ rate ∈ fx, 0 < rate
  estimated : estimateChatCompletionCost pricing kind endpoint policy fx latest = .ok estimate
  untrusted : response.provider ≠ "openrouter" ∨ response.rawCostNative = none
  extracted : extractUsage r response = .ok usage
  computed : computeActualCost response kind usage estimate endpoint = .ok cost
  prompt : usage.promptTokens ≤ policy.estimatedInputTokens
  completion : usage.completionTokens ≤ policy.effectiveOutputTokens

def appliedRate (pricing : PricingLookupResult) (fx latest : Option ℚ) : ℚ :=
  fx.getD (if (strip pricing.currency).map Char.toUpper = "EUR" then 1 else latest.getD 1)

-- The output price of the estimate, the audio price included when audio is asked for.
def outputPrice (pricing : PricingLookupResult) (p : Rates) (policy : Policy) : ℚ :=
  audioPrice pricing (usesAudioOutput policy.effectiveBody) p.estimatedOutput

-- A million times the estimate before any rounding.
def exactEstimate (pricing : PricingLookupResult) (p : Rates) (policy : Policy) : ℚ :=
  (policy.estimatedInputTokens : ℚ) * p.estimatedInput + (policy.effectiveOutputTokens : ℚ) * outputPrice pricing p policy

-- Prices and rate have a last decimal place, and the estimate fits the 28 digits at that place.
structure Unrounded (pricing : PricingLookupResult) (p : Rates) (policy : Policy) (rate : ℚ) (scale places : ℕ) : Prop where
  inputs : ∀ x ∈ [p.input,p.cached,p.cacheWrite], Scaled scale x ∧ Scaled scale (x * p.longInput)
  outputs : ∀ x ∈ [p.output,p.reasoning], Scaled scale x ∧ Scaled scale (x * p.longOutput)
  output : Scaled scale (outputPrice pricing p policy)
  converted : Scaled places rate
  counts : policy.estimatedInputTokens < 10 ^ 28 ∧ policy.effectiveOutputTokens < 10 ^ 28
  native : exactEstimate pricing p policy * 10 ^ scale < 10 ^ 28
  eur : exactEstimate pricing p policy * 10 ^ scale * (rate * 10 ^ places) < 10 ^ 28

-- The estimate's input price covers cached reads, or the estimate is free.
def CachedCovered (pricing : PricingLookupResult) (p : Rates) : Prop :=
  decimal (p.cached * max 1 p.longInput) ≤ decimal p.estimatedInput ∨
    p.estimatedInput = 0 ∧ p.estimatedOutput = 0 ∧ pricing.audioOutputPricePer1m.getD 0 = 0

-- What a token estimate in Codex accounting holds.
structure Estimated (pricing : PricingLookupResult) (p : Rates) (policy : Policy) (fx latest : Option ℚ)
    (estimate : ChatCostEstimate) : Prop where
  codex : estimate.codexAccounting = true
  currency : estimate.nativeCurrency = pricing.currency
  input : estimate.inputPricePer1m = some p.input
  cached : estimate.cachedInputPricePer1m = some p.cached
  cacheWrite : estimate.cacheWriteInputPricePer1m = some p.cacheWrite
  output : estimate.outputPricePer1m = some p.output
  reasoning : estimate.reasoningPricePer1m = some p.reasoning
  longInput : estimate.longContextInputMultiplier = some p.longInput
  longOutput : estimate.longContextOutputMultiplier = some p.longOutput
  threshold : estimate.longContextThresholdTokens = some p.threshold
  native : estimate.estimatedTotalCostNative = decimal (tokensToCost policy.estimatedInputTokens (decimal p.estimatedInput) +
    tokensToCost policy.effectiveOutputTokens (audioPrice pricing (usesAudioOutput policy.effectiveBody)
      (decimal p.estimatedOutput)))
  eur : eurAmount estimate.estimatedTotalCostNative pricing.currency fx latest = .ok estimate.estimatedTotalCostEur

variable {pricing : PricingLookupResult} {p : Rates} {kind : Option String} {endpoint : String} {policy : Policy}
  {fx latest : Option ℚ} {r : Redaction} {response : ProviderResponse} {estimate : ChatCostEstimate} {usage : ActualUsage}
  {cost : ActualCost}

theorem codexEstimatePricesOf (of : p.Of pricing) :
    codexEstimatePrices pricing = .ok (decimal p.estimatedInput,decimal p.estimatedOutput) := by
  unfold codexEstimatePrices
  rw [of.cacheWrite.1,of.threshold.1,of.longInput.1,of.longOutput.1,of.reasoning.1,of.cached.1,of.input.1,of.output.1]
  rfl

theorem estimatedMeans (of : p.Of pricing) (codex : policy.codexLimitsApplied = true)
    (tokenBilled : isFixedRequestModuleBilling kind endpoint = false)
    (ok : estimateChatCompletionCost pricing kind endpoint policy fx latest = .ok estimate) :
    Estimated pricing p policy fx latest estimate := by
  unfold estimateChatCompletionCost at ok
  rw [tokenBilled,if_neg Bool.false_ne_true] at ok
  obtain ⟨_,_,ok⟩ := okBind ok
  obtain ⟨prices,pricesOk,ok⟩ := okBind ok
  unfold estimatePrices at pricesOk
  rw [codex,if_pos rfl,codexEstimatePricesOf of] at pricesOk
  cases pricesOk
  obtain ⟨eur,eurOk,ok⟩ := okBind ok
  cases ok
  exact ⟨codex,rfl,congrArg some of.input.1,of.cached.1,of.cacheWrite.1,congrArg some of.output.1,of.reasoning.1,
    of.longInput.1,of.longOutput.1,of.threshold.1,rfl,eurOk⟩

def inputTier (p : Rates) (usage : ActualUsage) : ℚ := if p.threshold < usage.promptTokens then p.longInput else 1

def outputTier (p : Rates) (usage : ActualUsage) : ℚ := if p.threshold < usage.promptTokens then p.longOutput else 1

theorem partsOf (estimated : Estimated pricing p policy fx latest estimate) :
    codexParts usage estimate p.input p.output =
      [⟨"input_uncached",usage.promptTokens - usage.cachedTokens.getD 0 - usage.cacheWriteTokens.getD 0,p.input,
          inputTier p usage⟩,
        ⟨"input_cached",usage.cachedTokens.getD 0,p.cached,inputTier p usage⟩,
        ⟨"input_cache_write",usage.cacheWriteTokens.getD 0,p.cacheWrite,inputTier p usage⟩,
        ⟨"output_non_reasoning",usage.completionTokens - usage.reasoningTokens.getD 0,p.output,outputTier p usage⟩,
        ⟨"output_reasoning",usage.reasoningTokens.getD 0,p.reasoning,outputTier p usage⟩,
        ⟨"output_audio",0,0,outputTier p usage⟩] := by
  unfold codexParts appliedTier inputTier outputTier
  rw [estimated.codex,estimated.threshold,estimated.longInput,estimated.longOutput,estimated.cached,estimated.cacheWrite,
    estimated.reasoning]
  simp [inputNames]

theorem tierBounds {multiplier : ℚ} (positive : 0 < multiplier) (long : Prop) [Decidable long] :
    0 ≤ (if long then multiplier else 1) ∧ (if long then multiplier else 1) ≤ max 1 multiplier := by
  split
  · exact ⟨positive.le,le_max_right ..⟩
  · exact ⟨zero_le_one,le_max_left ..⟩

theorem priceBelow {price top tier most : ℚ} (nonneg : 0 ≤ price) (below : price ≤ top) (tierNonneg : 0 ≤ tier)
    (tierBelow : tier ≤ most) : price * tier ≤ top * most :=
  mul_le_mul below tierBelow tierNonneg (nonneg.trans below)

theorem audioAtLeast (requested : Bool) (output : ℚ) : output ≤ audioPrice pricing requested output := by
  unfold audioPrice
  split
  · exact le_max_left ..
  · exact le_refl _

-- The parts of a bill within the estimated counts cost at most the estimate, before any rounding.
theorem billAtMost (of : p.Of pricing) (estimated : Estimated pricing p policy fx latest estimate) (counted : Counted usage)
    (inputs : usage.cachedTokens.getD 0 + usage.cacheWriteTokens.getD 0 ≤ usage.promptTokens)
    (outputs : usage.reasoningTokens.getD 0 ≤ usage.completionTokens)
    (covered : usage.cachedTokens.getD 0 ≠ 0 → p.cached * max 1 p.longInput ≤ p.estimatedInput) (prompt : usage.promptTokens ≤ policy.estimatedInputTokens)
    (completion : usage.completionTokens ≤ policy.effectiveOutputTokens) :
    exactCost (codexParts usage estimate p.input p.output) ≤ exactEstimate pricing p policy / 1000000 := by
  obtain ⟨tierNonneg,tierBelow⟩ := tierBounds of.longInput.2 (p.threshold < usage.promptTokens)
  obtain ⟨outTierNonneg,outTierBelow⟩ := tierBounds of.longOutput.2 (p.threshold < usage.promptTokens)
  have first : p.input * inputTier p usage ≤ p.estimatedInput := priceBelow of.input.2 (le_max_left ..) tierNonneg tierBelow
  have third : p.cacheWrite * inputTier p usage ≤ p.estimatedInput :=
    priceBelow of.cacheWrite.2 (le_max_right ..) tierNonneg tierBelow
  have least := @audioAtLeast pricing (usesAudioOutput policy.effectiveBody) p.estimatedOutput
  have fourth : p.output * outputTier p usage ≤ outputPrice pricing p policy :=
    (priceBelow of.output.2 (le_max_left ..) outTierNonneg outTierBelow).trans least
  have fifth : p.reasoning * outputTier p usage ≤ outputPrice pricing p policy :=
    (priceBelow of.reasoning.2 (le_max_right ..) outTierNonneg outTierBelow).trans least
  have inputNonneg : 0 ≤ p.estimatedInput := (mul_nonneg of.input.2 tierNonneg).trans first
  have outputNonneg : 0 ≤ outputPrice pricing p policy := (mul_nonneg of.output.2 outTierNonneg).trans fourth
  have plainCount : (0 : ℚ) ≤ ((usage.promptTokens - usage.cachedTokens.getD 0 - usage.cacheWriteTokens.getD 0 : ℤ) : ℚ) := by
    exact_mod_cast (by omega : 0 ≤ usage.promptTokens - usage.cachedTokens.getD 0 - usage.cacheWriteTokens.getD 0)
  have cachedCount : (0 : ℚ) ≤ ((usage.cachedTokens.getD 0 : ℤ) : ℚ) := by exact_mod_cast counted.cached
  have writeCount : (0 : ℚ) ≤ ((usage.cacheWriteTokens.getD 0 : ℤ) : ℚ) := by exact_mod_cast counted.cacheWrite
  have restCount : (0 : ℚ) ≤ ((usage.completionTokens - usage.reasoningTokens.getD 0 : ℤ) : ℚ) := by
    exact_mod_cast (by omega : 0 ≤ usage.completionTokens - usage.reasoningTokens.getD 0)
  have reasoningCount : (0 : ℚ) ≤ ((usage.reasoningTokens.getD 0 : ℤ) : ℚ) := by exact_mod_cast counted.reasoning
  have a := mul_le_mul_of_nonneg_left first plainCount
  have b : ((usage.cachedTokens.getD 0 : ℤ) : ℚ) * (p.cached * inputTier p usage) ≤
      ((usage.cachedTokens.getD 0 : ℤ) : ℚ) * p.estimatedInput := by
    by_cases none : usage.cachedTokens.getD 0 = 0
    · rw [none]
      simp
    · exact mul_le_mul_of_nonneg_left ((priceBelow of.cached.2 (le_refl _) tierNonneg tierBelow).trans (covered none))
        cachedCount
  have c := mul_le_mul_of_nonneg_left third writeCount
  have d := mul_le_mul_of_nonneg_left fourth restCount
  have e := mul_le_mul_of_nonneg_left fifth reasoningCount
  have promptCast : (usage.promptTokens : ℚ) ≤ policy.estimatedInputTokens := by exact_mod_cast prompt
  have completionCast : (usage.completionTokens : ℚ) ≤ policy.effectiveOutputTokens := by exact_mod_cast completion
  have f := mul_le_mul_of_nonneg_right promptCast inputNonneg
  have g := mul_le_mul_of_nonneg_right completionCast outputNonneg
  rw [partsOf estimated]
  unfold exactCost exactEstimate
  simp only [List.map_cons,List.map_nil,List.sum_cons,List.sum_nil]
  rw [le_div_iff₀ (by norm_num)]
  push_cast at a b c d e ⊢
  linarith

theorem scaledTier {scale : ℕ} {price multiplier : ℚ} (scaled : Scaled scale price ∧ Scaled scale (price * multiplier))
    (long : Prop) [Decidable long] : Scaled scale (price * if long then multiplier else 1) := by
  split
  · exact scaled.2
  · rw [mul_one]
    exact scaled.1

theorem scaledMax {scale : ℕ} {price price' multiplier : ℚ} (scaled : Scaled scale price ∧ Scaled scale (price * multiplier))
    (scaled' : Scaled scale price' ∧ Scaled scale (price' * multiplier)) :
    Scaled scale (max price price' * max 1 multiplier) := by
  have each : ∀ x, Scaled scale x ∧ Scaled scale (x * multiplier) → Scaled scale (x * max 1 multiplier) := by
    intro x both
    rcases max_choice 1 multiplier with one | long
    · rw [one,mul_one]
      exact both.1
    · rw [long]
      exact both.2
  rcases max_choice price price' with left | right
  · rw [left]
    exact each _ scaled
  · rw [right]
    exact each _ scaled'

variable {scale places : ℕ} {rate : ℚ}

-- Without rounding the native estimate is the exact one.
theorem nativeExact (estimated : Estimated pricing p policy fx latest estimate)
    (exact_ : Unrounded pricing p policy rate scale places) (inputCount : 0 ≤ policy.estimatedInputTokens)
    (outputCount : 0 ≤ policy.effectiveOutputTokens) :
    estimate.estimatedTotalCostNative = exactEstimate pricing p policy / 1000000 ∧
      Scaled (6 + scale) (exactEstimate pricing p policy / 1000000) ∧
      exactEstimate pricing p policy / 1000000 * 10 ^ (6 + scale) < 10 ^ 28 := by
  have inputs := exact_.inputs
  have outputs := exact_.outputs
  simp only [List.mem_cons,List.not_mem_nil,or_false,forall_eq_or_imp,forall_eq] at inputs outputs
  have inputScaled : Scaled scale p.estimatedInput := scaledMax inputs.1 inputs.2.2
  have outputScaled : Scaled scale p.estimatedOutput := scaledMax outputs.1 outputs.2
  have power : (0 : ℚ) < 10 ^ scale := by positivity
  have inputCast : (0 : ℚ) ≤ policy.estimatedInputTokens := by exact_mod_cast inputCount
  have outputCast : (0 : ℚ) ≤ policy.effectiveOutputTokens := by exact_mod_cast outputCount
  have inputNonneg := mul_nonneg inputCast (Decimal.scaledNonneg inputScaled)
  have outputNonneg := mul_nonneg outputCast (Decimal.scaledNonneg exact_.output)
  have whole := exact_.native
  unfold exactEstimate at whole ⊢
  rw [add_mul] at whole
  have inputShare := mul_nonneg inputNonneg power.le
  have outputShare := mul_nonneg outputNonneg power.le
  have inputCost := costExact inputCount exact_.counts.1 inputScaled (by linarith)
  have outputCost : tokensToCost policy.effectiveOutputTokens (audioPrice pricing (usesAudioOutput policy.effectiveBody)
      (decimal p.estimatedOutput)) = policy.effectiveOutputTokens / 1000000 * outputPrice pricing p policy := by
    rcases outputCount.lt_or_eq with some | none
    · have one : (1 : ℚ) ≤ policy.effectiveOutputTokens := by exact_mod_cast some
      have priceFits : outputPrice pricing p policy * 10 ^ scale < 10 ^ 28 := by
        have more := mul_le_mul_of_nonneg_right one (mul_nonneg (Decimal.scaledNonneg exact_.output) power.le)
        linarith
      have fits : p.estimatedOutput * 10 ^ scale < 10 ^ 28 := by
        have least := mul_le_mul_of_nonneg_right (@audioAtLeast pricing (usesAudioOutput policy.effectiveBody)
          p.estimatedOutput) power.le
        exact least.trans_lt priceFits
      have same := costExact outputCount exact_.counts.2 exact_.output (by linarith)
      rw [decimalScaled exact_.output priceFits] at same
      rw [decimalScaled outputScaled fits]
      exact same
    · rw [← none,tokensToCostZero]
      simp
  have sum : (policy.estimatedInputTokens : ℚ) / 1000000 * p.estimatedInput +
      policy.effectiveOutputTokens / 1000000 * outputPrice pricing p policy =
      (policy.estimatedInputTokens * p.estimatedInput + policy.effectiveOutputTokens * outputPrice pricing p policy) /
        1000000 := by
    ring
  have scaled : Scaled (6 + scale) ((policy.estimatedInputTokens * p.estimatedInput +
      policy.effectiveOutputTokens * outputPrice pricing p policy) / 1000000) := by
    rw [← sum]
    exact Decimal.scaledAdd (Decimal.scaledMul (tokensScaled inputCount) inputScaled)
      (Decimal.scaledMul (tokensScaled outputCount) exact_.output)
  have below : ((policy.estimatedInputTokens : ℚ) * p.estimatedInput +
      policy.effectiveOutputTokens * outputPrice pricing p policy) / 1000000 * 10 ^ (6 + scale) < 10 ^ 28 := by
    have same : ((policy.estimatedInputTokens : ℚ) * p.estimatedInput +
        policy.effectiveOutputTokens * outputPrice pricing p policy) / 1000000 * 10 ^ (6 + scale) =
        policy.estimatedInputTokens * p.estimatedInput * 10 ^ scale +
          policy.effectiveOutputTokens * outputPrice pricing p policy * 10 ^ scale := by
      rw [pow_add]
      ring
    rw [same]
    exact whole
  refine ⟨?_,scaled,below⟩
  rw [estimated.native,inputCost,outputCost,sum,decimalScaled scaled below]

theorem eurMeans {native eur : ℚ} (ok : eurAmount native pricing.currency fx latest = .ok eur) :
    eur = decimal (native * appliedRate pricing fx latest) ∨ eur = native ∧ appliedRate pricing fx latest = 1 := by
  unfold eurAmount at ok
  cases fx with
  | some rate =>
    cases ok
    exact .inl rfl
  | none =>
    obtain ⟨currency,normalized,ok⟩ := okBind ok
    unfold pricingCurrency at normalized
    split at normalized
    · cases normalized
    · cases normalized
      unfold appliedRate
      split at ok
      · next euro =>
        cases ok
        exact .inr ⟨rfl,if_pos euro⟩
      · next foreign =>
        cases latest with
        | none => cases ok
        | some row =>
          obtain ⟨rate,rateOk,ok⟩ := okBind ok
          obtain ⟨_,_,rateOk⟩ := okBind rateOk
          cases rateOk
          cases ok
          left
          rw [Option.getD_none,if_neg foreign]
          rfl

-- Without rounding the estimate and the bill are converted at one rate.
theorem convertedExact {native eur total top : ℚ} {currency : String}
    (totalIs : estimate.estimatedTotalCostNative = total)
    (euros : estimate.estimatedTotalCostEur = decimal (total * rate) ∨ estimate.estimatedTotalCostEur = total ∧ rate = 1)
    (scaled : Scaled scale native) (scaled' : Scaled scale total) (charged : total ≠ 0) (below : native ≤ top)
    (below' : total ≤ top) (rateScaled : Scaled places rate) (eurFits : top * 10 ^ scale * (rate * 10 ^ places) < 10 ^ 28)
    (ok : convertEstimateNativeToEur native currency estimate = .ok eur) :
    estimate.estimatedTotalCostEur = total * rate ∧ eur = native * rate := by
  have totalNonneg := Decimal.scaledNonneg scaled'
  have rateNonneg := Decimal.scaledNonneg rateScaled
  have power : (0 : ℚ) < 10 ^ scale := by positivity
  have place : (0 : ℚ) < 10 ^ places := by positivity
  have product : ∀ x, Scaled scale x → x ≤ top → decimal (x * rate) = x * rate := by
    intro x scaledX most
    refine decimalScaled (Decimal.scaledMul scaledX rateScaled) ?_
    have larger : x * rate * 10 ^ (scale + places) ≤ top * 10 ^ scale * (rate * 10 ^ places) := by
      rw [pow_add]
      have step := mul_le_mul_of_nonneg_right most (mul_nonneg rateNonneg (mul_nonneg power.le place.le))
      linarith
    exact larger.trans_lt eurFits
  have eurIs : estimate.estimatedTotalCostEur = total * rate := by
    rcases euros with rounded | ⟨same,one⟩
    · rw [rounded,product total scaled' below']
    · rw [same,one,mul_one]
  refine ⟨eurIs,?_⟩
  unfold convertEstimateNativeToEur at ok
  dsimp only at ok
  rw [totalIs,eurIs,if_neg charged] at ok
  split at ok
  · cases ok
  · split at ok
    · next euro =>
      cases ok
      rw [mul_right_eq_self₀.mp euro.2.symm |>.resolve_right charged,mul_one]
    · cases ok
      have least : 1 ≤ total * 10 ^ scale := by
        obtain ⟨n,rfl⟩ := scaled'
        rw [div_mul_cancel₀ _ power.ne']
        have some : n ≠ 0 := by
          rintro rfl
          exact charged (by simp)
        exact_mod_cast Nat.one_le_iff_ne_zero.mpr some
      have rateFits : rate * 10 ^ places < 10 ^ 28 := by
        have most : total * 10 ^ scale ≤ top * 10 ^ scale := mul_le_mul_of_nonneg_right below' power.le
        have step := mul_le_mul_of_nonneg_right (least.trans most) (mul_nonneg rateNonneg place.le)
        linarith
      rw [mul_div_cancel_left₀ _ charged,decimalScaled rateScaled rateFits,product native scaled below]

theorem convertedAtMost {native eur total : ℚ} {currency : String}
    (totalIs : estimate.estimatedTotalCostNative = total)
    (euros : estimate.estimatedTotalCostEur = decimal (total * rate) ∨ estimate.estimatedTotalCostEur = total ∧ rate = 1)
    (scaled : Scaled scale native) (scaled' : Scaled scale total) (charged : total ≠ 0) (below : native ≤ total)
    (rateScaled : Scaled places rate) (eurFits : total * 10 ^ scale * (rate * 10 ^ places) < 10 ^ 28)
    (ok : convertEstimateNativeToEur native currency estimate = .ok eur) : eur ≤ estimate.estimatedTotalCostEur := by
  obtain ⟨eurIs,billIs⟩ := convertedExact totalIs euros scaled scaled' charged below (le_refl _) rateScaled eurFits ok
  rw [eurIs,billIs]
  exact mul_le_mul_of_nonneg_right below (Decimal.scaledNonneg rateScaled)

-- The euros charged for a response whose own price is not trusted are the converted calculation.
theorem chargedCalculated (untrusted : response.provider ≠ "openrouter" ∨ response.rawCostNative = none)
    (source : Source response cost) : cost.actualCostEur = cost.slaifCalculatedCostEur := by
  cases source with
  | calculated _ _ eur => exact eur
  | reported _ provider native _ =>
    rcases untrusted with other | none
    · exact absurd provider other
    · rw [none] at native
      cases native

theorem freeEstimate (free : estimate.estimatedTotalCostNative = 0) {native eur : ℚ} {currency : String}
    (nonneg : 0 ≤ estimate.estimatedTotalCostEur) (ok : convertEstimateNativeToEur native currency estimate = .ok eur) :
    eur ≤ estimate.estimatedTotalCostEur := by
  unfold convertEstimateNativeToEur at ok
  dsimp only at ok
  rw [free] at ok
  split at ok
  · cases ok
  · rw [if_pos rfl] at ok
    split at ok
    · cases ok
      exact nonneg
    · cases ok

-- Where amounts fit, the rounded comparison of the rule is the exact one.
theorem coveredExact (covered : CachedCovered pricing p) (exact_ : Unrounded pricing p policy rate scale places)
    (charged : exactEstimate pricing p policy ≠ 0) (inputCount : 1 ≤ policy.estimatedInputTokens)
    (outputCount : 0 ≤ policy.effectiveOutputTokens) : p.cached * max 1 p.longInput ≤ p.estimatedInput := by
  have inputs := exact_.inputs
  simp only [List.mem_cons,List.not_mem_nil,or_false,forall_eq_or_imp,forall_eq] at inputs
  rcases covered with rounded | ⟨freeInput,freeOutput,freeAudio⟩
  · have scaled : Scaled scale (p.cached * max 1 p.longInput) := by
      have both := scaledMax inputs.2.1 inputs.2.1
      rwa [max_self] at both
    refine Decimal.scaledApart (by decide) (scaledMax inputs.1 inputs.2.2) scaled ?_ rounded
    have least : (1 : ℚ) ≤ policy.estimatedInputTokens := by exact_mod_cast inputCount
    have price := Decimal.scaledNonneg (scaledMax inputs.1 inputs.2.2)
    have outputShare : 0 ≤ (policy.effectiveOutputTokens : ℚ) * outputPrice pricing p policy :=
      mul_nonneg (by exact_mod_cast outputCount) (Decimal.scaledNonneg exact_.output)
    have whole := exact_.native
    unfold exactEstimate at whole
    have step : p.estimatedInput ≤ policy.estimatedInputTokens * p.estimatedInput := le_mul_of_one_le_left price least
    have total := mul_le_mul_of_nonneg_right (step.trans (le_add_of_nonneg_right outputShare))
      (by positivity : (0 : ℚ) ≤ 10 ^ scale)
    exact total.trans_lt whole
  · refine absurd ?_ charged
    unfold exactEstimate outputPrice audioPrice
    rw [freeInput,freeOutput]
    split
    · next priced =>
      rw [priced,Option.getD_some] at freeAudio
      rw [freeAudio,max_self]
      ring
    · ring

-- The bill of a usage within the estimate is summed without rounding and lies below it.
theorem billExact (of : p.Of pricing) (estimated : Estimated pricing p policy fx latest estimate) (counted : Counted usage)
    (inputs : usage.cachedTokens.getD 0 + usage.cacheWriteTokens.getD 0 ≤ usage.promptTokens)
    (outputs : usage.reasoningTokens.getD 0 ≤ usage.completionTokens) (covered : CachedCovered pricing p)
    (charged : exactEstimate pricing p policy ≠ 0) (exact_ : Unrounded pricing p policy rate scale places)
    (prompt : usage.promptTokens ≤ policy.estimatedInputTokens)
    (completion : usage.completionTokens ≤ policy.effectiveOutputTokens) :
    decimalSum ((codexParts usage estimate p.input p.output).map fun part => tokensToCost part.tokens (part.rate true)) ≤
        exactEstimate pricing p policy / 1000000 ∧
      Scaled (6 + scale) (decimalSum ((codexParts usage estimate p.input p.output).map fun part =>
        tokensToCost part.tokens (part.rate true))) := by
  have cachedNonneg := counted.cached
  have writeNonneg := counted.cacheWrite
  have reasoningNonneg := counted.reasoning
  have completionNonneg := counted.completion
  have most := exact_.counts.1
  have most' := exact_.counts.2
  have bill := billAtMost of estimated counted inputs outputs
    (fun some => coveredExact covered exact_ charged (by omega) (by omega)) prompt completion
  have scaledInputs := exact_.inputs
  have scaledOutputs := exact_.outputs
  simp only [List.mem_cons,List.not_mem_nil,or_false,forall_eq_or_imp,forall_eq] at scaledInputs scaledOutputs
  have fits : exactCost (codexParts usage estimate p.input p.output) * 10 ^ (6 + scale) < 10 ^ 28 := by
    refine (mul_le_mul_of_nonneg_right bill (by positivity)).trans_lt ?_
    have same := costUnits (exactEstimate pricing p policy) 1 scale
    rw [mul_one,mul_one] at same
    rw [same]
    exact exact_.native
  have parts := partsExact ?_ ?_ fits
  · rw [parts.1]
    exact ⟨bill,parts.2⟩
  · rw [partsOf estimated]
    simp only [List.mem_cons,List.not_mem_nil,or_false,forall_eq_or_imp,forall_eq]
    refine ⟨?_,?_,?_,?_,?_,?_⟩ <;> omega
  · rw [partsOf estimated]
    simp only [List.mem_cons,List.not_mem_nil,or_false,forall_eq_or_imp,forall_eq]
    exact ⟨scaledTier scaledInputs.1 _,scaledTier scaledInputs.2.1 _,scaledTier scaledInputs.2.2 _,
      scaledTier scaledOutputs.1 _,scaledTier scaledOutputs.2 _,⟨0,by simp⟩⟩

-- What a computed Codex bill adds up to.
theorem codexBill (estimated : Estimated pricing p policy fx latest estimate)
    (tokenBilled : isFixedRequestModuleBilling kind endpoint = false)
    (ok : computeActualCost response kind usage estimate endpoint = .ok cost) :
    (usage.cachedTokens.getD 0 + usage.cacheWriteTokens.getD 0 ≤ usage.promptTokens ∧
      usage.reasoningTokens.getD 0 ≤ usage.completionTokens) ∧
    cost.slaifCalculatedCostNative = decimalSum ((codexParts usage estimate p.input p.output).map fun part =>
      tokensToCost part.tokens (part.rate true)) ∧ Source response cost ∧
    ∃ currency, convertEstimateNativeToEur cost.slaifCalculatedCostNative currency estimate =
      .ok cost.slaifCalculatedCostEur := by
  obtain ⟨currency,trusted,c,run⟩ := computedMeans tokenBilled ok
  have components := run.components
  unfold componentSlaifCosts at components
  rw [estimated.codex,if_pos rfl] at components
  obtain ⟨input,_,_,output,_,_,_,accepted,_,costs⟩ := codexMeans estimated.codex components
  have inputIs : input = p.input := Option.some.inj (accepted.input.1.symm.trans estimated.input)
  have outputIs : output = p.output := Option.some.inj (accepted.output.1.symm.trans estimated.output)
  subst inputIs outputIs
  refine ⟨⟨accepted.inputs,accepted.outputs⟩,?_,run.source,currency,run.eur⟩
  rw [run.native,costs,List.map_map]
  rfl

theorem coveredBounds (of : p.Of pricing) (covered : CachedCovered pricing p)
    (billed : Billed pricing kind endpoint policy fx latest r response estimate usage cost)
    (exact_ : Unrounded pricing p policy (appliedRate pricing fx latest) scale places) :
    cost.actualCostEur ≤ estimate.estimatedTotalCostEur := by
  have estimated := estimatedMeans of billed.codex billed.tokenBilled billed.estimated
  obtain ⟨given,_,facts⟩ := extractUsageMeans billed.extracted
  obtain ⟨within,total,source,currency,converted⟩ := codexBill estimated billed.tokenBilled billed.computed
  have inputCount : 0 ≤ policy.estimatedInputTokens := facts.counted.prompt.trans billed.prompt
  have outputCount : 0 ≤ policy.effectiveOutputTokens := facts.counted.completion.trans billed.completion
  obtain ⟨native,totalScaled,_⟩ := nativeExact estimated exact_ inputCount outputCount
  have euros := eurMeans estimated.eur
  rw [native] at euros
  rw [chargedCalculated billed.untrusted source]
  by_cases free : exactEstimate pricing p policy = 0
  · rw [free,zero_div] at native euros
    refine freeEstimate native ?_ converted
    rcases euros with rounded | ⟨same,_⟩
    · rw [rounded,zero_mul]
      exact (@Decimal.roundZero 28).ge
    · rw [same]
  · obtain ⟨bill,billScaled⟩ := billExact of estimated facts.counted within.1 within.2 covered free exact_ billed.prompt
      billed.completion
    rw [← total] at bill billScaled
    have charged : exactEstimate pricing p policy / 1000000 ≠ 0 := div_ne_zero free (by norm_num)
    refine convertedAtMost native euros billScaled totalScaled charged bill exact_.converted ?_ converted
    have same := costUnits (exactEstimate pricing p policy) 1 scale
    rw [mul_one,mul_one] at same
    rw [same]
    exact exact_.eur

end Bills

section Overruns
variable {pricing : PricingLookupResult} {p : Rates} {policy : Policy} {estimate : ChatCostEstimate}

theorem millionDigits {tokens : Int} (j : ℕ) (power : tokens = 10 ^ j) : decimal ((tokens : ℚ) / 1000000) = 10 ^ ((j : ℤ) - 6) := by
  have same : (tokens : ℚ) / 1000000 = 10 ^ ((j : ℤ) - 6) := by
    rw [power,zpow_sub₀ (by norm_num),zpow_natCast]
    push_cast
    norm_num
  rw [same]
  exact decimalExact (Decimal.digitsTop (by decide) _)

-- A power of ten of tokens shifts the digits of the price.
theorem powerCost {price : ℚ} (j : ℕ) (fits : Digits 28 price) : tokensToCost (10 ^ j) price = price * 10 ^ ((j : ℤ) - 6) := by
  unfold tokensToCost
  rw [millionDigits j rfl,mul_comm]
  exact decimalExact (Decimal.digitsShift _ fits)

theorem zeroCost (tokens : Int) : tokensToCost tokens 0 = 0 := by
  unfold tokensToCost
  rw [mul_zero]
  exact Decimal.roundZero

theorem decimalPositive {x : ℚ} (positive : 0 < x) : 0 < decimal x := by
  refine lt_of_le_of_ne (decimalNonneg positive.le) fun zero => positive.ne' ?_
  exact (Decimal.roundZeroIff (by decide) positive.le).mp zero.symm

theorem estimateRuns (of : p.Of pricing) (codex : policy.codexLimitsApplied = true)
    (audio : usesAudioOutput policy.effectiveBody = true → pricing.audioOutputPricePer1m ≠ none) :
    ∃ estimate, estimateChatCompletionCost pricing none "responses" policy (some 1) none = .ok estimate := by
  have tokenBilled : isFixedRequestModuleBilling none "responses" = false := by decide +kernel
  unfold estimateChatCompletionCost
  rw [tokenBilled,if_neg Bool.false_ne_true]
  have allowed : ¬(usesAudioOutput policy.effectiveBody = true ∧ pricing.audioOutputPricePer1m = none) :=
    fun both => audio both.1 both.2
  have prices : estimatePrices pricing policy.codexLimitsApplied =
      .ok (decimal p.estimatedInput,decimal p.estimatedOutput) := by
    unfold estimatePrices
    rw [codex,if_pos rfl]
    exact codexEstimatePricesOf of
  unfold tokenEstimate demand
  dsimp only
  rw [if_pos allowed,prices]
  exact ⟨_,rfl⟩

def cachedUsage (tokens : Int) : Document :=
  .obj [(text "prompt_tokens",.int tokens),(text "completion_tokens",.int 0),(text "total_tokens",.int tokens),
    (text "cached_tokens",.int tokens)]

def cachedResponse (tokens : Int) : ProviderResponse :=
  { provider := "openai", usage := parseUsage [(text "usage",cachedUsage tokens)] }

theorem sumSingle {x : ℚ} (fits : Digits 28 x) : decimalSum [0,x,0,0,0,0] = x := by
  have zero : decimal 0 = 0 := Decimal.roundZero
  unfold decimalSum
  simp only [List.foldl_cons,List.foldl_nil,zero_add,add_zero,zero,decimalExact fits]

theorem sameEuros {native eur : ℚ} {currency : String} (positive : 0 < estimate.estimatedTotalCostNative)
    (same : estimate.estimatedTotalCostEur = estimate.estimatedTotalCostNative) (fits : Digits 28 native)
    (ok : convertEstimateNativeToEur native currency estimate = .ok eur) : eur = native := by
  have one : decimal 1 = 1 := decimalExact (by simpa using @Decimal.digitsTop 28 (by decide) 0)
  unfold convertEstimateNativeToEur at ok
  dsimp only at ok
  rw [same,div_self positive.ne',one,mul_one,decimalExact fits] at ok
  split at ok
  · cases ok
  · rw [if_neg positive.ne'] at ok
    split at ok
    · cases ok
      rfl
    · cases ok
      rfl

theorem cachedChargeable (of : p.Of pricing) {fx latest : Option ℚ} (estimated : Estimated pricing p policy fx latest estimate)
    {tokens : Int} (nonneg : 0 ≤ tokens) (positive : 0 < estimate.estimatedTotalCostNative)
    (euros : 0 ≤ estimate.estimatedTotalCostEur) {other : Fields} :
    Chargeable ⟨some tokens,some 0,some tokens,some tokens,none,none,other⟩ estimate p.input p.cached p.cacheWrite p.output
      p.reasoning p.longInput p.longOutput := by
  refine ⟨?_,?_,?_,?_,?_,⟨estimated.input,of.input.2⟩,⟨estimated.cached,of.cached.2⟩,
    ⟨estimated.cacheWrite,of.cacheWrite.2⟩,⟨estimated.output,of.output.2⟩,⟨estimated.reasoning,of.reasoning.2⟩,
    ⟨estimated.longInput,of.longInput.2.le⟩,⟨estimated.longOutput,of.longOutput.2.le⟩,?_,⟨positive.le,euros⟩,
    fun free => absurd free positive.ne'⟩
  · simp only [List.mem_cons,List.not_mem_nil,or_false,forall_eq_or_imp,forall_eq,Option.getD_some,Option.getD_none]
    omega
  · simp [totalOf]
  · simp
  · simp
  · rw [estimated.currency]
    exact of.currency
  · rw [estimated.threshold]
    exact of.threshold.2

-- A response whose whole prompt was read from the cache is charged the cached price of the tier.
theorem cachedBill (of : p.Of pricing) (codex : policy.codexLimitsApplied = true) (j : ℕ)
    (audio : usesAudioOutput policy.effectiveBody = true → pricing.audioOutputPricePer1m ≠ none)
    (prompt : 10 ^ j ≤ policy.estimatedInputTokens) (completion : 0 ≤ policy.effectiveOutputTokens) {native : ℚ}
    (nativeIs : decimal (tokensToCost policy.estimatedInputTokens (decimal p.estimatedInput) +
      tokensToCost policy.effectiveOutputTokens (audioPrice pricing (usesAudioOutput policy.effectiveBody)
        (decimal p.estimatedOutput))) = native) (positive : 0 < native) (nativeDigits : Digits 28 native) :
    ∃ estimate usage cost, Billed pricing none "responses" policy (some 1) none plainRedaction (cachedResponse (10 ^ j))
        estimate usage cost ∧ estimate.estimatedTotalCostEur = native ∧
      cost.actualCostEur = decimal (p.cached * if p.threshold < 10 ^ j then p.longInput else 1) * 10 ^ ((j : ℤ) - 6) := by
  have tokenBilled : isFixedRequestModuleBilling none "responses" = false := by decide +kernel
  obtain ⟨estimate,made⟩ := estimateRuns of codex audio
  have estimated := estimatedMeans of codex tokenBilled made
  have totalIs : estimate.estimatedTotalCostNative = native := estimated.native.trans nativeIs
  have eurIs : estimate.estimatedTotalCostEur = native := by
    have converted := estimated.eur
    change Except.ok (decimal (estimate.estimatedTotalCostNative * 1)) = _ at converted
    rw [totalIs,mul_one,decimalExact nativeDigits] at converted
    exact (Except.ok.inj converted).symm
  have charged : 0 < estimate.estimatedTotalCostNative := totalIs ▸ positive
  have chargeable := @cachedChargeable pricing p policy estimate of _ _ estimated (10 ^ j) (by positivity) charged
    (eurIs ▸ positive.le) ((cachedUsage (10 ^ j)).fields)
  obtain ⟨cost,run⟩ : ∃ cost,charge plainRedaction (cachedResponse (10 ^ j)) none estimate "responses" = .ok cost :=
    chargeableCharged estimated.codex rfl tokenBilled chargeable
  obtain ⟨usage,extracted,computed⟩ := okBind run
  obtain ⟨given,held,facts⟩ := extractUsageMeans extracted
  cases held
  have promptIs : usage.promptTokens = 10 ^ j := facts.prompt
  have completionIs : usage.completionTokens = 0 := facts.completion
  have cachedIs : usage.cachedTokens = some (10 ^ j) := facts.cached
  have writeIs : usage.cacheWriteTokens = none := facts.cacheWrite
  have reasoningIs : usage.reasoningTokens = none := facts.reasoning
  obtain ⟨_,total,source,currency,converted⟩ := codexBill estimated tokenBilled computed
  have untrusted : (cachedResponse (10 ^ j)).provider ≠ "openrouter" ∨ (cachedResponse (10 ^ j)).rawCostNative = none :=
    .inr rfl
  have cachedNonneg : 0 ≤ p.cached * if p.threshold < 10 ^ j then p.longInput else 1 :=
    mul_nonneg of.cached.2 (tierBounds of.longInput.2 _).1
  have fits := decimalDigits cachedNonneg
  have bill : cost.slaifCalculatedCostNative =
      decimal (p.cached * if p.threshold < 10 ^ j then p.longInput else 1) * 10 ^ ((j : ℤ) - 6) := by
    rw [total,partsOf estimated]
    simp only [List.map_cons,List.map_nil,promptIs,completionIs,cachedIs,writeIs,reasoningIs,
      Option.getD_some,Option.getD_none,sub_self,tokensToCostZero,inputTier,Part.rate,if_true]
    rw [powerCost j fits]
    exact sumSingle (Decimal.digitsShift _ fits)
  refine ⟨estimate,usage,cost,⟨codex,tokenBilled,by simp,made,untrusted,extracted,computed,?_,?_⟩,eurIs,?_⟩
  · rw [promptIs]
    exact prompt
  · rw [completionIs]
    exact completion
  · rw [chargedCalculated untrusted source]
    rw [bill] at converted
    exact sameEuros charged (eurIs.trans totalIs.symm) (Decimal.digitsShift _ fits) converted

def audioBody : Fields := [(text "modalities",.arr [.str (text "audio")])]

theorem uncoveredExceeds (of : p.Of pricing) (uncovered : ¬ CachedCovered pricing p) :
    ∃ policy response estimate usage cost,
      Billed pricing none "responses" policy (some 1) none plainRedaction response estimate usage cost ∧
      estimate.estimatedTotalCostEur < cost.actualCostEur := by
  unfold CachedCovered at uncovered
  rw [not_or,not_le] at uncovered
  obtain ⟨above,charged⟩ := uncovered
  have inputNonneg : 0 ≤ p.estimatedInput :=
    mul_nonneg (of.input.2.trans (le_max_left ..)) (zero_le_one.trans (le_max_left ..))
  have outputNonneg : 0 ≤ p.estimatedOutput :=
    mul_nonneg (of.output.2.trans (le_max_left ..)) (zero_le_one.trans (le_max_left ..))
  rcases inputNonneg.lt_or_eq with priced | free
  · -- A priced input: only the prompt is estimated, read from the cache at the tier of the estimate.
    have tier : ∃ j : ℕ, (if p.threshold < 10 ^ j then p.longInput else 1) = max 1 p.longInput := by
      rcases le_total 1 p.longInput with long | short
      · obtain ⟨j,beyond⟩ := pow_unbounded_of_one_lt p.threshold (by norm_num : (1 : Int) < 10)
        exact ⟨j,by rw [if_pos beyond,max_eq_right long]⟩
      · refine ⟨0,?_⟩
        have least := of.threshold.2
        rw [pow_zero,if_neg (by omega),max_eq_left short]
    obtain ⟨j,tierIs⟩ := tier
    have digits := decimalDigits inputNonneg
    have unit : (0 : ℚ) < 10 ^ ((j : ℤ) - 6) := zpow_pos (by norm_num) _
    obtain ⟨estimate,usage,cost,billed,eur,bill⟩ := @cachedBill pricing p
      { estimatedInputTokens := 10 ^ j, effectiveOutputTokens := 0, codexLimitsApplied := true } of rfl j
      (by intro used; cases used) (le_refl _) (le_refl _) (decimal p.estimatedInput * 10 ^ ((j : ℤ) - 6)) (by
        rw [powerCost j digits,tokensToCostZero,add_zero]
        exact decimalExact (Decimal.digitsShift _ digits)) (mul_pos (decimalPositive priced) unit)
      (Decimal.digitsShift _ digits)
    refine ⟨_,_,estimate,usage,cost,billed,?_⟩
    rw [eur,bill,tierIs]
    exact mul_lt_mul_of_pos_right above unit
  · -- A free input: one token of output is estimated, and the prompt grows until it costs more.
    have cachedPositive : 0 < p.cached := by
      refine lt_of_le_of_ne of.cached.2 fun zero => above.ne' ?_
      rw [← zero,zero_mul,← free]
    have body : ∃ body, usesAudioOutput body = pricing.audioOutputPricePer1m.isSome := by
      cases pricing.audioOutputPricePer1m with
      | none => exact ⟨[],rfl⟩
      | some x =>
        have uses : usesAudioOutput audioBody = true := by decide +kernel
        exact ⟨audioBody,uses⟩
    obtain ⟨body,usesIs⟩ := body
    have outputPositive : 0 < audioPrice pricing (usesAudioOutput body) (decimal p.estimatedOutput) := by
      rw [usesIs]
      unfold audioPrice
      have atLeast := decimalNonneg outputNonneg
      cases audioIs : pricing.audioOutputPricePer1m with
      | none =>
        have some : p.estimatedOutput ≠ 0 := fun zero => charged ⟨free.symm,zero,by rw [audioIs]; rfl⟩
        exact decimalPositive (lt_of_le_of_ne outputNonneg (Ne.symm some))
      | some price =>
        have priceNonneg := of.audio price audioIs
        by_cases zero : price = 0
        · have some : p.estimatedOutput ≠ 0 := fun none => charged ⟨free.symm,none,by rw [audioIs]; exact zero⟩
          exact lt_max_of_lt_left (decimalPositive (lt_of_le_of_ne outputNonneg (Ne.symm some)))
        · exact lt_max_of_lt_right (lt_of_le_of_ne priceNonneg (Ne.symm zero))
    have million : (0 : ℚ) < decimal ((1 : ℤ) / 1000000) := decimalPositive (by norm_num)
    have total := decimalPositive (mul_pos million outputPositive)
    have tierPositive := decimalPositive (mul_pos cachedPositive of.longInput.2)
    obtain ⟨j,beyond⟩ := pow_unbounded_of_one_lt (max (p.threshold : ℚ)
      (tokensToCost 1 (audioPrice pricing (usesAudioOutput body) (decimal p.estimatedOutput)) * 1000000 /
        decimal (p.cached * p.longInput))) (by norm_num : (1 : ℚ) < 10)
    have long : p.threshold < 10 ^ j := by exact_mod_cast (le_max_left ..).trans_lt beyond
    have costly := (le_max_right ..).trans_lt beyond
    rw [div_lt_iff₀ tierPositive] at costly
    have digits : Digits 28 (tokensToCost 1 (audioPrice pricing (usesAudioOutput body) (decimal p.estimatedOutput))) :=
      decimalDigits (mul_pos million outputPositive).le
    obtain ⟨estimate,usage,cost,billed,eur,bill⟩ := @cachedBill pricing p
      { estimatedInputTokens := 10 ^ j, effectiveOutputTokens := 1, effectiveBody := body, codexLimitsApplied := true } of rfl
      j (by intro used none; rw [used,none] at usesIs; cases usesIs) (le_refl _) zero_le_one
      (tokensToCost 1 (audioPrice pricing (usesAudioOutput body) (decimal p.estimatedOutput))) (by
        have zero : decimal 0 = 0 := Decimal.roundZero
        rw [← free,zero,zeroCost,zero_add]
        exact decimalExact digits) total digits
    refine ⟨_,_,estimate,usage,cost,billed,?_⟩
    rw [eur,bill,if_pos long,zpow_sub₀ (by norm_num),zpow_natCast]
    have shift : decimal (p.cached * p.longInput) * (10 ^ j / 10 ^ (6 : ℤ)) = 10 ^ j * decimal (p.cached * p.longInput) / 1000000 := by
      norm_num
      ring
    rw [shift,lt_div_iff₀ (by norm_num)]
    exact costly

-- The estimate bounds the bill of an unrounded request when its input price covers cached reads, and
-- for every other rule some bill exceeds its estimate.
theorem codexEstimateBounds {row : PricingRule} (accepted : pricingLookupResult row = .ok pricing)
    (rates : codexRates pricing = some p) :
    (CachedCovered pricing p → ∀ kind endpoint policy fx latest r response estimate usage cost scale places,
      Billed pricing kind endpoint policy fx latest r response estimate usage cost →
      Unrounded pricing p policy (appliedRate pricing fx latest) scale places →
      cost.actualCostEur ≤ estimate.estimatedTotalCostEur) ∧
    (¬ CachedCovered pricing p → ∃ kind endpoint policy fx latest r response estimate usage cost,
      Billed pricing kind endpoint policy fx latest r response estimate usage cost ∧
      estimate.estimatedTotalCostEur < cost.actualCostEur) := by
  have of := ratesOf accepted rates
  constructor
  · intro covered kind endpoint policy fx latest r response estimate usage cost scale places billed exact_
    exact coveredBounds of covered billed exact_
  · intro uncovered
    obtain ⟨policy,response,estimate,usage,cost,billed,exceeds⟩ := uncoveredExceeds of uncovered
    exact ⟨none,"responses",policy,some 1,none,plainRedaction,response,estimate,usage,cost,billed,exceeds⟩

def codexRow (cached : ℚ) : PricingRule :=
  { currency := "eur", inputPricePer1m := some 2, outputPricePer1m := some 4, cachedInputPricePer1m := some cached
    reasoningPricePer1m := some 4
    pricingMetadata := some [(text "codex_accounting",.obj [(text "long_context_threshold_tokens",.int 272000),
      (text "long_context_input_multiplier",.str (text "2.0")),(text "long_context_output_multiplier",.str (text "1.5")),
      (text "cache_write_input_multiplier",.str (text "1.25"))])] }

def millionPolicy : Policy :=
  { estimatedInputTokens := 1000000, effectiveOutputTokens := 0, codexLimitsApplied := true }

theorem codexEstimateBoundsDemo : ∃ pricing p, pricingLookupResult (codexRow (1/5)) = .ok pricing ∧
    codexRates pricing = some p ∧ CachedCovered pricing p ∧
    ∀ kind endpoint policy fx latest r response estimate usage cost scale places,
      Billed pricing kind endpoint policy fx latest r response estimate usage cost →
      Unrounded pricing p policy (appliedRate pricing fx latest) scale places →
      cost.actualCostEur ≤ estimate.estimatedTotalCostEur := by
  have run : ((pricingLookupResult (codexRow (1/5))).toOption.any fun pricing => (codexRates pricing).any fun p =>
      decide (decimal (p.cached * max 1 p.longInput) ≤ decimal p.estimatedInput)) = true := by
    decide +kernel
  obtain ⟨pricing,accepted,complete⟩ := chargedAny run
  cases rates : codexRates pricing with
  | none =>
    rw [rates] at complete
    cases complete
  | some p =>
  rw [rates] at complete
  have covered : decide (decimal (p.cached * max 1 p.longInput) ≤ decimal p.estimatedInput) = true := complete
  have bounded : CachedCovered pricing p := .inl (of_decide_eq_true covered)
  exact ⟨pricing,p,accepted,rates,bounded,(codexEstimateBounds accepted rates).1 bounded⟩

theorem cachedReadsExceedEstimate : ∃ pricing estimate usage cost, pricingLookupResult (codexRow 3) = .ok pricing ∧
    Billed pricing none "responses" millionPolicy none none plainRedaction (cachedResponse 1000000) estimate usage cost ∧
    estimate.estimatedTotalCostEur = 5 ∧ cost.actualCostEur = 6 := by
  have run : ((pricingLookupResult (codexRow 3)).toOption.any fun pricing =>
      (estimateChatCompletionCost pricing none "responses" millionPolicy none none).toOption.any fun estimate =>
      (extractUsage plainRedaction (cachedResponse 1000000)).toOption.any fun usage =>
      (computeActualCost (cachedResponse 1000000) none usage estimate "responses").toOption.any fun cost =>
        usage.promptTokens = 1000000 && usage.completionTokens = 0 && estimate.estimatedTotalCostEur = 5 &&
          cost.actualCostEur = 6) = true := by
    decide +kernel
  obtain ⟨pricing,accepted,run⟩ := chargedAny run
  obtain ⟨estimate,estimated,run⟩ := chargedAny run
  obtain ⟨usage,extracted,run⟩ := chargedAny run
  obtain ⟨cost,computed,run⟩ := chargedAny run
  simp only [Bool.and_eq_true,decide_eq_true_eq] at run
  obtain ⟨⟨⟨prompt,completion⟩,eur⟩,paid⟩ := run
  exact ⟨pricing,estimate,usage,cost,accepted,⟨rfl,by decide +kernel,by simp,estimated,.inr rfl,extracted,computed,
    prompt.le,completion.le⟩,eur,paid⟩

end Overruns

end SlaifGateway.Billing
