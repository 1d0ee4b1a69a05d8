import SlaifGateway.Billing.ComponentPartition

/-! What the sanitizer between the usage object and the price computation removes: every token detail
object, so audio output is never seen as audio and the Codex shape check has nothing to reject. -/
namespace SlaifGateway.Billing
open Library Store
open Decimal (Near roundingUnit)

section Dropped
variable (r : Redaction)

def detailFields : List String :=
  ["input_tokens_details","prompt_tokens_details","output_tokens_details","completion_tokens_details","audio_tokens"]

theorem detailSensitive : ∀ field ∈ detailFields, isSensitiveKey (text field) = true := by decide +kernel

theorem detailGone (raw : Fields) {field : String} (detail : field ∈ detailFields) :
    Fields.get (sanitizeMapping r true raw) (text field) = .null := sanitizedDrops r (detailSensitive field detail)

theorem audioGone (raw : Fields) : audioOutputTokens (sanitizeMapping r true raw) = none := by
  unfold audioOutputTokens nestedValue
  rw [detailGone r raw (by decide),detailGone r raw (by decide),detailGone r raw (by decide)]
  rfl

theorem shapeGone {usage : ActualUsage} {raw : Fields} (other : usage.otherUsage = sanitizeMapping r true raw) :
    validateCodexUsageDetailShape usage = .ok () := by
  have empty : ∀ field ∈ detailFields, ∀ dimensions malformed unknown,
      detailShape usage field dimensions malformed unknown = .ok [] := by
    intro field mem dimensions malformed unknown
    unfold detailShape
    rw [other,detailGone r raw mem]
  unfold validateCodexUsageDetailShape
  dsimp only
  rw [empty "input_tokens_details" (by decide),empty "prompt_tokens_details" (by decide),
    empty "output_tokens_details" (by decide),empty "completion_tokens_details" (by decide)]
  rfl

end Dropped

section Audio

-- The usage object reports so many audio output tokens in its details.
def ReportsAudio (raw : Fields) (k : Int) : Prop :=
  nestedValue raw "completion_tokens_details" "audio_tokens" = .int k ∨
    nestedValue raw "output_tokens_details" "audio_tokens" = .int k

-- The reported audio tokens are charged at the audio price and the rest at the text rates.
def BillsAudio (completion : Int) (estimate : ChatCostEstimate) (cost : ActualCost) (k : Int) : Prop :=
  ∃ price, estimate.audioOutputPricePer1m = some price ∧
    cost.componentTokenCounts.lookup "output_audio_tokens" = some (min k completion) ∧
    cost.componentCostsNative.lookup "output_audio" = some (tokensToCost (min k completion) price) ∧
    (cost.componentTokenCounts.lookup "output_non_reasoning_tokens").getD 0 +
      (cost.componentTokenCounts.lookup "output_reasoning_tokens").getD 0 = completion - min k completion

variable {r : Redaction} {response : ProviderResponse} {payload raw : Fields} {given : ProviderUsage} {usage : ActualUsage}
  {kind : Option String} {estimate : ChatCostEstimate} {endpoint : String} {cost : ActualCost} {k : Int}

theorem parsedOther (parsed : parseUsage payload = some given) : payload.get (text "usage") = .obj given.otherUsage := by
  unfold parseUsage at parsed
  split at parsed
  · next held =>
    cases parsed
    exact held
  · cases parsed

theorem unheardAudio {trusted : Bool} {c : Components} (counted : Counted usage)
    (silent : audioOutputTokens usage.otherUsage = none) (ok : componentSlaifCosts usage estimate trusted = .ok c) :
    c.tokens.lookup "output_audio_tokens" = some 0 ∧ c.costs.lookup "output_audio" = some 0 ∧
      (c.tokens.lookup "output_non_reasoning_tokens").getD 0 + (c.tokens.lookup "output_reasoning_tokens").getD 0 =
        usage.completionTokens := by
  unfold componentSlaifCosts at ok
  cases codex : estimate.codexAccounting with
  | true =>
    rw [codex,if_pos rfl] at ok
    obtain ⟨input,_,_,output,_,_,_,_,tokens,costs⟩ := codexMeans codex ok
    rw [tokens,costs]
    refine ⟨rfl,?_,?_⟩
    · change some (tokensToCost 0 _) = some 0
      rw [tokensToCostZero]
    · change usage.completionTokens - usage.reasoningTokens.getD 0 + usage.reasoningTokens.getD 0 = _
      omega
  | false =>
    rw [codex,if_neg Bool.false_ne_true] at ok
    obtain ⟨input,output,_,_,_,tokens,costs⟩ := ordinaryMeans ok
    have audio : min ((audioOutputTokens usage.otherUsage).getD 0) usage.completionTokens = 0 := by
      rw [silent]
      exact min_eq_left counted.completion
    rw [tokens,costs,ordinaryParts,audio]
    refine ⟨rfl,?_,?_⟩
    · change some (tokensToCost 0 _) = some 0
      rw [tokensToCostZero]
    · change usage.completionTokens - min (usage.reasoningTokens.getD 0) (usage.completionTokens - 0) - 0 +
        min (usage.reasoningTokens.getD 0) (usage.completionTokens - 0) = _
      omega

theorem audioBilledIff (parsed : parseUsage payload = some given) (reports : ReportsAudio given.otherUsage k)
    (positive : 0 < k) (usageIs : response.usage = some given) (tokenBilled : isFixedRequestModuleBilling kind endpoint = false)
    (extracted : extractUsage r response = .ok usage)
    (computed : computeActualCost response kind usage estimate endpoint = .ok cost) :
    BillsAudio usage.completionTokens estimate cost k ↔
      (∃ price, estimate.audioOutputPricePer1m = some price) ∧ given.completionTokens.getD 0 = 0 := by
  obtain ⟨found,held,facts⟩ := extractUsageMeans extracted
  rw [usageIs] at held
  cases held
  obtain ⟨currency,trusted,c,run⟩ := computedMeans tokenBilled computed
  have silent : audioOutputTokens usage.otherUsage = none := by
    rw [facts.other]
    exact audioGone r _
  obtain ⟨tokens,costs,rest⟩ := unheardAudio facts.counted silent run.components
  have completion := facts.counted.completion
  constructor
  · rintro ⟨price,priced,counted,_,_⟩
    rw [run.tokens,tokens] at counted
    have none := Option.some.inj counted
    refine ⟨⟨price,priced⟩,?_⟩
    rw [← facts.completion]
    omega
  · rintro ⟨⟨price,priced⟩,none⟩
    have zero : usage.completionTokens = 0 := by rw [facts.completion,none]
    have least : min k usage.completionTokens = 0 := by omega
    refine ⟨price,priced,?_,?_,?_⟩
    · rw [run.tokens,tokens,least]
    · rw [run.costs,costs,least,tokensToCostZero]
    · rw [run.tokens,rest,least]
      omega

def audioUsage (completion : Int) : Document :=
  .obj [(text "prompt_tokens",.int 10),(text "completion_tokens",.int completion),(text "total_tokens",.int (10 + completion)),
    (text "completion_tokens_details",.obj [(text "audio_tokens",.int 4)])]

def audioResponse (completion : Int) : ProviderResponse :=
  { provider := "openai", usage := parseUsage [(text "usage",audioUsage completion)] }

def audioEstimate : ChatCostEstimate := { demoEstimate with audioOutputPricePer1m := some 40 }

theorem audioBilledSilence : ∃ given usage cost, parseUsage [(text "usage",audioUsage 0)] = some given ∧
    ReportsAudio given.otherUsage 4 ∧ extractUsage plainRedaction (audioResponse 0) = .ok usage ∧
    computeActualCost (audioResponse 0) none usage audioEstimate "chat.completions" = .ok cost ∧
    (BillsAudio usage.completionTokens audioEstimate cost 4 ↔
      (∃ price, audioEstimate.audioOutputPricePer1m = some price) ∧ given.completionTokens.getD 0 = 0) := by
  have run : ((extractUsage plainRedaction (audioResponse 0)).toOption.any fun usage =>
      (computeActualCost (audioResponse 0) none usage audioEstimate "chat.completions").toOption.isSome) = true := by
    decide +kernel
  obtain ⟨usage,extracted,computed⟩ := chargedAny run
  obtain ⟨cost,ok⟩ := chargedSome computed
  have parsed : parseUsage [(text "usage",audioUsage 0)] = some _ := rfl
  exact ⟨_,usage,cost,parsed,.inl rfl,extracted,ok,
    audioBilledIff parsed (.inl rfl) (by decide) rfl (by decide +kernel) extracted ok⟩

theorem audioBilledAsText : ∃ given usage cost, parseUsage [(text "usage",audioUsage 10)] = some given ∧
    ReportsAudio given.otherUsage 4 ∧ extractUsage plainRedaction (audioResponse 10) = .ok usage ∧
    computeActualCost (audioResponse 10) none usage audioEstimate "chat.completions" = .ok cost ∧
    ¬ BillsAudio usage.completionTokens audioEstimate cost 4 := by
  have run : ((extractUsage plainRedaction (audioResponse 10)).toOption.any fun usage => usage.completionTokens = 10 &&
      (computeActualCost (audioResponse 10) none usage audioEstimate "chat.completions").toOption.any fun cost =>
        cost.componentTokenCounts.lookup "output_audio_tokens" = some 0) = true := by
    decide +kernel
  obtain ⟨usage,extracted,facts⟩ := chargedAny run
  rw [Bool.and_eq_true,decide_eq_true_eq] at facts
  obtain ⟨cost,ok,counted⟩ := chargedAny facts.2
  refine ⟨_,usage,cost,rfl,.inl rfl,extracted,ok,?_⟩
  rintro ⟨price,_,tokens,_,_⟩
  rw [decide_eq_true_eq.mp counted,facts.1] at tokens
  cases tokens

end Audio

section Codex

-- A dimension outside the recognised set, or one dimension told twice with different values.
def UnknownDimension (raw : Fields) : Prop :=
  (∃ field ∈ ["input_tokens_details","prompt_tokens_details"], ∃ key ∈ (raw.get (text field)).fields.keys,
    key ≠ text "cached_tokens" ∧ key ≠ text "cache_write_tokens") ∨
  ∃ field ∈ ["output_tokens_details","completion_tokens_details"], ∃ key ∈ (raw.get (text field)).fields.keys,
    key ≠ text "reasoning_tokens"

def Contradicts (raw : Fields) : Prop :=
  ∃ first second dimension, ((first,second) = ("input_tokens_details","prompt_tokens_details") ∧
      dimension ∈ ["cached_tokens","cache_write_tokens"] ∨
      (first,second) = ("output_tokens_details","completion_tokens_details") ∧ dimension = "reasoning_tokens") ∧
    ∃ a b, (raw.get (text first)).fields.get? (text dimension) = some a ∧
      (raw.get (text second)).fields.get? (text dimension) = some b ∧ sameValue a b = false

def charge (r : Redaction) (response : ProviderResponse) (kind : Option String) (estimate : ChatCostEstimate)
    (endpoint : String) : Charged ActualCost := do
  let usage ← extractUsage r response
  computeActualCost response kind usage estimate endpoint

def typedUsage (given : ProviderUsage) (total : Int) : ActualUsage :=
  ⟨given.promptTokens.getD 0,given.completionTokens.getD 0,total,given.cachedTokens,given.cacheWriteTokens,
    given.reasoningTokens,[]⟩

-- Everything else the Codex computation checks, on the typed counts and the estimate alone.
structure Chargeable (given : ProviderUsage) (estimate : ChatCostEstimate) (input cached cacheWrite output reasoning inputTier
    outputTier : ℚ) : Prop where
  counts : ∀ count ∈ [given.promptTokens,given.completionTokens,given.totalTokens,given.cachedTokens,
    given.cacheWriteTokens,given.reasoningTokens], 0 ≤ count.getD 0
  total : totalOf given.promptTokens given.completionTokens given.totalTokens =
    .ok (given.promptTokens.getD 0 + given.completionTokens.getD 0)
  inputs : given.cachedTokens.getD 0 + given.cacheWriteTokens.getD 0 ≤ given.promptTokens.getD 0
  outputs : given.reasoningTokens.getD 0 ≤ given.completionTokens.getD 0
  currency : blank estimate.nativeCurrency = false
  inputPriced : estimate.inputPricePer1m = some input ∧ 0 ≤ input
  cachedPriced : estimate.cachedInputPricePer1m = some cached ∧ 0 ≤ cached
  cacheWritePriced : estimate.cacheWriteInputPricePer1m = some cacheWrite ∧ 0 ≤ cacheWrite
  outputPriced : estimate.outputPricePer1m = some output ∧ 0 ≤ output
  reasoningPriced : estimate.reasoningPricePer1m = some reasoning ∧ 0 ≤ reasoning
  inputTierPriced : estimate.longContextInputMultiplier = some inputTier ∧ 0 ≤ inputTier
  outputTierPriced : estimate.longContextOutputMultiplier = some outputTier ∧ 0 ≤ outputTier
  threshold : 0 < estimate.longContextThresholdTokens.getD 0
  totals : 0 ≤ estimate.estimatedTotalCostNative ∧ 0 ≤ estimate.estimatedTotalCostEur
  priced : estimate.estimatedTotalCostNative = 0 → exactCost (codexParts (typedUsage given
    (given.promptTokens.getD 0 + given.completionTokens.getD 0)) estimate input output) = 0

variable {r : Redaction} {response : ProviderResponse} {payload : Fields} {given : ProviderUsage} {usage : ActualUsage}
  {kind : Option String} {estimate : ChatCostEstimate} {endpoint : String} {cost : ActualCost}
  {input cached cacheWrite output reasoning inputTier outputTier : ℚ}

theorem partsTyped {total : Int} (facts : Extracted r given usage) (sum : usage.totalTokens = total) :
    codexParts (typedUsage given total) estimate input output = codexParts usage estimate input output := by
  unfold codexParts typedUsage appliedTier
  dsimp only
  rw [← facts.prompt,← facts.completion,facts.cached,facts.cacheWrite,facts.reasoning]

theorem nearZero {exact_ value : ℚ} (near : Near (roundingUnit 28) 9 exact_ value) (nonneg : 0 ≤ exact_) :
    value = 0 ↔ exact_ = 0 := by
  have small : roundingUnit 28 < 1 := by
    unfold roundingUnit
    norm_num
  have factor : 0 < (1 - roundingUnit 28) ^ 9 := pow_pos (by linarith) 9
  constructor
  · intro zero
    have lower := near.1
    rw [zero] at lower
    by_contra other
    have positive : 0 < exact_ := lt_of_le_of_ne nonneg (Ne.symm other)
    have product := mul_pos positive factor
    linarith
  · intro zero
    have lower := near.1
    have upper := near.2
    rw [zero,zero_mul] at lower upper
    exact le_antisymm upper lower

theorem convertsIff {native : ℚ} {currency : String} : (∃ eur, convertEstimateNativeToEur native currency estimate = .ok eur) ↔
    (0 ≤ estimate.estimatedTotalCostNative ∧ 0 ≤ estimate.estimatedTotalCostEur) ∧
      (estimate.estimatedTotalCostNative = 0 → native = 0) := by
  unfold convertEstimateNativeToEur
  dsimp only
  split
  · next negative =>
    refine iff_of_false (by simp) ?_
    rintro ⟨⟨first,second⟩,_⟩
    exact negative.elim (not_lt.mpr first) (not_lt.mpr second)
  · next totals =>
    have nonneg := not_or.mp totals
    rw [not_lt,not_lt] at nonneg
    split
    · next zero =>
      split
      · next free => exact iff_of_true ⟨0,rfl⟩ ⟨nonneg,fun _ => free⟩
      · next priced => exact iff_of_false (by simp) (fun facts => priced (facts.2 zero))
    · next charged =>
      refine iff_of_true ?_ ⟨nonneg,fun zero => absurd zero charged⟩
      split
      · exact ⟨native,rfl⟩
      · exact ⟨_,rfl⟩

theorem chargedChargeable (codex : estimate.codexAccounting = true) (usageIs : response.usage = some given)
    (tokenBilled : isFixedRequestModuleBilling kind endpoint = false)
    (ok : charge r response kind estimate endpoint = .ok cost) :
    ∃ input cached cacheWrite output reasoning inputTier outputTier,
      Chargeable given estimate input cached cacheWrite output reasoning inputTier outputTier := by
  obtain ⟨usage,extracted,ok⟩ := okBind ok
  obtain ⟨found,held,facts⟩ := extractUsageMeans extracted
  rw [usageIs] at held
  cases held
  obtain ⟨currency,trusted,c,run⟩ := computedMeans tokenBilled ok
  have components := run.components
  unfold componentSlaifCosts at components
  rw [codex,if_pos rfl] at components
  have counted := facts.counted
  obtain ⟨input,cached,cacheWrite,output,reasoning,inputTier,outputTier,accepted,partition⟩ :=
    codexPartition codex counted components
  have totalIs : usage.totalTokens = given.promptTokens.getD 0 + given.completionTokens.getD 0 := by
    rw [← facts.prompt,← facts.completion]
    exact accepted.total.symm
  have notBlank : blank estimate.nativeCurrency = false := by
    have normalized := run.normalized
    unfold normalizeCurrency at normalized
    split at normalized
    · cases normalized
    · next filled => simpa using filled
  obtain ⟨totals,free⟩ := convertsIff.mp ⟨_,run.eur⟩
  refine ⟨input,cached,cacheWrite,output,reasoning,inputTier,outputTier,?_,?_,?_,?_,notBlank,accepted.input,
    accepted.cached,accepted.cacheWrite,accepted.output,accepted.reasoning,accepted.inputTier,accepted.outputTier,
    accepted.threshold,totals,?_⟩
  · have prompt := counted.prompt
    have completion := counted.completion
    have cachedNonneg := counted.cached
    have writeNonneg := counted.cacheWrite
    have reasoningNonneg := counted.reasoning
    rw [facts.prompt] at prompt
    rw [facts.completion] at completion
    rw [facts.cached] at cachedNonneg
    rw [facts.cacheWrite] at writeNonneg
    rw [facts.reasoning] at reasoningNonneg
    have total : 0 ≤ given.totalTokens.getD 0 := by
      have sum := facts.total
      unfold totalOf at sum
      split at sum
      · next n held =>
        cases sum
        rw [held,Option.getD_some]
        omega
      · next held =>
        rw [held]
        exact le_refl 0
    simp only [List.mem_cons,List.not_mem_nil,or_false,forall_eq_or_imp,forall_eq]
    exact ⟨prompt,completion,total,cachedNonneg,writeNonneg,reasoningNonneg⟩
  · rw [← totalIs]
    exact facts.total
  · rw [← facts.cached,← facts.cacheWrite,← facts.prompt]
    exact accepted.inputs
  · rw [← facts.reasoning,← facts.completion]
    exact accepted.outputs
  · intro zero
    obtain ⟨near,nonneg⟩ := partitionNear partition
    rw [← run.native] at near
    rw [partsTyped facts totalIs]
    exact (nearZero near nonneg).mp (free zero)

theorem optionalTokenCountOk {value : Option Int} {field : String} (nonneg : 0 ≤ value.getD 0) :
    optionalTokenCount value field = .ok value := by
  unfold optionalTokenCount
  split
  · rfl
  · next n =>
    have counted : ¬ n < 0 := Int.not_lt.mpr nonneg
    rw [if_neg counted]

theorem requiredOk {value : Option ℚ} {price : ℚ} {field : String} (priced : value = some price ∧ 0 ≤ price) :
    required value field = .ok price := by
  rw [priced.1]
  change (validatePrice price field >>= fun _ => .ok price) = _
  rw [validatePrice,requireTrue priced.2]
  rfl

theorem codexRuns (accepted : CodexAccepted usage estimate input cached cacheWrite output reasoning inputTier outputTier) :
    ∃ c, codexComponents usage estimate = .ok c := by
  unfold codexComponents
  rw [requiredOk accepted.input,requiredOk accepted.cached,requiredOk accepted.cacheWrite,requiredOk accepted.output,
    requiredOk accepted.reasoning,requiredOk accepted.inputTier,requiredOk accepted.outputTier]
  simp only [bind,Except.bind]
  rw [requireTrue accepted.threshold,accepted.details]
  dsimp only
  rw [requireTrue accepted.total]
  dsimp only
  rw [requireTrue accepted.inputs]
  dsimp only
  rw [requireTrue accepted.outputs]
  dsimp only
  rw [requireTrue accepted.audio]
  exact ⟨_,rfl⟩

theorem chargeableExtracted (usageIs : response.usage = some given)
    (facts : Chargeable given estimate input cached cacheWrite output reasoning inputTier outputTier) :
    ∃ usage, extractUsage r response = .ok usage := by
  have counts := facts.counts
  simp only [List.mem_cons,List.not_mem_nil,or_false,forall_eq_or_imp,forall_eq] at counts
  obtain ⟨prompt,completion,total,cachedNonneg,writeNonneg,reasoningNonneg⟩ := counts
  unfold extractUsage
  rw [usageIs]
  dsimp only
  rw [optionalTokenCountOk prompt,optionalTokenCountOk completion,optionalTokenCountOk total,
    optionalTokenCountOk cachedNonneg,optionalTokenCountOk writeNonneg,optionalTokenCountOk reasoningNonneg]
  simp only [bind,Except.bind]
  rw [facts.total]
  dsimp only
  rw [requireTrue (le_refl _)]
  exact ⟨_,rfl⟩

-- Components that are priced and converted make a bill.
theorem computedRuns {c : Components} (tokenBilled : isFixedRequestModuleBilling kind endpoint = false)
    (filled : blank estimate.nativeCurrency = false) (slaif : ∀ trusted, componentSlaifCosts usage estimate trusted = .ok c)
    (converts : ∀ currency, ∃ eur, convertEstimateNativeToEur (decimalSum (c.costs.map Prod.snd)) currency estimate =
      .ok eur) : ∃ cost, computeActualCost response kind usage estimate endpoint = .ok cost := by
  have currencyOk : normalizeCurrency estimate.nativeCurrency = .ok ((strip estimate.nativeCurrency).map Char.toUpper) := by
    unfold normalizeCurrency
    rw [filled,if_neg Bool.false_ne_true]
  obtain ⟨eur,converted⟩ := converts ((strip estimate.nativeCurrency).map Char.toUpper)
  unfold computeActualCost
  rw [tokenBilled,if_neg Bool.false_ne_true,currencyOk]
  simp only [bind,Except.bind]
  rw [slaif]
  dsimp only
  rw [converted]
  dsimp only
  split
  · exact ⟨_,rfl⟩
  · exact ⟨_,rfl⟩

theorem chargeableCharged (codex : estimate.codexAccounting = true) (usageIs : response.usage = some given)
    (tokenBilled : isFixedRequestModuleBilling kind endpoint = false)
    (facts : Chargeable given estimate input cached cacheWrite output reasoning inputTier outputTier) :
    ∃ cost, charge r response kind estimate endpoint = .ok cost := by
  obtain ⟨usage,extracted⟩ := @chargeableExtracted r response given estimate input cached cacheWrite output reasoning
    inputTier outputTier usageIs facts
  obtain ⟨found,held,typed⟩ := extractUsageMeans extracted
  rw [usageIs] at held
  cases held
  have totalIs : given.promptTokens.getD 0 + given.completionTokens.getD 0 = usage.totalTokens :=
    Except.ok.inj (facts.total.symm.trans typed.total)
  have accepted : CodexAccepted usage estimate input cached cacheWrite output reasoning inputTier outputTier := by
    refine ⟨facts.inputPriced,facts.cachedPriced,facts.cacheWritePriced,facts.outputPriced,facts.reasoningPriced,
      facts.inputTierPriced,facts.outputTierPriced,facts.threshold,shapeGone r typed.other,?_,?_,?_,?_⟩
    · rw [typed.prompt,typed.completion,totalIs]
    · rw [typed.cached,typed.cacheWrite,typed.prompt]
      exact facts.inputs
    · rw [typed.reasoning,typed.completion]
      exact facts.outputs
    · rw [typed.other,audioGone]
      rfl
  obtain ⟨c,components⟩ := codexRuns accepted
  obtain ⟨input',_,_,output',_,_,_,accepted',partition⟩ := codexPartition codex typed.counted components
  have sameInput : input' = input := Option.some.inj (accepted'.input.1.symm.trans accepted.input.1)
  have sameOutput : output' = output := Option.some.inj (accepted'.output.1.symm.trans accepted.output.1)
  subst sameInput sameOutput
  obtain ⟨near,nonneg⟩ := partitionNear partition
  have converts : ∀ currency, ∃ eur, convertEstimateNativeToEur (decimalSum (c.costs.map Prod.snd)) currency estimate =
      .ok eur := by
    intro currency
    refine convertsIff.mpr ⟨facts.totals,?_⟩
    intro zero
    have free := facts.priced zero
    rw [partsTyped typed totalIs.symm] at free
    exact (nearZero near nonneg).mpr free
  have slaif : ∀ trusted, componentSlaifCosts usage estimate trusted = .ok c := by
    intro trusted
    unfold componentSlaifCosts
    rw [codex,if_pos rfl,components]
  unfold charge
  rw [extracted]
  exact computedRuns tokenBilled facts.currency slaif converts

theorem codexFailsClosedIff (codex : estimate.codexAccounting = true) (parsed : parseUsage payload = some given)
    (bad : UnknownDimension given.otherUsage ∨ Contradicts given.otherUsage) (usageIs : response.usage = some given)
    (tokenBilled : isFixedRequestModuleBilling kind endpoint = false) :
    (∃ e, charge r response kind estimate endpoint = .error e) ↔
      ¬ ∃ input cached cacheWrite output reasoning inputTier outputTier,
        Chargeable given estimate input cached cacheWrite output reasoning inputTier outputTier := by
  constructor
  · rintro ⟨e,failed⟩ ⟨_,_,_,_,_,_,_,facts⟩
    obtain ⟨cost,ok⟩ := @chargeableCharged r response given kind estimate endpoint _ _ _ _ _ _ _ codex usageIs tokenBilled
      facts
    rw [failed] at ok
    cases ok
  · intro refused
    cases outcome : charge r response kind estimate endpoint with
    | error e => exact ⟨e,rfl⟩
    | ok cost => exact absurd (chargedChargeable codex usageIs tokenBilled outcome) refused

def unheardUsage (completion : Int) : Document :=
  .obj [(text "input_tokens",.int 10),(text "output_tokens",.int completion),(text "total_tokens",.int 15),
    (text "input_tokens_details",.obj [(text "image_tokens",.int 4)])]

def unheardResponse (completion : Int) : ProviderResponse :=
  { provider := "openai", usage := parseUsage [(text "usage",unheardUsage completion)] }

def codexEstimate : ChatCostEstimate :=
  { demoEstimate with
    cachedInputPricePer1m := some 1, cacheWriteInputPricePer1m := some 3, reasoningPricePer1m := some 4
    longContextThresholdTokens := some 272000, longContextInputMultiplier := some 2
    longContextOutputMultiplier := some (3/2), codexAccounting := true }

theorem imageUnknown {raw : Fields} (held : raw.get (text "input_tokens_details") = .obj [(text "image_tokens",.int 4)]) :
    UnknownDimension raw := by
  refine .inl ⟨"input_tokens_details",by decide,text "image_tokens",?_,by decide,by decide⟩
  rw [held]
  exact List.mem_singleton.mpr rfl

theorem codexFailsClosedMismatch : ∃ given, parseUsage [(text "usage",unheardUsage 6)] = some given ∧
    UnknownDimension given.otherUsage ∧ given.promptTokens = some 10 ∧ given.completionTokens = some 6 ∧
    given.totalTokens = some 15 ∧ ∃ e, charge plainRedaction (unheardResponse 6) none codexEstimate "responses" = .error e := by
  have parsed : parseUsage [(text "usage",unheardUsage 6)] = some _ := rfl
  refine ⟨_,parsed,imageUnknown rfl,rfl,rfl,rfl,?_⟩
  refine (codexFailsClosedIff (r := plainRedaction) rfl parsed (.inl (imageUnknown rfl)) rfl (by decide +kernel)).mpr ?_
  rintro ⟨_,_,_,_,_,_,_,facts⟩
  have total := facts.total
  cases total

theorem unknownDimensionCharged : ∃ given cost, parseUsage [(text "usage",unheardUsage 5)] = some given ∧
    UnknownDimension given.otherUsage ∧
    charge plainRedaction (unheardResponse 5) none codexEstimate "responses" = .ok cost := by
  have run : (charge plainRedaction (unheardResponse 5) none codexEstimate "responses").toOption.isSome = true := by
    decide +kernel
  obtain ⟨cost,ok⟩ := chargedSome run
  exact ⟨_,cost,rfl,imageUnknown rfl,ok⟩

end Codex

end SlaifGateway.Billing
