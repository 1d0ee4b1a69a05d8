import SlaifGateway.Library.Outcome
import SlaifGateway.Billing.ActualCost

/-! The component counts partition the usage: input components add up to the prompt tokens, output
components to the completion tokens, and the calculated cost is the priced sum up to rounding. -/
namespace SlaifGateway.Billing
open Library Store

section Charged
variable {ε α β : Type}

theorem requireOk {condition : Prop} [Decidable condition] {e : ServiceError} {u : Unit}
    (ok : require condition e = .ok u) : condition := by
  unfold require at ok
  split at ok
  · assumption
  · cases ok

theorem requireTrue {condition : Prop} [Decidable condition] (holds : condition) (e : ServiceError) :
    require condition e = .ok () := if_pos holds

theorem chargedAny {x : Except ε α} {p : α → Bool} (checked : x.toOption.any p = true) : ∃ a, x = .ok a ∧ p a = true := by
  cases x with
  | error e => cases checked
  | ok a => exact ⟨a,rfl,checked⟩

theorem chargedSome {x : Except ε α} (some : x.toOption.isSome = true) : ∃ a, x = .ok a := by
  cases x with
  | error e => cases some
  | ok a => exact ⟨a,rfl⟩

end Charged

section Counts

structure Counted (usage : ActualUsage) : Prop where
  prompt : 0 ≤ usage.promptTokens
  completion : 0 ≤ usage.completionTokens
  total : usage.promptTokens + usage.completionTokens ≤ usage.totalTokens
  cached : 0 ≤ usage.cachedTokens.getD 0
  cacheWrite : 0 ≤ usage.cacheWriteTokens.getD 0
  reasoning : 0 ≤ usage.reasoningTokens.getD 0

theorem optionalTokenCountMeans {value count : Option Int} {field : String}
    (ok : optionalTokenCount value field = .ok count) : count = value ∧ 0 ≤ value.getD 0 := by
  unfold optionalTokenCount at ok
  split at ok
  · cases ok
    exact ⟨rfl,le_refl 0⟩
  · next n =>
    split at ok
    · cases ok
    · next nonneg =>
      cases ok
      exact ⟨rfl,Int.not_lt.mp nonneg⟩

-- What an accepted usage object was.
structure Extracted (r : Redaction) (given : ProviderUsage) (usage : ActualUsage) : Prop where
  prompt : usage.promptTokens = given.promptTokens.getD 0
  completion : usage.completionTokens = given.completionTokens.getD 0
  total : totalOf given.promptTokens given.completionTokens given.totalTokens = .ok usage.totalTokens
  cached : usage.cachedTokens = given.cachedTokens
  cacheWrite : usage.cacheWriteTokens = given.cacheWriteTokens
  reasoning : usage.reasoningTokens = given.reasoningTokens
  other : usage.otherUsage = sanitizeMapping r true given.otherUsage
  counted : Counted usage

theorem extractUsageMeans {r : Redaction} {response : ProviderResponse} {usage : ActualUsage}
    (ok : extractUsage r response = .ok usage) : ∃ given, response.usage = some given ∧ Extracted r given usage := by
  unfold extractUsage at ok
  split at ok
  · cases ok
  · next given held =>
    obtain ⟨prompt,promptOk,ok⟩ := okBind ok
    obtain ⟨completion,completionOk,ok⟩ := okBind ok
    obtain ⟨total,totalOk,ok⟩ := okBind ok
    obtain ⟨cached,cachedOk,ok⟩ := okBind ok
    obtain ⟨cacheWrite,cacheWriteOk,ok⟩ := okBind ok
    obtain ⟨reasoning,reasoningOk,ok⟩ := okBind ok
    obtain ⟨sum,sumOk,ok⟩ := okBind ok
    obtain ⟨_,within,ok⟩ := okBind ok
    cases ok
    obtain ⟨rfl,promptNonneg⟩ := optionalTokenCountMeans promptOk
    obtain ⟨rfl,completionNonneg⟩ := optionalTokenCountMeans completionOk
    obtain ⟨rfl,_⟩ := optionalTokenCountMeans totalOk
    obtain ⟨rfl,cachedNonneg⟩ := optionalTokenCountMeans cachedOk
    obtain ⟨rfl,cacheWriteNonneg⟩ := optionalTokenCountMeans cacheWriteOk
    obtain ⟨rfl,reasoningNonneg⟩ := optionalTokenCountMeans reasoningOk
    exact ⟨given,held,rfl,rfl,sumOk,rfl,rfl,rfl,rfl,promptNonneg,completionNonneg,requireOk within,cachedNonneg,
      cacheWriteNonneg,reasoningNonneg⟩

theorem audioNonneg (otherUsage : Fields) : 0 ≤ (audioOutputTokens otherUsage).getD 0 := by
  have count : ∀ value n, audioCount value = some n → 0 ≤ n := by
    intro value n found
    unfold audioCount at found
    split at found
    · split at found
      · cases found
        assumption
      · cases found
    · cases found
  have each : ∀ n, audioOutputTokens otherUsage = some n → 0 ≤ n := by
    intro n found
    unfold audioOutputTokens at found
    rcases Option.or_eq_some_iff.mp found with first | ⟨_,later⟩
    · exact count _ n first
    · rcases Option.or_eq_some_iff.mp later with second | ⟨_,third⟩
      · exact count _ n second
      · exact count _ n third
  cases found : audioOutputTokens otherUsage with
  | none => exact le_refl 0
  | some n => exact each n found

end Counts

section Parts

structure Part where
  name : String
  tokens : Int
  price : ℚ
  tier : ℚ

def Part.rate (codex : Bool) (p : Part) : ℚ := if codex then decimal (p.price * p.tier) else p.price

def inputNames : List String := ["input_uncached","input_cached","input_cache_write"]

def partTokens (parts : List Part) (names : List String) : Int :=
  ((parts.filter fun p => p.name ∈ names).map Part.tokens).sum

def exactCost (parts : List Part) : ℚ := (parts.map fun p => (p.tokens : ℚ) / 1000000 * (p.price * p.tier)).sum

-- The configured price of a component, given the resolved input and output prices.
def configuredPrice (estimate : ChatCostEstimate) (input output : ℚ) (name : String) : ℚ :=
  if name = "input_uncached" then input
  else if name = "input_cached" then estimate.cachedInputPricePer1m.getD input
  else if name = "input_cache_write" then estimate.cacheWriteInputPricePer1m.getD 0
  else if name = "output_non_reasoning" then output
  else if name = "output_reasoning" then estimate.reasoningPricePer1m.getD output
  else if estimate.codexAccounting then 0 else estimate.audioOutputPricePer1m.getD output

-- The multiplier of the long-context tier; one outside Codex accounting.
def appliedTier (usage : ActualUsage) (estimate : ChatCostEstimate) (name : String) : ℚ :=
  if estimate.codexAccounting = true ∧ estimate.longContextThresholdTokens.getD 0 < usage.promptTokens then
    if name ∈ inputNames then estimate.longContextInputMultiplier.getD 1
    else estimate.longContextOutputMultiplier.getD 1
  else 1

structure Partition (usage : ActualUsage) (estimate : ChatCostEstimate) (c : Components) (parts : List Part) : Prop where
  names : parts.map Part.name = if estimate.codexAccounting then
    ["input_uncached","input_cached","input_cache_write","output_non_reasoning","output_reasoning","output_audio"]
    else ["input_uncached","input_cached","output_non_reasoning","output_reasoning","output_audio"]
  nonneg : ∀ p ∈ parts, 0 ≤ p.tokens ∧ 0 ≤ p.price ∧ 0 ≤ p.tier
  input : partTokens parts inputNames = usage.promptTokens
  output : partTokens parts ["output_non_reasoning","output_reasoning","output_audio"] = usage.completionTokens
  counts : ∀ p ∈ parts, c.tokens.lookup (p.name ++ "_tokens") = some p.tokens
  costs : c.costs = parts.map fun p => (p.name,tokensToCost p.tokens (p.rate estimate.codexAccounting))
  priced : ∃ input output, pricePer1m estimate.inputPricePer1m estimate.estimatedInputCostNative
      estimate.estimatedInputTokens "input_price_per_1m" = .ok input ∧
    pricePer1m estimate.outputPricePer1m estimate.estimatedOutputCostNative estimate.estimatedOutputTokens
      "output_price_per_1m" = .ok output ∧
    ∀ p ∈ parts, p.price = configuredPrice estimate input output p.name ∧ p.tier = appliedTier usage estimate p.name

theorem validatePriceOk {value : ℚ} {param : String} {u : Unit} (ok : validatePrice value param = .ok u) : 0 ≤ value :=
  requireOk ok

theorem decimalNonneg {x : ℚ} (nonneg : 0 ≤ x) : 0 ≤ decimal x := Decimal.roundNonneg nonneg

theorem pricePer1mNonneg {value : Option ℚ} {cost price : ℚ} {tokens : Int} {param : String}
    (ok : pricePer1m value cost tokens param = .ok price) : 0 ≤ price := by
  unfold pricePer1m at ok
  split at ok
  · obtain ⟨_,valid,ok⟩ := okBind ok
    cases ok
    exact validatePriceOk valid
  · obtain ⟨_,valid,ok⟩ := okBind ok
    have costNonneg := requireOk valid
    split at ok
    · split at ok
      · cases ok
        exact le_refl 0
      · cases ok
    · next positive =>
      cases ok
      have count : (0 : ℚ) < tokens := by exact_mod_cast Int.not_le.mp positive
      exact decimalNonneg (div_nonneg (decimalNonneg (mul_nonneg costNonneg (by norm_num))) count.le)

def ordinaryParts (usage : ActualUsage) (estimate : ChatCostEstimate) (input output : ℚ) : List Part :=
  let cached := min (usage.cachedTokens.getD 0) usage.promptTokens
  let audio := min ((audioOutputTokens usage.otherUsage).getD 0) usage.completionTokens
  let reasoning := min (usage.reasoningTokens.getD 0) (usage.completionTokens - audio)
  [⟨"input_uncached",usage.promptTokens - cached,input,1⟩,
    ⟨"input_cached",cached,estimate.cachedInputPricePer1m.getD input,1⟩,
    ⟨"output_non_reasoning",usage.completionTokens - reasoning - audio,output,1⟩,
    ⟨"output_reasoning",reasoning,estimate.reasoningPricePer1m.getD output,1⟩,
    ⟨"output_audio",audio,estimate.audioOutputPricePer1m.getD output,1⟩]

theorem ordinaryMeans {usage : ActualUsage} {estimate : ChatCostEstimate} {allow : Bool} {c : Components}
    (ok : ordinaryComponents usage estimate allow = .ok c) : ∃ input output,
      pricePer1m estimate.inputPricePer1m estimate.estimatedInputCostNative estimate.estimatedInputTokens
        "input_price_per_1m" = .ok input ∧
      pricePer1m estimate.outputPricePer1m estimate.estimatedOutputCostNative estimate.estimatedOutputTokens
        "output_price_per_1m" = .ok output ∧
      (∀ p ∈ ordinaryParts usage estimate input output, 0 ≤ p.price) ∧
      c.tokens = ((ordinaryParts usage estimate input output).map fun p => (p.name ++ "_tokens",p.tokens)) ++
        [("total_tokens",usage.totalTokens)] ∧
      c.costs = (ordinaryParts usage estimate input output).map fun p => (p.name,tokensToCost p.tokens p.price) := by
  obtain ⟨input,inputOk,ok⟩ := okBind ok
  obtain ⟨_,_,ok⟩ := okBind ok
  obtain ⟨output,outputOk,ok⟩ := okBind ok
  obtain ⟨_,_,ok⟩ := okBind ok
  dsimp only at ok
  obtain ⟨_,cachedOk,ok⟩ := okBind ok
  obtain ⟨_,reasoningOk,ok⟩ := okBind ok
  obtain ⟨_,_,ok⟩ := okBind ok
  obtain ⟨_,audioOk,ok⟩ := okBind ok
  cases ok
  refine ⟨input,output,inputOk,outputOk,?_,rfl,rfl⟩
  intro p mem
  simp only [ordinaryParts,List.mem_cons,List.not_mem_nil,or_false] at mem
  rcases mem with rfl | rfl | rfl | rfl | rfl
  · exact pricePer1mNonneg inputOk
  · exact validatePriceOk cachedOk
  · exact pricePer1mNonneg outputOk
  · exact validatePriceOk reasoningOk
  · exact validatePriceOk audioOk

theorem ordinaryPartition {usage : ActualUsage} {estimate : ChatCostEstimate} {allow : Bool} {c : Components}
    (ordinary : estimate.codexAccounting = false) (counted : Counted usage)
    (ok : ordinaryComponents usage estimate allow = .ok c) : ∃ parts, Partition usage estimate c parts := by
  obtain ⟨input,output,inputOk,outputOk,prices,tokens,costs⟩ := ordinaryMeans ok
  have audio := audioNonneg usage.otherUsage
  have cached := counted.cached
  have reasoning := counted.reasoning
  have prompt := counted.prompt
  have completion := counted.completion
  have one : ∀ name, appliedTier usage estimate name = 1 := by
    intro name
    unfold appliedTier
    rw [if_neg (by simp [ordinary])]
  have shares : ∀ p ∈ ordinaryParts usage estimate input output, 0 ≤ p.tokens ∧ p.tier = 1 ∧
      p.price = configuredPrice estimate input output p.name := by
    intro p mem
    simp only [ordinaryParts,List.mem_cons,List.not_mem_nil,or_false] at mem
    rcases mem with rfl | rfl | rfl | rfl | rfl
    · exact ⟨by dsimp only; omega,rfl,by simp [configuredPrice]⟩
    · exact ⟨by dsimp only; omega,rfl,by simp [configuredPrice]⟩
    · exact ⟨by dsimp only; omega,rfl,by simp [configuredPrice]⟩
    · exact ⟨by dsimp only; omega,rfl,by simp [configuredPrice]⟩
    · exact ⟨by dsimp only; omega,rfl,by simp [configuredPrice,ordinary]⟩
  refine ⟨ordinaryParts usage estimate input output,by simp [ordinaryParts,ordinary],?_,?_,?_,?_,
    ?_,input,output,inputOk,outputOk,?_⟩
  · intro p mem
    obtain ⟨count,tier,_⟩ := shares p mem
    exact ⟨count,prices p mem,by rw [tier]; exact zero_le_one⟩
  · simp [partTokens,inputNames,ordinaryParts]
  · simp [partTokens,ordinaryParts]
  · rw [tokens]
    intro p mem
    simp only [ordinaryParts,List.mem_cons,List.not_mem_nil,or_false] at mem
    rcases mem with rfl | rfl | rfl | rfl | rfl <;> rfl
  · rw [costs,ordinary]
    rfl
  · intro p mem
    obtain ⟨_,tier,price⟩ := shares p mem
    exact ⟨price,by rw [tier,one]⟩

theorem requiredMeans {value : Option ℚ} {price : ℚ} {field : String} (ok : required value field = .ok price) :
    value = some price ∧ 0 ≤ price := by
  unfold required at ok
  split at ok
  · cases ok
  · obtain ⟨_,valid,ok⟩ := okBind ok
    cases ok
    exact ⟨rfl,validatePriceOk valid⟩

theorem pricePer1mSome {price cost : ℚ} {tokens : Int} {param : String} (nonneg : 0 ≤ price) :
    pricePer1m (some price) cost tokens param = .ok price := by
  change (validatePrice price param >>= fun _ => .ok price) = _
  rw [validatePrice,requireTrue nonneg]
  rfl

def codexParts (usage : ActualUsage) (estimate : ChatCostEstimate) (input output : ℚ) : List Part :=
  let cached := usage.cachedTokens.getD 0
  let cacheWrite := usage.cacheWriteTokens.getD 0
  let reasoning := usage.reasoningTokens.getD 0
  [⟨"input_uncached",usage.promptTokens - cached - cacheWrite,input,appliedTier usage estimate "input_uncached"⟩,
    ⟨"input_cached",cached,estimate.cachedInputPricePer1m.getD input,appliedTier usage estimate "input_cached"⟩,
    ⟨"input_cache_write",cacheWrite,estimate.cacheWriteInputPricePer1m.getD 0,
      appliedTier usage estimate "input_cache_write"⟩,
    ⟨"output_non_reasoning",usage.completionTokens - reasoning,output,
      appliedTier usage estimate "output_non_reasoning"⟩,
    ⟨"output_reasoning",reasoning,estimate.reasoningPricePer1m.getD output,
      appliedTier usage estimate "output_reasoning"⟩,
    ⟨"output_audio",0,0,appliedTier usage estimate "output_audio"⟩]

theorem tokensToCostZero (price : ℚ) : tokensToCost 0 price = 0 := by
  have zero : decimal 0 = 0 := Decimal.roundZero
  unfold tokensToCost
  rw [Int.cast_zero,zero_div,zero,zero_mul,zero]

-- What the Codex function checked before it priced anything.
structure CodexAccepted (usage : ActualUsage) (estimate : ChatCostEstimate) (input cached cacheWrite output reasoning inputTier
    outputTier : ℚ) : Prop where
  input : estimate.inputPricePer1m = some input ∧ 0 ≤ input
  cached : estimate.cachedInputPricePer1m = some cached ∧ 0 ≤ cached
  cacheWrite : estimate.cacheWriteInputPricePer1m = some cacheWrite ∧ 0 ≤ cacheWrite
  output : estimate.outputPricePer1m = some output ∧ 0 ≤ output
  reasoning : estimate.reasoningPricePer1m = some reasoning ∧ 0 ≤ reasoning
  inputTier : estimate.longContextInputMultiplier = some inputTier ∧ 0 ≤ inputTier
  outputTier : estimate.longContextOutputMultiplier = some outputTier ∧ 0 ≤ outputTier
  threshold : 0 < estimate.longContextThresholdTokens.getD 0
  details : validateCodexUsageDetailShape usage = .ok ()
  total : usage.promptTokens + usage.completionTokens = usage.totalTokens
  inputs : usage.cachedTokens.getD 0 + usage.cacheWriteTokens.getD 0 ≤ usage.promptTokens
  outputs : usage.reasoningTokens.getD 0 ≤ usage.completionTokens
  audio : (audioOutputTokens usage.otherUsage).getD 0 = 0

theorem codexMeans {usage : ActualUsage} {estimate : ChatCostEstimate} {c : Components}
    (codex : estimate.codexAccounting = true) (ok : codexComponents usage estimate = .ok c) : ∃ input cached cacheWrite output reasoning inputTier outputTier,
      CodexAccepted usage estimate input cached cacheWrite output reasoning inputTier outputTier ∧
      c.tokens = [("input_uncached_tokens",usage.promptTokens - usage.cachedTokens.getD 0 - usage.cacheWriteTokens.getD 0),
        ("input_cached_tokens",usage.cachedTokens.getD 0),("input_cache_write_tokens",usage.cacheWriteTokens.getD 0),
        ("output_non_reasoning_tokens",usage.completionTokens - usage.reasoningTokens.getD 0),
        ("output_reasoning_tokens",usage.reasoningTokens.getD 0),("output_audio_tokens",0),
        ("long_context_tier_applied",if estimate.longContextThresholdTokens.getD 0 < usage.promptTokens then 1 else 0),
        ("total_tokens",usage.totalTokens)] ∧
      c.costs = (codexParts usage estimate input output).map fun p => (p.name,tokensToCost p.tokens (p.rate true)) := by
  obtain ⟨input,inputOk,ok⟩ := okBind ok
  obtain ⟨cached,cachedOk,ok⟩ := okBind ok
  obtain ⟨cacheWrite,cacheWriteOk,ok⟩ := okBind ok
  obtain ⟨output,outputOk,ok⟩ := okBind ok
  obtain ⟨reasoning,reasoningOk,ok⟩ := okBind ok
  obtain ⟨inputTier,inputTierOk,ok⟩ := okBind ok
  obtain ⟨outputTier,outputTierOk,ok⟩ := okBind ok
  dsimp only at ok
  obtain ⟨_,thresholdOk,ok⟩ := okBind ok
  obtain ⟨_,detailsOk,ok⟩ := okBind ok
  obtain ⟨_,totalOk,ok⟩ := okBind ok
  obtain ⟨_,inputsOk,ok⟩ := okBind ok
  obtain ⟨_,outputsOk,ok⟩ := okBind ok
  obtain ⟨_,audioOk,ok⟩ := okBind ok
  cases ok
  have accepted : CodexAccepted usage estimate input cached cacheWrite output reasoning inputTier outputTier :=
    ⟨requiredMeans inputOk,requiredMeans cachedOk,requiredMeans cacheWriteOk,requiredMeans outputOk,
      requiredMeans reasoningOk,requiredMeans inputTierOk,requiredMeans outputTierOk,requireOk thresholdOk,detailsOk,
      requireOk totalOk,requireOk inputsOk,requireOk outputsOk,requireOk audioOk⟩
  refine ⟨input,cached,cacheWrite,output,reasoning,inputTier,outputTier,accepted,by simp,?_⟩
  have inputs : ∀ name ∈ inputNames, appliedTier usage estimate name =
      if estimate.longContextThresholdTokens.getD 0 < usage.promptTokens then inputTier else 1 := by
    intro name mem
    simp [appliedTier,codex,mem,accepted.inputTier.1]
  have outputs : ∀ name, name ∉ inputNames → appliedTier usage estimate name =
      if estimate.longContextThresholdTokens.getD 0 < usage.promptTokens then outputTier else 1 := by
    intro name other
    simp [appliedTier,codex,other,accepted.outputTier.1]
  simp [codexParts,Part.rate,inputs "input_uncached" (by decide),inputs "input_cached" (by decide),
    inputs "input_cache_write" (by decide),outputs "output_non_reasoning" (by decide),
    outputs "output_reasoning" (by decide),outputs "output_audio" (by decide),accepted.cached.1,accepted.cacheWrite.1,
    accepted.reasoning.1,tokensToCostZero]

theorem tierNonneg {usage : ActualUsage} {estimate : ChatCostEstimate}
    {input cached cacheWrite output reasoning inputTier outputTier : ℚ}
    (accepted : CodexAccepted usage estimate input cached cacheWrite output reasoning inputTier outputTier) (name : String) :
    0 ≤ appliedTier usage estimate name := by
  unfold appliedTier
  rw [accepted.inputTier.1,accepted.outputTier.1]
  split_ifs
  · exact accepted.inputTier.2
  · exact accepted.outputTier.2
  · exact zero_le_one

theorem codexPartitionOf {usage : ActualUsage} {estimate : ChatCostEstimate} {c : Components}
    {input cached cacheWrite output reasoning inputTier outputTier : ℚ} (codex : estimate.codexAccounting = true)
    (counted : Counted usage)
    (accepted : CodexAccepted usage estimate input cached cacheWrite output reasoning inputTier outputTier)
    (counts : ∀ p ∈ codexParts usage estimate input output, c.tokens.lookup (p.name ++ "_tokens") = some p.tokens)
    (costs : c.costs = (codexParts usage estimate input output).map fun p => (p.name,tokensToCost p.tokens (p.rate true))) :
    Partition usage estimate c (codexParts usage estimate input output) := by
  have cachedNonneg := counted.cached
  have cacheWriteNonneg := counted.cacheWrite
  have reasoningNonneg := counted.reasoning
  have inputs := accepted.inputs
  have outputs := accepted.outputs
  refine ⟨by simp [codexParts,codex],?_,?_,?_,counts,by rw [costs,codex],input,output,?_,?_,?_⟩
  · intro p mem
    simp only [codexParts,List.mem_cons,List.not_mem_nil,or_false] at mem
    rcases mem with rfl | rfl | rfl | rfl | rfl | rfl
    · exact ⟨by dsimp only; omega,accepted.input.2,tierNonneg accepted _⟩
    · exact ⟨cachedNonneg,by rw [accepted.cached.1]; exact accepted.cached.2,tierNonneg accepted _⟩
    · exact ⟨cacheWriteNonneg,by rw [accepted.cacheWrite.1]; exact accepted.cacheWrite.2,tierNonneg accepted _⟩
    · exact ⟨by dsimp only; omega,accepted.output.2,tierNonneg accepted _⟩
    · exact ⟨reasoningNonneg,by rw [accepted.reasoning.1]; exact accepted.reasoning.2,tierNonneg accepted _⟩
    · exact ⟨le_refl 0,le_refl 0,tierNonneg accepted _⟩
  · simp [partTokens,inputNames,codexParts]
  · simp [partTokens,codexParts]
  · rw [accepted.input.1]
    exact pricePer1mSome accepted.input.2
  · rw [accepted.output.1]
    exact pricePer1mSome accepted.output.2
  · intro p mem
    simp only [codexParts,List.mem_cons,List.not_mem_nil,or_false] at mem
    rcases mem with rfl | rfl | rfl | rfl | rfl | rfl <;> simp [configuredPrice,codex]

theorem codexPartition {usage : ActualUsage} {estimate : ChatCostEstimate} {c : Components}
    (codex : estimate.codexAccounting = true) (counted : Counted usage) (ok : codexComponents usage estimate = .ok c) :
    ∃ input cached cacheWrite output reasoning inputTier outputTier,
      CodexAccepted usage estimate input cached cacheWrite output reasoning inputTier outputTier ∧
      Partition usage estimate c (codexParts usage estimate input output) := by
  obtain ⟨input,cached,cacheWrite,output,reasoning,inputTier,outputTier,accepted,tokens,costs⟩ := codexMeans codex ok
  have counts : ∀ p ∈ codexParts usage estimate input output, c.tokens.lookup (p.name ++ "_tokens") = some p.tokens := by
    rw [tokens]
    intro p mem
    simp only [codexParts,List.mem_cons,List.not_mem_nil,or_false] at mem
    rcases mem with rfl | rfl | rfl | rfl | rfl | rfl <;> rfl
  exact ⟨input,cached,cacheWrite,output,reasoning,inputTier,outputTier,accepted,
    codexPartitionOf codex counted accepted counts costs⟩

end Parts

section Sums
open Decimal (Near nearSelf nearMore nearAdd nearMul nearRound roundingUnit unitNonneg)

theorem unitSmall : roundingUnit 28 ≤ 1 := by
  unfold roundingUnit
  norm_num

theorem rateNear (codex : Bool) (p : Part) (price : 0 ≤ p.price) (tier : 0 ≤ p.tier)
    (plain : codex = false → p.tier = 1) : Near (roundingUnit 28) 1 (p.price * p.tier) (p.rate codex) := by
  have nonneg : 0 ≤ p.price * p.tier := mul_nonneg price tier
  unfold Part.rate
  cases codex with
  | true => exact nearRound unitSmall nonneg (nearSelf _ _)
  | false =>
    have same : p.price * p.tier = p.price := by rw [plain rfl,mul_one]
    rw [same]
    exact nearMore (unitNonneg 28) unitSmall price (Nat.zero_le 1) (nearSelf _ _)

theorem tokensToCostNear {tokens : Int} {price exact_ : ℚ} {k : ℕ} (counted : 0 ≤ tokens) (nonneg : 0 ≤ exact_)
    (near : Near (roundingUnit 28) k exact_ price) :
    Near (roundingUnit 28) (k + 2) (tokens / 1000000 * exact_) (tokensToCost tokens price) := by
  have count : (0 : ℚ) ≤ tokens / 1000000 := by
    have cast : (0 : ℚ) ≤ tokens := by exact_mod_cast counted
    positivity
  have share := nearRound unitSmall count (nearSelf (roundingUnit 28) _)
  have product := nearMul (unitNonneg 28) unitSmall count nonneg share near
  have rounded := nearRound unitSmall (mul_nonneg count nonneg) product
  have order : 0 + 1 + k + 1 = k + 2 := by omega
  rw [order] at rounded
  exact rounded

theorem decimalSumNear {terms : List (ℚ × ℚ)} {k : ℕ} (each : ∀ t ∈ terms, 0 ≤ t.1 ∧ Near (roundingUnit 28) k t.1 t.2)
    {total value : ℚ} (nonneg : 0 ≤ total) {j : ℕ} (more : k ≤ j) (start : Near (roundingUnit 28) j total value) :
    Near (roundingUnit 28) (j + terms.length) (total + (terms.map Prod.fst).sum)
      ((terms.map Prod.snd).foldl (fun sum x => decimal (sum + x)) value) := by
  induction terms generalizing total value j with
  | nil => simpa using start
  | cons term rest ih =>
    obtain ⟨termNonneg,termNear⟩ := each term List.mem_cons_self
    have summed := nearAdd start (nearMore (unitNonneg 28) unitSmall termNonneg more termNear)
    have rounded := nearRound unitSmall (add_nonneg nonneg termNonneg) summed
    have later := ih (fun t mem => each t (List.mem_cons_of_mem _ mem)) (add_nonneg nonneg termNonneg)
      (Nat.le_succ_of_le more) rounded
    rw [List.map_cons,List.map_cons,List.sum_cons,List.foldl_cons,List.length_cons,← add_assoc total]
    have order : j + 1 + rest.length = j + (rest.length + 1) := by omega
    rw [order] at later
    exact later

theorem partitionNear {usage : ActualUsage} {estimate : ChatCostEstimate} {c : Components} {parts : List Part}
    (partition : Partition usage estimate c parts) :
    Near (roundingUnit 28) 9 (exactCost parts) (decimalSum (c.costs.map Prod.snd)) ∧ 0 ≤ exactCost parts := by
  have plain : ∀ p ∈ parts, estimate.codexAccounting = false → p.tier = 1 := by
    intro p mem ordinary
    obtain ⟨_,_,_,_,priced⟩ := partition.priced
    rw [(priced p mem).2,appliedTier,if_neg (by simp [ordinary])]
  have nonneg : ∀ p ∈ parts, 0 ≤ (p.tokens : ℚ) / 1000000 * (p.price * p.tier) := by
    intro p mem
    obtain ⟨tokens,price,tier⟩ := partition.nonneg p mem
    have count : (0 : ℚ) ≤ p.tokens := by exact_mod_cast tokens
    positivity
  have terms := @decimalSumNear
    (parts.map fun p => ((p.tokens : ℚ) / 1000000 * (p.price * p.tier),
      tokensToCost p.tokens (p.rate estimate.codexAccounting))) 3 (by
      intro t mem
      obtain ⟨p,inside,rfl⟩ := List.mem_map.mp mem
      obtain ⟨tokens,price,tier⟩ := partition.nonneg p inside
      exact ⟨nonneg p inside,tokensToCostNear tokens (mul_nonneg price tier) (rateNear _ p price tier (plain p inside))⟩)
    0 0 (le_refl 0) 3 (le_refl 3) (by constructor <;> simp)
  have few : parts.length ≤ 6 := by
    have count := congrArg List.length partition.names
    rw [List.length_map] at count
    rw [count]
    split <;> simp
  have total : 0 ≤ exactCost parts := by
    unfold exactCost
    apply List.sum_nonneg
    intro x mem
    obtain ⟨p,inside,rfl⟩ := List.mem_map.mp mem
    exact nonneg p inside
  refine ⟨?_,total⟩
  have shape : c.costs.map Prod.snd = (parts.map fun p => ((p.tokens : ℚ) / 1000000 * (p.price * p.tier),
      tokensToCost p.tokens (p.rate estimate.codexAccounting))).map Prod.snd := by
    rw [partition.costs,List.map_map,List.map_map]
    rfl
  unfold decimalSum
  rw [shape]
  rw [zero_add,List.map_map,List.length_map] at terms
  exact nearMore (unitNonneg 28) unitSmall total (by omega) terms

end Sums

section Cost
open Decimal (Near roundingUnit)

-- Where the charged amount comes from.
inductive Source (response : ProviderResponse) (cost : ActualCost) : Prop
  | calculated (source : cost.costSource = .slaifCalculated) (native : cost.actualCostNative = cost.slaifCalculatedCostNative)
      (eur : cost.actualCostEur = cost.slaifCalculatedCostEur)
  | reported (source : cost.costSource = .providerReported) (provider : response.provider = "openrouter")
      (native : response.rawCostNative = some cost.actualCostNative) (nonneg : 0 ≤ cost.actualCostNative)

structure Computed (response : ProviderResponse) (usage : ActualUsage) (estimate : ChatCostEstimate) (cost : ActualCost)
    (currency : String) (trusted : Bool) (c : Components) : Prop where
  normalized : normalizeCurrency estimate.nativeCurrency = .ok currency
  trust : trusted = (trustedCost response (providerReportedCost response).1 currency estimate).2
  components : componentSlaifCosts usage estimate trusted = .ok c
  costs : cost.componentCostsNative = c.costs
  tokens : cost.componentTokenCounts = c.tokens
  native : cost.slaifCalculatedCostNative = decimalSum (c.costs.map Prod.snd)
  eur : convertEstimateNativeToEur cost.slaifCalculatedCostNative currency estimate = .ok cost.slaifCalculatedCostEur
  source : Source response cost

theorem providerReportedMeans {response : ProviderResponse} {cost : ℚ} {currency : String} {warnings : List String}
    (reported : providerReportedCost response = (some (cost,currency),warnings)) :
    response.rawCostNative = some cost ∧ 0 ≤ cost := by
  unfold providerReportedCost at reported
  split at reported
  · cases reported
  · next held =>
    split at reported
    · cases reported
    · next nonneg =>
      split at reported
      · cases reported
      · split at reported
        · cases reported
        · cases reported
          exact ⟨held,not_lt.mp nonneg⟩

theorem trustedMeans {response : ProviderResponse} {reported : Option (ℚ × String)} {currency : String}
    {estimate : ChatCostEstimate} (trusted : (trustedCost response reported currency estimate).2 = true) :
    response.provider = "openrouter" ∧ ∃ cost, reported = some cost := by
  unfold trustedCost at trusted
  split at trusted
  · cases trusted
  · next cost paid =>
    simp only [Bool.and_eq_true,decide_eq_true_eq] at trusted
    exact ⟨trusted.1,_,rfl⟩

theorem computedMeans {response : ProviderResponse} {kind : Option String} {usage : ActualUsage}
    {estimate : ChatCostEstimate} {endpoint : String} {cost : ActualCost}
    (tokenBilled : isFixedRequestModuleBilling kind endpoint = false)
    (ok : computeActualCost response kind usage estimate endpoint = .ok cost) :
    ∃ currency trusted c, Computed response usage estimate cost currency trusted c := by
  unfold computeActualCost at ok
  rw [tokenBilled,if_neg Bool.false_ne_true] at ok
  obtain ⟨currency,normalized,ok⟩ := okBind ok
  cases reportedIs : providerReportedCost response with
  | mk reported warnings =>
  rw [reportedIs] at ok
  dsimp only at ok
  cases trustedIs : trustedCost response reported currency estimate with
  | mk reportedEur trusted =>
  rw [trustedIs] at ok
  dsimp only at ok
  obtain ⟨c,components,ok⟩ := okBind ok
  obtain ⟨eur,converted,ok⟩ := okBind ok
  have sameTrust : trusted = (trustedCost response (providerReportedCost response).1 currency estimate).2 := by
    rw [reportedIs,trustedIs]
  split at ok
  · next native paid eurReported _ =>
    cases ok
    cases trusted with
    | true =>
      obtain ⟨held,nonneg⟩ := providerReportedMeans reportedIs
      obtain ⟨provider,_⟩ := trustedMeans (sameTrust.symm)
      exact ⟨currency,true,c,normalized,sameTrust,components,rfl,rfl,rfl,converted,
        .reported rfl provider held nonneg⟩
    | false => exact ⟨currency,false,c,normalized,sameTrust,components,rfl,rfl,rfl,converted,.calculated rfl rfl rfl⟩
  · cases ok
    exact ⟨currency,trusted,c,normalized,sameTrust,components,rfl,rfl,rfl,converted,.calculated rfl rfl rfl⟩

theorem convertedNonneg {native eur : ℚ} {currency : String} {estimate : ChatCostEstimate} (nonneg : 0 ≤ native)
    (ok : convertEstimateNativeToEur native currency estimate = .ok eur) : 0 ≤ eur := by
  unfold convertEstimateNativeToEur at ok
  dsimp only at ok
  split at ok
  · cases ok
  · next estimated =>
    have totals := not_or.mp estimated
    split at ok
    · split at ok
      · cases ok
        exact le_refl 0
      · cases ok
    · split at ok
      · cases ok
        exact nonneg
      · cases ok
        have ratio := decimalNonneg (div_nonneg (not_lt.mp totals.2) (not_lt.mp totals.1))
        exact decimalNonneg (mul_nonneg nonneg ratio)

theorem componentsPartition {usage : ActualUsage} {estimate : ChatCostEstimate} {trusted : Bool} {c : Components}
    (counted : Counted usage) (ok : componentSlaifCosts usage estimate trusted = .ok c) :
    ∃ parts, Partition usage estimate c parts := by
  unfold componentSlaifCosts at ok
  cases codex : estimate.codexAccounting with
  | true =>
    rw [codex,if_pos rfl] at ok
    obtain ⟨input,_,_,output,_,_,_,_,partition⟩ := codexPartition codex counted ok
    exact ⟨_,partition⟩
  | false =>
    rw [codex,if_neg Bool.false_ne_true] at ok
    exact ordinaryPartition codex counted ok

def demoUsage : Document :=
  .obj [(text "prompt_tokens",.int 1000000),(text "completion_tokens",.int 0),(text "total_tokens",.int 1000000)]

def demoPayload : Fields := [(text "usage",demoUsage)]

def demoEstimate : ChatCostEstimate :=
  { nativeCurrency := "EUR", estimatedInputTokens := 1000000, estimatedOutputTokens := 10
    estimatedInputCostNative := 2, estimatedOutputCostNative := 1, estimatedTotalCostNative := 3
    estimatedTotalCostEur := 3, inputPricePer1m := some 2, outputPricePer1m := some 4 }

def plainRedaction : Redaction := ⟨id,id⟩

def reportedResponse : ProviderResponse :=
  { provider := "openrouter", usage := parseUsage demoPayload, rawCostNative := some 5, nativeCurrency := some "EUR" }

end Cost

end SlaifGateway.Billing
