import SlaifGateway.Library.Decimal
import SlaifGateway.Library.Json

/-! The in-memory estimate of a running stream and its cutoffs. Texts are counted in UTF-8
bytes, costs in the 28-digit decimal context. Admission facts are nonnegative, as pricing
checks them before a budget is built. -/
namespace SlaifGateway.Streaming
open Library

/-- `ChatStreamingLiveBurnBudget`; without a budget the monitor runs with both cutoffs absent. -/
structure LiveBurnBudget where
  costCutoffEur : Option ℚ
  tokenCutoff : Option ℤ
  admissionInputTokens : ℕ
  admissionInputCostEur : ℚ
  outputPricePer1mEur : ℚ
  estimateMultiplier : ℚ
  inputCost : 0 ≤ admissionInputCostEur
  outputPrice : 0 ≤ outputPricePer1mEur

inductive StopReason where | both | cost | tokens
  deriving DecidableEq, Repr

structure LiveBurnEstimate where
  estimatedOutputTokens : ℕ
  estimatedRequestTokens : ℕ
  estimatedCostEur : ℚ
  stopReason : StopReason
  deriving DecidableEq, Repr

def decimal (x : ℚ) : ℚ := Decimal.roundTo 28 x

def estimateTextTokens (text : String) : ℕ := max 1 ((text.utf8ByteSize + 2) / 3)

/-- `estimate_chat_streaming_output_delta_tokens`, which both gateways use. -/
def estimateOutputDeltaTokens (text : String) (multiplier : ℚ) : ℕ :=
  if text = "" then 0
  else
    let byteEstimate := (text.utf8ByteSize + 2) / 3
    let baseEstimate := max (estimateTextTokens text) byteEstimate
    max 1 ⌈decimal (baseEstimate * multiplier)⌉.toNat

namespace LiveBurnBudget
variable (b : LiveBurnBudget)

def estimatedRequestTokens (outputTokens : ℕ) : ℕ := b.admissionInputTokens + outputTokens

def estimatedCostEur (outputTokens : ℕ) : ℚ :=
  decimal (b.admissionInputCostEur + decimal (decimal (outputTokens / 1000000) * b.outputPricePer1mEur))

def costCrossed (outputTokens : ℕ) : Bool :=
  b.costCutoffEur.any fun cutoff => cutoff ≤ b.estimatedCostEur outputTokens

def tokenCrossed (outputTokens : ℕ) : Bool :=
  b.tokenCutoff.any fun cutoff => cutoff ≤ (b.estimatedRequestTokens outputTokens : ℤ)

def check (outputTokens : ℕ) : Option LiveBurnEstimate :=
  if !b.costCrossed outputTokens && !b.tokenCrossed outputTokens then none
  else some
    { estimatedOutputTokens := outputTokens
      estimatedRequestTokens := b.estimatedRequestTokens outputTokens
      estimatedCostEur := b.estimatedCostEur outputTokens
      stopReason :=
        if b.costCrossed outputTokens && b.tokenCrossed outputTokens then .both
        else if b.costCrossed outputTokens then .cost else .tokens }
end LiveBurnBudget

/-- The string members of a choice's delta that carry generated text. -/
def deltaFragments (delta : Json) : List String :=
  (delta.field "content").text?.toList ++
    match delta.field "tool_calls" with
    | .arr calls => calls.flatMap fun call =>
        let function := call.field "function"
        (function.field "name").text?.toList ++ (function.field "arguments").text?.toList
    | _ => []

def generatedChatStreamingDeltaText (chunkJson : Json) : String :=
  match chunkJson.field "choices" with
  | .arr choices => String.join (choices.flatMap fun choice => deltaFragments (choice.field "delta"))
  | _ => ""

theorem halfEvenNonneg {x : ℚ} (nonneg : 0 ≤ x) : 0 ≤ Decimal.halfEven x := by
  have floor := Int.floor_nonneg.mpr nonneg
  unfold Decimal.halfEven
  split_ifs <;> omega

theorem decimalNonneg {x : ℚ} (nonneg : 0 ≤ x) : 0 ≤ decimal x := by
  unfold decimal Decimal.roundTo
  split
  · exact le_rfl
  · have unit : 0 ≤ Decimal.quantum 28 x := by
      unfold Decimal.quantum
      exact zpow_nonneg (by norm_num) _
    have rounded := halfEvenNonneg (div_nonneg nonneg unit)
    exact mul_nonneg (by exact_mod_cast rounded) unit

theorem estimatedCostNonneg (b : LiveBurnBudget) (outputTokens : ℕ) : 0 ≤ b.estimatedCostEur outputTokens := by
  have tokens : 0 ≤ decimal (outputTokens / 1000000) := decimalNonneg (by positivity)
  exact decimalNonneg (add_nonneg b.inputCost (decimalNonneg (mul_nonneg tokens b.outputPrice)))

theorem deltaTokensPositive {text : String} {multiplier : ℚ} :
    0 < estimateOutputDeltaTokens text multiplier ↔ text ≠ "" := by
  unfold estimateOutputDeltaTokens
  split
  · rename_i empty
    simp [empty]
  · rename_i text
    exact iff_of_true (lt_of_lt_of_le Nat.zero_lt_one (le_max_left _ _)) text
end SlaifGateway.Streaming
