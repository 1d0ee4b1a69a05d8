import SlaifGateway.Library.DecimalLaws
import SlaifGateway.Library.Document
import SlaifGateway.Streaming.LiveBurn

/-! The live-burn monitor of a chat stream over decoded chunks. Every chunk adds the estimate of the text
it carries, and the cutoffs are checked after every chunk. A lone surrogate cannot be counted in UTF-8. -/
namespace SlaifGateway.Streaming
open Library

section Chunks

def member (value : Document) (key : String) : Document :=
  match value with
  | .obj fields => Fields.get fields (text key)
  | _ => .null

def items : Document → List Document
  | .arr values => values
  | _ => []

def fragment : Document → List Text
  | .str t => [t]
  | _ => []

def functionFragments (function : Document) : List Text :=
  fragment (member function "name") ++ fragment (member function "arguments")

def choiceFragments (delta : Document) : List Text :=
  fragment (member delta "content") ++
    (items (member delta "tool_calls")).flatMap fun call => functionFragments (member call "function")

-- What the monitor counts: refusals and calls in the older `function_call` member are not read.
def generatedDeltaText (chunk : Document) : Text :=
  ((items (member chunk "choices")).flatMap fun choice => choiceFragments (member choice "delta")).flatten

def deltaTokens (multiplier : ℚ) (t : Text) : Option ℕ :=
  if t = [] then some 0
  else do
    let bytes ← encode t
    let byteEstimate := (bytes.length + 2) / 3
    some (max 1 ⌈decimal ((max (max 1 byteEstimate) byteEstimate : ℕ) * multiplier)⌉.toNat)

def observeChunk (b : LiveBurnBudget) (outputTokens : ℕ) (chunk : Document) : Option (ℕ × Option LiveBurnEstimate) := do
  let tokens ← deltaTokens b.estimateMultiplier (generatedDeltaText chunk)
  some (outputTokens + tokens,b.check (outputTokens + tokens))

-- The cumulative estimate and the stop signal after every chunk.
def observeChunks (b : LiveBurnBudget) : ℕ → List Document → Option (List (ℕ × Option LiveBurnEstimate))
  | _,[] => some []
  | outputTokens,chunk :: rest => do
    let seen ← observeChunk b outputTokens chunk
    let later ← observeChunks b seen.1 rest
    some (seen :: later)

end Chunks

section Cutoffs
variable {b : LiveBurnBudget} {outputTokens : ℕ} {chunks : List Document} {readings : List (ℕ × Option LiveBurnEstimate)}

def LiveBurnBudget.Reached (b : LiveBurnBudget) (outputTokens : ℕ) : Prop :=
  (∃ cutoff ∈ b.costCutoffEur, cutoff ≤ b.estimatedCostEur outputTokens) ∨
    ∃ cutoff ∈ b.tokenCutoff, cutoff ≤ (b.estimatedRequestTokens outputTokens : ℤ)

def LiveBurnBudget.Below (b : LiveBurnBudget) (outputTokens : ℕ) : Prop :=
  (∀ cutoff ∈ b.costCutoffEur, b.estimatedCostEur outputTokens < cutoff) ∧
    ∀ cutoff ∈ b.tokenCutoff, (b.estimatedRequestTokens outputTokens : ℤ) < cutoff

theorem checkIff : (b.check outputTokens).isSome ↔ b.Reached outputTokens := by
  have cost : b.costCrossed outputTokens = true ↔ ∃ cutoff ∈ b.costCutoffEur, cutoff ≤ b.estimatedCostEur outputTokens := by
    unfold LiveBurnBudget.costCrossed
    simp [Option.any_eq_true]
  have tokens : b.tokenCrossed outputTokens = true ↔
      ∃ cutoff ∈ b.tokenCutoff, cutoff ≤ (b.estimatedRequestTokens outputTokens : ℤ) := by
    unfold LiveBurnBudget.tokenCrossed
    simp [Option.any_eq_true]
  unfold LiveBurnBudget.Reached LiveBurnBudget.check
  rw [← cost,← tokens]
  cases b.costCrossed outputTokens <;> cases b.tokenCrossed outputTokens <;> simp

theorem checkBelow (silent : b.check outputTokens = none) : b.Below outputTokens := by
  have reached : ¬ b.Reached outputTokens := by
    rw [← checkIff,silent]
    exact Bool.false_ne_true
  unfold LiveBurnBudget.Reached at reached
  constructor
  · intro cutoff held
    exact not_le.mp fun crossed => reached (.inl ⟨cutoff,held,crossed⟩)
  · intro cutoff held
    exact not_le.mp fun crossed => reached (.inr ⟨cutoff,held,crossed⟩)

theorem costMono {more : ℕ} (le : outputTokens ≤ more) : b.estimatedCostEur outputTokens ≤ b.estimatedCostEur more := by
  have wide : 0 < 28 := by decide
  have share : decimal ((outputTokens : ℚ) / 1000000) ≤ decimal ((more : ℚ) / 1000000) := by
    refine Decimal.roundMono wide (by positivity) (div_le_div_of_nonneg_right ?_ (by norm_num))
    exact_mod_cast le
  have nonneg : 0 ≤ decimal ((outputTokens : ℚ) / 1000000) := decimalNonneg (by positivity)
  have product : decimal (decimal ((outputTokens : ℚ) / 1000000) * b.outputPricePer1mEur) ≤
      decimal (decimal ((more : ℚ) / 1000000) * b.outputPricePer1mEur) :=
    Decimal.roundMono wide (mul_nonneg nonneg b.outputPrice) (mul_le_mul_of_nonneg_right share b.outputPrice)
  have value := decimalNonneg (mul_nonneg nonneg b.outputPrice)
  exact Decimal.roundMono wide (add_nonneg b.inputCost value) (add_le_add_right product _)

-- After every chunk the monitor holds the sum of the estimates up to it, and what the check says of the sum.
theorem observedAt (observed : observeChunks b outputTokens chunks = some readings) {i total : ℕ}
    {signal : Option LiveBurnEstimate} (here : readings[i]? = some (total,signal)) :
    (∃ counts, (chunks.take (i + 1)).mapM (fun chunk => deltaTokens b.estimateMultiplier (generatedDeltaText chunk)) =
      some counts ∧ total = outputTokens + counts.sum) ∧ signal = b.check total := by
  induction chunks generalizing outputTokens readings i with
  | nil =>
    cases observed
    cases here
  | cons chunk rest ih =>
    obtain ⟨seen,first,observed⟩ := Option.bind_eq_some_iff.mp observed
    obtain ⟨later,others,observed⟩ := Option.bind_eq_some_iff.mp observed
    obtain ⟨tokens,counted,first⟩ := Option.bind_eq_some_iff.mp first
    cases first
    cases observed
    cases i with
    | zero =>
      cases here
      refine ⟨⟨[tokens],?_,by simp⟩,rfl⟩
      rw [List.take_succ_cons,List.take_zero,List.mapM_cons,counted]
      rfl
    | succ i =>
      obtain ⟨⟨counts,sums,total⟩,signal⟩ := ih others here
      refine ⟨⟨tokens :: counts,?_,?_⟩,signal⟩
      · rw [List.take_succ_cons,List.mapM_cons,counted,sums]
        rfl
      · rw [total,List.sum_cons,add_assoc]

theorem observedAbove (observed : observeChunks b outputTokens chunks = some readings) :
    ∀ seen ∈ readings, outputTokens ≤ seen.1 := by
  induction chunks generalizing outputTokens readings with
  | nil =>
    cases observed
    intro seen mem
    cases mem
  | cons chunk rest ih =>
    obtain ⟨seen,first,observed⟩ := Option.bind_eq_some_iff.mp observed
    obtain ⟨later,others,observed⟩ := Option.bind_eq_some_iff.mp observed
    obtain ⟨tokens,_,first⟩ := Option.bind_eq_some_iff.mp first
    cases first
    cases observed
    intro seen mem
    rcases List.mem_cons.mp mem with rfl | inside
    · exact Nat.le_add_right ..
    · exact (Nat.le_add_right ..).trans (ih others seen inside)

theorem observedMono (observed : observeChunks b outputTokens chunks = some readings) :
    readings.Pairwise fun before after => before.1 ≤ after.1 := by
  induction chunks generalizing outputTokens readings with
  | nil =>
    cases observed
    exact List.Pairwise.nil
  | cons chunk rest ih =>
    obtain ⟨seen,_,observed⟩ := Option.bind_eq_some_iff.mp observed
    obtain ⟨later,others,observed⟩ := Option.bind_eq_some_iff.mp observed
    cases observed
    exact List.pairwise_cons.mpr ⟨observedAbove others,ih others⟩

theorem observedLength (observed : observeChunks b outputTokens chunks = some readings) : readings.length = chunks.length := by
  induction chunks generalizing outputTokens readings with
  | nil =>
    cases observed
    rfl
  | cons chunk rest ih =>
    obtain ⟨seen,_,observed⟩ := Option.bind_eq_some_iff.mp observed
    obtain ⟨later,others,observed⟩ := Option.bind_eq_some_iff.mp observed
    cases observed
    rw [List.length_cons,List.length_cons,ih others]

theorem deltaTokensSome {t : Text} (plain : ∀ c ∈ t, isSurrogate c = false) (multiplier : ℚ) :
    ∃ tokens, deltaTokens multiplier t = some tokens := by
  obtain ⟨bytes,encoded⟩ := Option.isSome_iff_exists.mp (encodeIsSome.mpr plain)
  unfold deltaTokens
  rw [encoded]
  split
  · exact ⟨_,rfl⟩
  · exact ⟨_,rfl⟩

theorem observes (plain : ∀ chunk ∈ chunks, ∀ c ∈ generatedDeltaText chunk, isSurrogate c = false) :
    ∃ readings, observeChunks b outputTokens chunks = some readings := by
  induction chunks generalizing outputTokens with
  | nil => exact ⟨[],rfl⟩
  | cons chunk rest ih =>
    obtain ⟨tokens,counted⟩ := deltaTokensSome (plain chunk (List.mem_cons_self ..)) b.estimateMultiplier
    obtain ⟨later,others⟩ := @ih (outputTokens + tokens) fun c mem => plain c (List.mem_cons_of_mem _ mem)
    have first : observeChunk b outputTokens chunk = some (outputTokens + tokens,b.check (outputTokens + tokens)) := by
      unfold observeChunk
      rw [counted]
      rfl
    unfold observeChunks
    rw [first]
    change ∃ readings, ((observeChunks b (outputTokens + tokens) rest).bind fun later => some (_ :: later)) = some readings
    rw [others]
    exact ⟨_,rfl⟩

-- The cumulative estimate is the sum of the chunk estimates, never decreases, and the signal is given exactly
-- where it reaches a cutoff; without a signal it is below both.
theorem liveBurnCutoff (b : LiveBurnBudget)
    (plain : ∀ chunk ∈ chunks, ∀ c ∈ generatedDeltaText chunk, isSurrogate c = false) :
    ∃ readings, observeChunks b 0 chunks = some readings ∧ readings.length = chunks.length ∧
      (∀ i total signal, readings[i]? = some (total,signal) →
        (∃ counts, (chunks.take (i + 1)).mapM (fun chunk => deltaTokens b.estimateMultiplier (generatedDeltaText chunk)) =
          some counts ∧ total = counts.sum) ∧
        (signal.isSome ↔ b.Reached total) ∧ (signal = none → b.Below total)) ∧
      readings.Pairwise fun before after => before.1 ≤ after.1 ∧
        b.estimatedRequestTokens before.1 ≤ b.estimatedRequestTokens after.1 ∧
        b.estimatedCostEur before.1 ≤ b.estimatedCostEur after.1 := by
  obtain ⟨readings,observed⟩ := @observes b 0 chunks plain
  refine ⟨readings,observed,observedLength observed,?_,?_⟩
  · intro i total signal here
    obtain ⟨⟨counts,sums,totalIs⟩,checked⟩ := observedAt observed here
    rw [zero_add] at totalIs
    refine ⟨⟨counts,sums,totalIs⟩,?_,?_⟩
    · rw [checked]
      exact checkIff
    · intro silent
      exact checkBelow (checked.symm.trans silent)
  · exact (observedMono observed).imp fun le => ⟨le,Nat.add_le_add_left le _,costMono le⟩

theorem freeOfCharge : (0 : ℚ) ≤ 0 := le_refl 0

def smallBudget : LiveBurnBudget :=
  { costCutoffEur := none, tokenCutoff := some 3, admissionInputTokens := 2, admissionInputCostEur := 0
    outputPricePer1mEur := 0, estimateMultiplier := 1, inputCost := freeOfCharge, outputPrice := freeOfCharge }

def deltaChunk (key : String) (value : Document) : Document :=
  .obj [(text "choices",.arr [.obj [(text "delta",.obj [(text key,value)])]])]

theorem liveBurnCutoffDemo : ∃ readings,
    observeChunks smallBudget 0 [deltaChunk "role" (.str (text "assistant")),deltaChunk "content" (.str (text "abcd"))] =
      some readings ∧ readings.length = 2 ∧ readings.map Prod.fst = [0,2] := by
  have plain : ∀ chunk ∈ [deltaChunk "role" (.str (text "assistant")),deltaChunk "content" (.str (text "abcd"))],
      ∀ c ∈ generatedDeltaText chunk, isSurrogate c = false := by
    have checked : ([deltaChunk "role" (.str (text "assistant")),deltaChunk "content" (.str (text "abcd"))].all fun chunk =>
        (generatedDeltaText chunk).all fun c => isSurrogate c = false) = true := by
      decide +kernel
    intro chunk mem c inside
    exact of_decide_eq_true (List.all_eq_true.mp (List.all_eq_true.mp checked chunk mem) c inside)
  obtain ⟨readings,observed,length,_⟩ := liveBurnCutoff smallBudget plain
  have shown : observeChunks smallBudget 0 [deltaChunk "role" (.str (text "assistant")),
      deltaChunk "content" (.str (text "abcd"))] = some [(0,none),(2,smallBudget.check 2)] := by
    decide +kernel
  have same := Option.some.inj (observed.symm.trans shown)
  exact ⟨readings,observed,length,by rw [same]; rfl⟩

-- A refusal reaches the cutoff by its own estimate, and the monitor counts nothing.
theorem refusalUncounted : observeChunks smallBudget 0 [deltaChunk "refusal" (.str (text "no"))] = some [(0,none)] ∧
    deltaTokens smallBudget.estimateMultiplier (text "no") = some 1 ∧ smallBudget.Reached 1 := by
  refine ⟨by decide +kernel,by decide +kernel,.inr ⟨3,rfl,by decide⟩⟩

end Cutoffs

end SlaifGateway.Streaming
