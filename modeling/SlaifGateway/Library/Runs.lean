import Mathlib.Init

/-! Runs of a system whose step either commits or changes nothing. `commits` keeps
the transactions that took effect, with the states around each; `Along` states a
condition at every step's own state, committed or not. -/
namespace SlaifGateway.Library

structure Commit (σ ω : Type) where
  before : σ
  op : ω
  after : σ

namespace Runs
variable {σ ω : Type} (next : σ → ω → Option σ)

def advance (s : σ) (o : ω) : σ := (next s o).getD s

def run (s : σ) (ops : List ω) : σ := ops.foldl (advance next) s

def commits : σ → List ω → List (Commit σ ω)
  | _,[] => []
  | s,o::rest =>
    match next s o with
    | some s' => ⟨s,o,s'⟩ :: commits s' rest
    | none => commits s rest

def Along (p : σ → ω → Prop) : σ → List ω → Prop
  | _,[] => True
  | s,o::rest => p s o ∧ Along p (advance next s o) rest

variable {next} {p : σ → ω → Prop}

theorem alongForall {s ops} (h : ∀ o ∈ ops, ∀ s, p s o) : Along next p s ops := by
  induction ops generalizing s with
  | nil => trivial
  | cons o rest ih => exact ⟨h o List.mem_cons_self s,ih fun o mem => h o (List.mem_cons_of_mem _ mem)⟩

theorem alongAppend {s ops more} : Along next p s (ops ++ more) ↔
    Along next p s ops ∧ Along next p (run next s ops) more := by
  induction ops generalizing s with
  | nil => simp [Along,run]
  | cons o rest ih =>
    simp only [List.cons_append,Along,ih]
    exact and_assoc.symm

theorem historyFrom (inv : σ → List (Commit σ ω) → Prop)
    (step : ∀ s log o s', inv s log → p s o → next s o = some s' → inv s' (log ++ [⟨s,o,s'⟩]))
    {s log ops} (start : inv s log) (along : Along next p s ops) :
    inv (run next s ops) (log ++ commits next s ops) := by
  induction ops generalizing s log with
  | nil => simpa [run,commits] using start
  | cons o rest ih =>
    obtain ⟨here,later⟩ := along
    unfold commits
    cases result : next s o with
    | none =>
      have idle : advance next s o = s := by simp [advance,result]
      rw [idle] at later
      simp only [run,List.foldl_cons,idle]
      exact ih start later
    | some s' =>
      have moved : advance next s o = s' := by simp [advance,result]
      rw [moved] at later
      simp only [run,List.foldl_cons,moved]
      have tail := ih (step s log o s' start here result) later
      rw [List.append_assoc] at tail
      exact tail

/-- A property of the state and of the transactions committed so far that every
committing step carries on holds at the end of every run. -/
theorem historyRun (inv : σ → List (Commit σ ω) → Prop)
    (step : ∀ s log o s', inv s log → p s o → next s o = some s' → inv s' (log ++ [⟨s,o,s'⟩]))
    {s ops} (start : inv s []) (along : Along next p s ops) : inv (run next s ops) (commits next s ops) :=
  historyFrom inv step start along

theorem invariantRun (inv : σ → Prop)
    (step : ∀ s o s', inv s → p s o → next s o = some s' → inv s')
    {s ops} (start : inv s) (along : Along next p s ops) : inv (run next s ops) := by
  exact historyRun (fun s _ => inv s) (fun s _ o s' h here result => step s o s' h here result)
    (start : inv s) along

/-- What every commit made from an invariant state guarantees holds of every entry of the log. -/
theorem commitsForall (inv : σ → Prop) (q : Commit σ ω → Prop)
    (step : ∀ s o s', inv s → p s o → next s o = some s' → inv s' ∧ q ⟨s,o,s'⟩)
    {s ops} (start : inv s) (along : Along next p s ops) : ∀ c ∈ commits next s ops, q c := by
  have carry : ∀ s log o s', (inv s ∧ ∀ c ∈ log, q c) → p s o → next s o = some s' →
      inv s' ∧ ∀ c ∈ log ++ [⟨s,o,s'⟩], q c := by
    rintro s log o s' ⟨h,past⟩ here result
    obtain ⟨kept,made⟩ := step s o s' h here result
    refine ⟨kept,fun c mem => ?_⟩
    rcases List.mem_append.mp mem with mem | mem
    · exact past c mem
    · rw [List.mem_singleton.mp mem]
      exact made
  have empty : ∀ c ∈ ([] : List (Commit σ ω)), q c := by simp
  exact (historyRun (fun s log => inv s ∧ ∀ c ∈ log, q c) carry ⟨start,empty⟩ along).2
end Runs
end SlaifGateway.Library
