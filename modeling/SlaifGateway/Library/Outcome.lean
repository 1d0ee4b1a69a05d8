import Mathlib.Data.List.Basic

/-! What a successful run in `Except` says of its parts. -/
namespace SlaifGateway.Library
variable {ε α β : Type}

theorem okBind {x : Except ε α} {f : α → Except ε β} {b : β} (ok : (x >>= f) = .ok b) : ∃ a, x = .ok a ∧ f a = .ok b := by
  cases x with
  | error e => cases ok
  | ok a => exact ⟨a,rfl,ok⟩

-- `if bad: raise e`.
def failIf (bad : Prop) [Decidable bad] (e : ε) : Except ε Unit := if bad then .error e else .ok ()

theorem okFailIf {bad : Prop} {_ : Decidable bad} {e : ε} {u : Unit} (ok : failIf bad e = .ok u) : ¬bad := by
  unfold failIf at ok
  split at ok
  · cases ok
  · assumption

theorem failIfOk {bad : Prop} {_ : Decidable bad} {e : ε} (fine : ¬bad) : failIf bad e = .ok () := if_neg fine

theorem okMap {x : Except ε α} {f : α → β} {b : β} (ok : x.map f = .ok b) : ∃ a, x = .ok a ∧ f a = b := by
  cases x with
  | error e => cases ok
  | ok a =>
    cases ok
    exact ⟨a,rfl,rfl⟩

theorem okSome {x : Except ε α} (done : x.toOption.isSome = true) : ∃ a, x = .ok a := by
  cases x with
  | error e => cases done
  | ok a => exact ⟨a,rfl⟩

theorem mapMOk {f : α → Except ε β} {g : α → β} {xs : List α} (each : ∀ x ∈ xs, f x = .ok (g x)) :
    xs.mapM f = .ok (xs.map g) := by
  induction xs with
  | nil => rfl
  | cons x rest ih =>
    rw [List.mapM_cons,each x List.mem_cons_self,ih fun y mem => each y (List.mem_cons_of_mem _ mem)]
    rfl

theorem mapMIsOk {f : α → Except ε β} {xs : List α} :
    (xs.mapM f).isOk = true ↔ ∀ x ∈ xs, (f x).isOk = true := by
  induction xs with
  | nil => simp [Except.isOk,Except.toBool,pure,Except.pure]
  | cons x rest ih =>
    rw [List.mapM_cons,List.forall_mem_cons,← ih]
    cases f x with
    | error e => simp [Except.isOk,Except.toBool,bind,Except.bind]
    | ok y => cases rest.mapM f <;> simp [Except.isOk,Except.toBool,bind,Except.bind,pure,Except.pure]

theorem mapMError {f : α → Except ε β} {xs : List α} {e : ε} (failed : xs.mapM f = .error e) :
    ∃ x ∈ xs, f x = .error e := by
  induction xs with
  | nil => cases failed
  | cons x rest ih =>
    rw [List.mapM_cons] at failed
    cases first : f x with
    | error own =>
      rw [first] at failed
      cases failed
      exact ⟨x,List.mem_cons_self,first⟩
    | ok y =>
      rw [first] at failed
      cases later : rest.mapM f with
      | error own =>
        rw [later] at failed
        cases failed
        obtain ⟨z,mem,found⟩ := ih later
        exact ⟨z,List.mem_cons_of_mem x mem,found⟩
      | ok ys =>
        rw [later] at failed
        cases failed

-- Every result comes from an item, and every item gives one.
theorem mapMOf {f : α → Except ε β} {xs : List α} {ys : List β} (run : xs.mapM f = .ok ys) :
    (∀ x ∈ xs, ∃ y ∈ ys, f x = .ok y) ∧ ∀ y ∈ ys, ∃ x ∈ xs, f x = .ok y := by
  induction xs generalizing ys with
  | nil =>
    cases run
    simp
  | cons x rest ih =>
    rw [List.mapM_cons] at run
    obtain ⟨y,first,run⟩ := okBind run
    obtain ⟨others,later,run⟩ := okBind run
    cases run
    obtain ⟨forward,backward⟩ := ih later
    simp only [List.forall_mem_cons,List.exists_mem_cons_iff]
    refine ⟨⟨.inl first,fun z mem => ?_⟩,.inl first,fun z mem => .inr (backward z mem)⟩
    exact .inr (forward z mem)

end SlaifGateway.Library
