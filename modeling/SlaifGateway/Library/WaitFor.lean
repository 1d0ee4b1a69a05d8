import Mathlib.Data.List.Infix
import Mathlib.Logic.Relation
import Mathlib.Order.Basic

/-! Transactions that take exclusive locks one by one and hold them to their end. A
transaction is the list of what it locks, repetitions included; it may end, by commit
or rollback, at any point. Where one rank ascends along every list no reachable
configuration has a ring of waits. -/
namespace SlaifGateway.Library.WaitFor
variable {ι ρ α : Type}

inductive Phase where
  | running (taken : Nat)
  | ended
  deriving DecidableEq, Repr

section Configurations
variable (plan : ι → List ρ)

def held (c : ι → Phase) (i : ι) : List ρ :=
  match c i with
  | .running n => (plan i).take n
  | .ended => []

def wanted (c : ι → Phase) (i : ι) : Option ρ :=
  match c i with
  | .running n => (plan i)[n]?
  | .ended => none

inductive Step [DecidableEq ι] (c : ι → Phase) : (ι → Phase) → Prop
  | takes {i n x} (now : c i = .running n) (wants : (plan i)[n]? = some x) (free : ∀ j, j ≠ i → x ∉ held plan c j) :
      Step c (Function.update c i (.running (n + 1)))
  | ends {i n} (now : c i = .running n) : Step c (Function.update c i .ended)

def Reachable [DecidableEq ι] (c : ι → Phase) : Prop := Relation.ReflTransGen (Step plan) (fun _ => .running 0) c

def Waits (c : ι → Phase) (i j : ι) : Prop := i ≠ j ∧ ∃ x ∈ wanted plan c i, x ∈ held plan c j

/-- Some transaction waits, through others, for itself. -/
def Deadlocked (c : ι → Phase) : Prop := ∃ i, Relation.TransGen (Waits plan c) i i

/-- No row is locked twice. -/
def Exclusive (c : ι → Phase) : Prop := ∀ i j, i ≠ j → ∀ x ∈ held plan c i, x ∉ held plan c j
end Configurations

section Exclusion
variable [DecidableEq ι] {plan : ι → List ρ} {c c' : ι → Phase}

theorem heldSelf {i p} : held plan (Function.update c i p) i = match p with
    | .running n => (plan i).take n
    | .ended => [] := by
  simp [held]

theorem heldOther {i j p} (other : j ≠ i) : held plan (Function.update c i p) j = held plan c j := by
  simp [held,other]

/-- Every transaction either keeps what it holds or takes one row that was free. -/
theorem stepHeld (step : Step plan c c') :
    ∃ i, (∀ j, j ≠ i → held plan c' j = held plan c j) ∧
      ∀ x ∈ held plan c' i, x ∈ held plan c i ∨ ∀ j, j ≠ i → x ∉ held plan c j := by
  cases step with
  | takes now wants free =>
    rename_i i n x
    refine ⟨i,fun j other => heldOther other,fun y mem => ?_⟩
    rw [heldSelf] at mem
    simp only at mem
    rw [List.take_add_one,wants,Option.toList_some] at mem
    rcases List.mem_append.mp mem with old | new
    · left
      rw [held,now]
      exact old
    · right
      rw [List.mem_singleton.mp new]
      exact free
  | ends now =>
    rename_i i n
    refine ⟨i,fun j other => heldOther other,fun y mem => ?_⟩
    rw [heldSelf] at mem
    cases mem

theorem stepExclusive (step : Step plan c c') (before : Exclusive plan c) : Exclusive plan c' := by
  obtain ⟨k,others,own⟩ := stepHeld step
  intro i j apart x mine yours
  by_cases first : i = k
  · subst first
    rw [others j apart.symm] at yours
    rcases own x mine with old | free
    · exact before i j apart x old yours
    · exact free j apart.symm yours
  · rw [others i first] at mine
    by_cases second : j = k
    · subst second
      rcases own x yours with old | free
      · exact before i j apart x mine old
      · exact free i apart mine
    · rw [others j second] at yours
      exact before i j apart x mine yours

theorem reachableExclusive (reach : Reachable plan c) : Exclusive plan c := by
  induction reach with
  | refl =>
    intro i j _ x mine
    cases mine
  | tail _ step ih => exact stepExclusive step ih
end Exclusion

section Ranks

/-- Each entry is already held or ranks above everything held. -/
def Ascending [LT α] (rank : ρ → α) : List ρ → List ρ → Prop
  | _,[] => True
  | taken,x::rest => (x ∈ taken ∨ ∀ y ∈ taken, rank y < rank x) ∧ Ascending rank (x::taken) rest

instance decideAscending [LT α] [DecidableEq ρ] [DecidableRel (α := α) (· < ·)] (rank : ρ → α) :
    (taken rest : List ρ) → Decidable (Ascending rank taken rest)
  | _,[] => .isTrue trivial
  | taken,x::rest =>
    have := decideAscending rank (x::taken) rest
    inferInstanceAs (Decidable ((x ∈ taken ∨ ∀ y ∈ taken, rank y < rank x) ∧ Ascending rank (x::taken) rest))

variable [Preorder α] {rank : ρ → α} {taken rest : List ρ}

theorem ascendingAt {n x} (h : Ascending rank taken rest) (wants : rest[n]? = some x) :
    (x ∈ taken ∨ x ∈ rest.take n) ∨ ∀ y, y ∈ taken ∨ y ∈ rest.take n → rank y < rank x := by
  induction rest generalizing taken n with
  | nil => cases wants
  | cons z rest ih =>
    obtain ⟨first,later⟩ := h
    cases n with
    | zero =>
      cases wants
      simpa using first
    | succ n =>
      have deep := ih later wants
      simp only [List.mem_cons,List.take_succ_cons] at deep ⊢
      grind

theorem ascendingAppend {p q : List ρ} : Ascending rank taken (p ++ q) ↔
    Ascending rank taken p ∧ Ascending rank (p.reverse ++ taken) q := by
  induction p generalizing taken with
  | nil => simp [Ascending]
  | cons x p ih => simp [Ascending,ih,and_assoc]

theorem Ascending.initial {p q : List ρ} (h : Ascending rank taken q) (le : p <+: q) : Ascending rank taken p := by
  obtain ⟨more,rfl⟩ := le
  exact (ascendingAppend.mp h).1

theorem Ascending.mono {β : Type} [LT β] {other : ρ → β} (h : Ascending rank taken rest)
    (le : ∀ x y, (x ∈ taken ∨ x ∈ rest) → (y ∈ taken ∨ y ∈ rest) → rank x < rank y → other x < other y) :
    Ascending other taken rest := by
  induction rest generalizing taken with
  | nil => trivial
  | cons z rest ih =>
    obtain ⟨first,later⟩ := h
    refine ⟨first.imp_right fun above y mem => le y z (Or.inl mem) (Or.inr List.mem_cons_self) (above y mem),
      ih later fun x y inX inY => le x y ?_ ?_⟩
    · simp only [List.mem_cons] at inX ⊢
      tauto
    · simp only [List.mem_cons] at inY ⊢
      tauto

/-- Rows that are held already may be taken again. -/
theorem ascendingHeld (h : ∀ x ∈ rest, x ∈ taken) : Ascending rank taken rest := by
  induction rest generalizing taken with
  | nil => trivial
  | cons z rest ih =>
    exact ⟨Or.inl (h z List.mem_cons_self),ih fun x mem => List.mem_cons_of_mem _ (h x (List.mem_cons_of_mem _ mem))⟩

variable {plan : ι → List ρ} {c : ι → Phase}

theorem wantedAbove {i x y} (exclusive : Exclusive plan c) (ascending : Ascending rank [] (plan i))
    (wants : x ∈ wanted plan c i) {j} (waits : x ∈ held plan c j) (apart : i ≠ j) (holds : y ∈ held plan c i) :
    rank y < rank x := by
  have foreign : x ∉ held plan c i := fun mine => exclusive i j apart x mine waits
  unfold wanted at wants
  unfold held at holds foreign
  cases now : c i with
  | ended =>
    rw [now] at wants
    cases wants
  | running n =>
    rw [now] at wants holds foreign
    simp only at wants holds foreign
    rcases ascendingAt ascending wants with (none | mine) | above
    · cases none
    · exact absurd mine foreign
    · exact above y (Or.inr holds)

theorem neverDeadlocked [DecidableEq ι] (ascending : ∀ i, Ascending rank [] (plan i)) (reach : Reachable plan c) :
    ¬Deadlocked plan c := by
  have exclusive := reachableExclusive reach
  rintro ⟨i,ring⟩
  -- the rank of what is waited for rises along every chain of waits
  have climb : ∀ j, Relation.TransGen (Waits plan c) i j →
      ∃ x ∈ wanted plan c i, (∃ k, i ≠ k ∧ x ∈ held plan c k) ∧ ∃ z ∈ held plan c j, rank x ≤ rank z := by
    intro j chain
    induction chain with
    | single waits =>
      obtain ⟨apart,x,wants,holds⟩ := waits
      exact ⟨x,wants,⟨_,apart,holds⟩,x,holds,le_refl _⟩
    | tail _ waits ih =>
      obtain ⟨x,wants,foreign,z,holds,le⟩ := ih
      obtain ⟨apart,y,wantsNext,holdsNext⟩ := waits
      have above := wantedAbove exclusive (ascending _) wantsNext holdsNext apart holds
      exact ⟨x,wants,foreign,y,holdsNext,le.trans above.le⟩
  obtain ⟨x,wants,⟨k,apart,foreign⟩,z,holds,le⟩ := climb i ring
  exact absurd (wantedAbove exclusive (ascending i) wants foreign apart holds) (not_lt_of_ge le)

/-- A list ascends by where its entries first occur. -/
theorem ascendingFirst [DecidableEq ρ] (p : List ρ) : Ascending (fun x => p.idxOf x) [] p := by
  suffices general : ∀ before rest, p = before ++ rest → Ascending (fun x => p.idxOf x) before.reverse rest from
    general [] p rfl
  intro before rest split
  induction rest generalizing before with
  | nil => trivial
  | cons x rest ih =>
    refine ⟨?_,by simpa using ih (before ++ [x]) (by simp [split])⟩
    by_cases old : x ∈ before
    · exact Or.inl (List.mem_reverse.mpr old)
    · refine Or.inr fun y mem => ?_
      have early : y ∈ before := List.mem_reverse.mp mem
      simp only [split,List.idxOf_append_of_mem early,List.idxOf_append_of_notMem old]
      have := List.idxOf_lt_length_of_mem early
      omega
end Ranks

section Crossing
variable [DecidableEq ι] {plan : ι → List ρ} {c : ι → Phase}

theorem takesMany {i n} (start : c i = .running 0) (long : n ≤ (plan i).length)
    (free : ∀ x ∈ (plan i).take n, ∀ j, j ≠ i → x ∉ held plan c j) :
    Relation.ReflTransGen (Step plan) c (Function.update c i (.running n)) := by
  induction n with
  | zero =>
    rw [← start,Function.update_eq_self]
  | succ n ih =>
    have before := ih (by omega) fun x mem => free x (List.take_subset_take_left _ (Nat.le_succ n) mem)
    have wants : (plan i)[n]? = some ((plan i)[n]) := List.getElem?_eq_getElem (by omega)
    have last : (plan i)[n] ∈ (plan i).take (n + 1) := List.mem_take_iff_getElem.mpr ⟨n,by omega,rfl⟩
    have alone : ∀ j, j ≠ i → (plan i)[n] ∉ held plan (Function.update c i (.running n)) j := by
      intro j other
      rw [heldOther other]
      exact free _ last j other
    have step := Step.takes (Function.update_self i _ c) wants alone
    rw [Function.update_idem] at step
    exact before.tail step

/-- Two transactions that take two rows in opposite orders, with nothing else in common before, can deadlock. -/
theorem crossingDeadlocks {i j x y} {p p' q q' : List ρ} (apart : i ≠ j) (first : plan i = p ++ x :: p')
    (second : plan j = q ++ y :: q') (wantsX : x ∈ q) (wantsY : y ∈ p) (disjoint : ∀ z ∈ q, z ∉ p) :
    ∃ c, Reachable plan c ∧ Deadlocked plan c := by
  let start : ι → Phase := fun _ => .running 0
  let middle := Function.update start i (.running p.length)
  let last := Function.update middle j (.running q.length)
  have heldI : held plan middle i = p := by simp [middle,heldSelf,first]
  have idle : ∀ k, k ≠ i → held plan middle k = [] := by
    intro k other
    rw [heldOther other]
    rfl
  have one : Relation.ReflTransGen (Step plan) start middle := by
    refine takesMany rfl (by simp [first]) fun z _ k _ holds => ?_
    cases holds
  have two : Relation.ReflTransGen (Step plan) middle last := by
    refine takesMany ?_ (by simp [second]) fun z mem k other holds => ?_
    · simp [middle,start,apart.symm]
    · rw [second,List.take_left' rfl] at mem
      by_cases same : k = i
      · subst same
        rw [heldI] at holds
        exact disjoint z mem holds
      · rw [idle k same] at holds
        cases holds
  have holdsI : held plan last i = p := by rw [heldOther apart,heldI]
  have holdsJ : held plan last j = q := by simp [last,heldSelf,second]
  have needsI : wanted plan last i = some x := by simp [wanted,last,middle,apart,first]
  have needsJ : wanted plan last j = some y := by simp [wanted,last,second]
  have forth : Waits plan last i j := ⟨apart,x,needsI,holdsJ ▸ wantsX⟩
  have back : Waits plan last j i := ⟨apart.symm,y,needsJ,holdsI ▸ wantsY⟩
  exact ⟨last,one.trans two,i,.tail (.single forth) back⟩
end Crossing
end SlaifGateway.Library.WaitFor
