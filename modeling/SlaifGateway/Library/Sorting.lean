import Mathlib.Data.List.Sort

/-! Sorting by a key. Items with different keys stand in one order whatever order the list
had; items of one key keep the order of the list. -/
namespace SlaifGateway.Library.Sorting

variable {α κ : Type} [LinearOrder κ] {key : α → κ} {l l' : List α}

-- A stable sort, as `sorted(l, key=key)`.
def sortedBy (key : α → κ) (l : List α) : List α := l.insertionSort fun x y => key x ≤ key y

theorem sortedPerm : (sortedBy key l).Perm l := List.perm_insertionSort _ _

@[simp] theorem sortedMem {x : α} : x ∈ sortedBy key l ↔ x ∈ l := sortedPerm.mem_iff

instance sortTotal : Std.Total fun x y : α => key x ≤ key y := ⟨fun x y => le_total (key x) (key y)⟩
instance sortTrans : IsTrans α fun x y : α => key x ≤ key y := ⟨fun _ _ _ => le_trans⟩

theorem sortedPairwise : (sortedBy key l).Pairwise fun x y => key x ≤ key y := List.pairwise_insertionSort _ _

-- The stability of the sort.
theorem sortedFilter (k : κ) : (sortedBy key l).filter (key · = k) = l.filter (key · = k) := by
  have level : (l.filter (key · = k)).Pairwise fun x y => key x ≤ key y := by
    refine List.pairwise_of_forall_mem_list fun x mem y other => ?_
    rw [of_decide_eq_true (List.mem_filter.mp mem).2,of_decide_eq_true (List.mem_filter.mp other).2]
  have kept : (l.filter (key · = k)).Sublist (sortedBy key l) := List.sublist_insertionSort level List.filter_sublist
  have inside := kept.filter (key · = k)
  rw [List.filter_filter] at inside
  simp only [Bool.and_self] at inside
  exact (inside.eq_of_length (sortedPerm.filter _).length_eq.symm).symm

-- The sort of what a filter keeps is what the filter keeps of the sort.
theorem insertedFilter (p : α → Bool) (a : α) (sorted : l.Pairwise fun x y => key x ≤ key y) :
    (l.orderedInsert (fun x y => key x ≤ key y) a).filter p =
      if p a then (l.filter p).orderedInsert (fun x y => key x ≤ key y) a else l.filter p := by
  induction l with
  | nil => by_cases kept : p a <;> simp [kept]
  | cons b rest ih =>
    obtain ⟨least,later⟩ := List.pairwise_cons.mp sorted
    rw [List.orderedInsert]
    split_ifs with first kept kept
    · rw [List.filter_cons_of_pos kept]
      cases shape : (b :: rest).filter p with
      | nil => rfl
      | cons c more =>
        have listed : c ∈ b :: rest := List.mem_of_mem_filter (shape ▸ List.mem_cons_self)
        have below : key a ≤ key c := by
          rcases List.mem_cons.mp listed with rfl | inside
          · exact first
          · exact first.trans (least c inside)
        rw [List.orderedInsert,if_pos below]
    · rw [List.filter_cons_of_neg kept]
    · have same := ih later
      rw [if_pos kept] at same
      by_cases head : p b
      · rw [List.filter_cons_of_pos head,List.filter_cons_of_pos head,same,List.orderedInsert,if_neg first]
      · rw [List.filter_cons_of_neg head,List.filter_cons_of_neg head,same]
    · have same := ih later
      rw [if_neg kept] at same
      by_cases head : p b
      · rw [List.filter_cons_of_pos head,List.filter_cons_of_pos head,same]
      · rw [List.filter_cons_of_neg head,List.filter_cons_of_neg head,same]

theorem filterSorted (p : α → Bool) : (sortedBy key l).filter p = sortedBy key (l.filter p) := by
  induction l with
  | nil => rfl
  | cons a rest ih =>
    have inserted := @insertedFilter _ _ _ key _ p a (@sortedPairwise _ _ _ key rest)
    rw [ih] at inserted
    refine inserted.trans ?_
    by_cases kept : p a
    · rw [if_pos kept,List.filter_cons_of_pos kept]
      rfl
    · rw [if_neg kept,List.filter_cons_of_neg kept]

-- What a page keeps of the list stands at the front of the page of what is kept.
theorem filterTake (p : α → Bool) (n : ℕ) : (l.take n).filter p <+: (l.filter p).take n := by
  rw [List.prefix_take_iff]
  refine ⟨(List.take_prefix n l).filter p,?_⟩
  exact (List.length_filter_le _ _).trans (List.length_take_le n l)

theorem sortedUnique (apart : ∀ x ∈ l, ∀ y ∈ l, key x = key y → x = y) (perm : l'.Perm l) :
    sortedBy key l' = sortedBy key l := by
  refine List.Perm.eq_of_pairwise (fun x y mem other below above => ?_) sortedPairwise sortedPairwise
    (sortedPerm.trans (perm.trans sortedPerm.symm))
  exact apart x (perm.mem_iff.mp (sortedMem.mp mem)) y (sortedMem.mp other) (le_antisymm below above)

theorem orderFreeIff : (∀ l', l'.Perm l → sortedBy key l' = sortedBy key l) ↔
    ∀ x ∈ l, ∀ y ∈ l, key x = key y → x = y := by
  classical
  refine ⟨fun free x mem y other same => ?_,fun apart l' perm => sortedUnique apart perm⟩
  by_contra differ
  have later : y ∈ l.erase x := (List.mem_erase_of_ne (Ne.symm differ)).mpr other
  have split : l.Perm (x :: y :: (l.erase x).erase y) :=
    (List.perm_cons_erase mem).trans ((List.perm_cons_erase later).cons x)
  have swapped : l.Perm (y :: x :: (l.erase x).erase y) := split.trans (List.Perm.swap y x _)
  have equal := (free _ split.symm).trans (free _ swapped.symm).symm
  have filtered := congrArg (List.filter (key · = key y)) equal
  rw [sortedFilter,sortedFilter] at filtered
  simp only [List.filter_cons,same,decide_true,if_true] at filtered
  exact differ (List.cons.inj filtered).1

end SlaifGateway.Library.Sorting
