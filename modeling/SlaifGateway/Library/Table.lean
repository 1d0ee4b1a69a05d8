import Mathlib.Algebra.Order.BigOperators.Group.List
import Mathlib.Algebra.BigOperators.Group.List.Basic
import Mathlib.Data.List.Perm.Subperm
import Mathlib.Data.List.Pairwise
import Mathlib.Tactic.Abel

/-! A table with a primary key, one further unique column and a row check. A
write that would break one of them returns `none`; rollback is the caller's.
Secondary indexes, foreign keys and deletion are absent. -/
namespace SlaifGateway.Library

structure Schema (α κ υ : Type) where
  key : α → κ
  unique : α → υ
  Valid : α → Prop
  [decidableValid : DecidablePred Valid]

namespace Schema
variable {α κ υ : Type}

instance (s : Schema α κ υ) : DecidablePred s.Valid := s.decidableValid

def Apart (s : Schema α κ υ) (a b : α) : Prop := s.key a ≠ s.key b ∧ s.unique a ≠ s.unique b

instance [DecidableEq κ] [DecidableEq υ] (s : Schema α κ υ) (a b : α) : Decidable (s.Apart a b) := by
  unfold Apart; infer_instance

instance (s : Schema α κ υ) : Std.Symm s.Apart := ⟨fun _ _ h => ⟨h.1.symm,h.2.symm⟩⟩
end Schema

structure Table {α κ υ : Type} (s : Schema α κ υ) where
  rows : List α
  apart : rows.Pairwise s.Apart
  valid : ∀ r ∈ rows, s.Valid r

namespace Table
variable {α κ υ : Type} {s : Schema α κ υ}

instance : Membership α (Table s) := ⟨fun t r => r ∈ t.rows⟩

instance [DecidableEq α] (r : α) (t : Table s) : Decidable (r ∈ t) := inferInstanceAs (Decidable (r ∈ t.rows))

def empty : Table s := ⟨[],List.Pairwise.nil,by simp⟩

theorem validOf {t : Table s} {r} (h : r ∈ t) : s.Valid r := t.valid r h

theorem eqOfKey {t : Table s} {a b} (left : a ∈ t) (right : b ∈ t) (same : s.key a = s.key b) : a = b := by
  by_contra distinct
  exact (t.apart.forall left right distinct).1 same

theorem eqOfUnique {t : Table s} {a b} (left : a ∈ t) (right : b ∈ t) (same : s.unique a = s.unique b) :
    a = b := by
  by_contra distinct
  exact (t.apart.forall left right distinct).2 same

def filter (t : Table s) (p : α → Bool) : List α := t.rows.filter p

theorem memFilter {t : Table s} {p r} : r ∈ t.filter p ↔ r ∈ t ∧ p r = true := List.mem_filter

theorem filterNil {t : Table s} {p : α → Bool} (none : t.filter p = []) {r} (mem : r ∈ t) : ¬p r = true :=
  List.filter_eq_nil_iff.mp none r mem

section ByKey
variable [DecidableEq κ]

def find (t : Table s) (k : κ) : Option α := t.rows.find? fun r => s.key r = k

theorem findIff {t : Table s} {k r} : t.find k = some r ↔ r ∈ t ∧ s.key r = k := by
  constructor
  · intro found
    have key : s.key r = k := by simpa using List.find?_some found
    exact ⟨List.mem_of_find?_eq_some found,key⟩
  · rintro ⟨mem,rfl⟩
    cases found : t.find (s.key r) with
    | none => simpa using List.find?_eq_none.mp found r mem
    | some other =>
      have key : s.key other = s.key r := by simpa using List.find?_some found
      rw [eqOfKey (List.mem_of_find?_eq_some found) mem key]

theorem findNone {t : Table s} {k} : t.find k = none ↔ ∀ r ∈ t, s.key r ≠ k := by
  simp [find,List.find?_eq_none,Membership.mem]
end ByKey

section ByUnique
variable [DecidableEq υ]

def findUnique (t : Table s) (u : υ) : Option α := t.rows.find? fun r => s.unique r = u

theorem findUniqueIff {t : Table s} {u r} : t.findUnique u = some r ↔ r ∈ t ∧ s.unique r = u := by
  constructor
  · intro found
    have key : s.unique r = u := by simpa using List.find?_some found
    exact ⟨List.mem_of_find?_eq_some found,key⟩
  · rintro ⟨mem,rfl⟩
    cases found : t.findUnique (s.unique r) with
    | none => simpa using List.find?_eq_none.mp found r mem
    | some other =>
      have key : s.unique other = s.unique r := by simpa using List.find?_some found
      rw [eqOfUnique (List.mem_of_find?_eq_some found) mem key]

theorem findUniqueNone {t : Table s} {u} : t.findUnique u = none ↔ ∀ r ∈ t, s.unique r ≠ u := by
  simp [findUnique,List.find?_eq_none,Membership.mem]
end ByUnique

/-- What a successful insert did. -/
structure Inserted (t : Table s) (r : α) (t' : Table s) : Prop where
  valid : s.Valid r
  fresh : ∀ x ∈ t, s.Apart r x
  rows : t'.rows = r :: t.rows

namespace Inserted
variable {t t' : Table s} {r : α}

theorem mem (h : Inserted t r t') (x : α) : x ∈ t' ↔ x = r ∨ x ∈ t := by
  change x ∈ t'.rows ↔ _
  rw [h.rows]
  exact List.mem_cons

theorem memNew (h : Inserted t r t') : r ∈ t' := (h.mem r).mpr (Or.inl rfl)

theorem memKept (h : Inserted t r t') {x} (mem : x ∈ t) : x ∈ t' := (h.mem x).mpr (Or.inr mem)

theorem notBefore (h : Inserted t r t') : r ∉ t := fun mem => (h.fresh r mem).1 rfl
end Inserted

section Replace
variable [DecidableEq κ]

def replaceRow (s : Schema α κ υ) (r x : α) : α := if s.key x = s.key r then r else x

theorem replaceApart {t : Table s} {r : α}
    (fresh : ∀ x ∈ t.rows, s.key x ≠ s.key r → s.unique x ≠ s.unique r) :
    (t.rows.map (replaceRow s r)).Pairwise s.Apart := by
  refine List.pairwise_map.mpr (t.apart.imp_of_mem ?_)
  intro a b left right apart
  unfold replaceRow
  split <;> split
  · rename_i ha hb
    exact absurd (ha.trans hb.symm) apart.1
  · rename_i hb
    exact ⟨Ne.symm hb,Ne.symm (fresh b right hb)⟩
  · rename_i ha _
    exact ⟨ha,fresh a left ha⟩
  · exact apart

/-- What a successful update of the row `old` did. -/
structure Updated (t : Table s) (old r : α) (t' : Table s) : Prop where
  valid : s.Valid r
  here : old ∈ t
  key : s.key r = s.key old
  rows : t'.rows = t.rows.map (replaceRow s r)

namespace Updated
variable {t t' : Table s} {old r : α}

/-- Every row afterwards is the new one or an untouched one of another key. -/
theorem memIff (h : Updated t old r t') (x : α) : x ∈ t' ↔ x = r ∨ x ∈ t ∧ s.key x ≠ s.key old := by
  change x ∈ t'.rows ↔ _
  rw [h.rows]
  constructor
  · intro mem
    obtain ⟨y,here,rfl⟩ := List.mem_map.mp mem
    unfold replaceRow
    split
    · exact Or.inl rfl
    · rename_i other
      exact Or.inr ⟨here,fun same => other (same.trans h.key.symm)⟩
  · rintro (rfl | ⟨mem,other⟩)
    · exact List.mem_map.mpr ⟨old,h.here,if_pos h.key.symm⟩
    · exact List.mem_map.mpr ⟨x,mem,if_neg fun same => other (same.trans h.key)⟩

theorem memNew (h : Updated t old r t') : r ∈ t' := (h.memIff r).mpr (Or.inl rfl)

theorem memKept (h : Updated t old r t') {x} (mem : x ∈ t) (other : s.key x ≠ s.key old) : x ∈ t' :=
  (h.memIff x).mpr (Or.inr ⟨mem,other⟩)

theorem findSelf (h : Updated t old r t') : t'.find (s.key old) = some r := findIff.mpr ⟨h.memNew,h.key⟩

theorem findOther (h : Updated t old r t') {k} (other : k ≠ s.key old) : t'.find k = t.find k := by
  refine Option.ext fun x => ?_
  simp only [findIff,h.memIff]
  constructor
  · rintro ⟨rfl | ⟨mem,_⟩,rfl⟩
    · exact absurd h.key other
    · exact ⟨mem,rfl⟩
  · rintro ⟨mem,rfl⟩
    exact ⟨Or.inr ⟨mem,other⟩,rfl⟩

/-- Two updates of one row in a transaction leave the second. -/
theorem trans {t'' : Table s} {r' : α} (first : Updated t old r t') (second : Updated t' r r' t'') :
    Updated t old r' t'' := by
  refine ⟨second.valid,first.here,second.key.trans first.key,?_⟩
  rw [second.rows,first.rows,List.map_map]
  refine List.map_congr_left fun x _ => ?_
  simp only [Function.comp_apply,replaceRow,first.key,second.key]
  split <;> simp [*,first.key]
end Updated
end Replace

theorem filterOne {t : Table s} {p : α → Bool} {r} (here : r ∈ t) (holds : p r = true)
    (only : ∀ x ∈ t, p x = true → s.key x = s.key r) : t.filter p = [r] := by
  have all : ∀ x ∈ t.filter p, x = r := by
    intro x mem
    obtain ⟨row,chosen⟩ := memFilter.mp mem
    exact eqOfKey row here (only x row chosen)
  have apart : (t.filter p).Pairwise s.Apart := t.apart.filter p
  have mem : r ∈ t.filter p := memFilter.mpr ⟨here,holds⟩
  cases rows : t.filter p with
  | nil => simp [rows] at mem
  | cons a tail =>
    rw [rows] at all apart
    have first : a = r := all a List.mem_cons_self
    cases tail with
    | nil => rw [first]
    | cons b _ =>
      have second : b = r := all b (List.mem_cons_of_mem _ List.mem_cons_self)
      have clash := ((List.pairwise_cons.mp apart).1 b List.mem_cons_self).1
      rw [first,second] at clash
      exact absurd rfl clash

theorem uniqueCount [DecidableEq υ] (t : Table s) (u : υ) : (t.rows.countP fun r => s.unique r = u) ≤ 1 := by
  rw [List.countP_eq_length_filter]
  have apart := t.apart.filter fun r => s.unique r = u
  cases rows : t.rows.filter fun r => s.unique r = u with
  | nil => simp
  | cons a tail =>
    cases tail with
    | nil => simp
    | cons b _ =>
      have same : ∀ r ∈ t.rows.filter fun r => s.unique r = u, s.unique r = u := by simp
      rw [rows] at apart same
      have first := same a List.mem_cons_self
      have second := same b (List.mem_cons_of_mem _ List.mem_cons_self)
      exact absurd (first.trans second.symm) ((List.pairwise_cons.mp apart).1 b List.mem_cons_self).2

section Writes
variable [DecidableEq κ] [DecidableEq υ]

def insert (t : Table s) (r : α) : Option (Table s) :=
  if h : s.Valid r ∧ ∀ x ∈ t.rows, s.Apart r x then
    some ⟨r :: t.rows,List.Pairwise.cons h.2 t.apart,by
      intro x mem
      rcases List.mem_cons.mp mem with rfl | mem
      · exact h.1
      · exact t.valid x mem⟩
  else none

def update (t : Table s) (r : α) : Option (Table s) :=
  if h : s.Valid r ∧ (∃ x ∈ t.rows, s.key x = s.key r) ∧
      ∀ x ∈ t.rows, s.key x ≠ s.key r → s.unique x ≠ s.unique r then
    some ⟨t.rows.map (replaceRow s r),replaceApart h.2.2,by
      intro x mem
      obtain ⟨y,here,rfl⟩ := List.mem_map.mp mem
      unfold replaceRow
      split
      · exact h.1
      · exact t.valid y here⟩
  else none

theorem insertOk {t t' : Table s} {r} (ok : t.insert r = some t') : Inserted t r t' := by
  unfold insert at ok
  split at ok <;> try contradiction
  rename_i h
  cases Option.some.inj ok
  exact ⟨h.1,h.2,rfl⟩

theorem insertOf {t : Table s} {r} (valid : s.Valid r) (fresh : ∀ x ∈ t, s.Apart r x) :
    ∃ t', t.insert r = some t' := by
  unfold insert
  rw [dif_pos ⟨valid,fresh⟩]
  exact ⟨_,rfl⟩

theorem updateOk {t t' : Table s} {old r} (here : old ∈ t) (ok : t.update r = some t')
    (key : s.key r = s.key old) : Updated t old r t' := by
  unfold update at ok
  split at ok <;> try contradiction
  rename_i h
  cases Option.some.inj ok
  exact ⟨h.1,here,key,rfl⟩

theorem updateOf {t : Table s} {old r : α} (here : old ∈ t) (valid : s.Valid r) (key : s.key r = s.key old)
    (unique : s.unique r = s.unique old) : ∃ t', t.update r = some t' := by
  unfold update
  rw [dif_pos]
  · exact ⟨_,rfl⟩
  · refine ⟨valid,⟨old,here,key.symm⟩,fun x mem other same => other ?_⟩
    rw [eqOfUnique (t := t) mem here (same.trans unique),key]
end Writes

section Total
variable {M : Type} [AddCommMonoid M]

def total (t : Table s) (w : α → M) : M := (t.rows.map w).sum

theorem insertTotal {t t' : Table s} {r} (h : Inserted t r t') (w : α → M) :
    t'.total w = w r + t.total w := by
  simp only [total,h.rows,List.map_cons,List.sum_cons]

theorem sumReplaced [DecidableEq κ] {rows : List α} {old r : α} (apart : rows.Pairwise s.Apart)
    (here : old ∈ rows) (key : s.key r = s.key old) (w : α → M) :
    ((rows.map (replaceRow s r)).map w).sum + w old = (rows.map w).sum + w r := by
  induction rows with
  | nil => simp at here
  | cons head tail ih =>
    obtain ⟨fresh,rest⟩ := List.pairwise_cons.mp apart
    simp only [List.map_cons,List.sum_cons]
    rcases List.mem_cons.mp here with rfl | mem
    · -- no later row carries this key, so the tail is copied unchanged
      have copied : tail.map (replaceRow s r) = tail := by
        refine (List.map_congr_left fun x mem => ?_).trans (List.map_id tail)
        exact if_neg fun same => (fresh x mem).1 (key.symm.trans same.symm)
      rw [copied,replaceRow,if_pos key.symm]
      abel
    · have other : s.key head ≠ s.key r := by rw [key]; exact (fresh old mem).1
      rw [replaceRow,if_neg other,add_assoc,ih rest mem,add_assoc]

theorem updateTotal [DecidableEq κ] {t t' : Table s} {old r} (h : Updated t old r t') (w : α → M) :
    t'.total w + w old = t.total w + w r := by
  rw [total,h.rows]
  exact sumReplaced t.apart h.here h.key w

theorem totalZero {t : Table s} {w : α → M} (h : ∀ r ∈ t, w r = 0) : t.total w = 0 := by
  refine List.sum_eq_zero fun x mem => ?_
  obtain ⟨r,here,rfl⟩ := List.mem_map.mp mem
  exact h r here

theorem sumOnly {rows : List α} {w : α → M} {r} (once : rows.Nodup) (here : r ∈ rows)
    (others : ∀ x ∈ rows, x ≠ r → w x = 0) : (rows.map w).sum = w r := by
  induction rows with
  | nil => simp at here
  | cons head tail ih =>
    obtain ⟨fresh,rest⟩ := List.nodup_cons.mp once
    simp only [List.map_cons,List.sum_cons]
    rcases List.mem_cons.mp here with rfl | mem
    · have silent : (tail.map w).sum = 0 := by
        refine List.sum_eq_zero fun x mem => ?_
        obtain ⟨y,inTail,rfl⟩ := List.mem_map.mp mem
        exact others y (List.mem_cons_of_mem _ inTail) fun same => fresh (same ▸ inTail)
      rw [silent,add_zero]
    · rw [others head List.mem_cons_self fun same => fresh (same ▸ mem),zero_add]
      exact ih rest mem fun x inTail => others x (List.mem_cons_of_mem _ inTail)

theorem totalOnly {t : Table s} {w : α → M} {r} (here : r ∈ t) (others : ∀ x ∈ t, x ≠ r → w x = 0) :
    t.total w = w r := by
  refine sumOnly (t.apart.imp fun {a b} apart same => ?_) here others
  exact apart.1 (by rw [same])

/-- Two tables with the same rows of a kind weigh the same, if only these weigh and they weigh alike. -/
theorem totalAgree [DecidableEq α] {t t' : Table s} {w w' : α → M} (p : α → Prop) [DecidablePred p]
    (same : ∀ r, p r → (r ∈ t ↔ r ∈ t')) (alike : ∀ r ∈ t, p r → w r = w' r) (left : ∀ r ∈ t, ¬p r → w r = 0)
    (right : ∀ r ∈ t', ¬p r → w' r = 0) : t.total w = t'.total w' := by
  have weighs : ∀ {u : Table s} {v : α → M}, (∀ r ∈ u, ¬p r → v r = 0) →
      u.total v = ((u.rows.filter p).map v).sum := by
    intro u v light
    have silent : ((u.rows.filter fun r => !decide (p r)).map v).sum = 0 := by
      refine List.sum_eq_zero fun x mem => ?_
      obtain ⟨r,kept,rfl⟩ := List.mem_map.mp mem
      obtain ⟨here,no⟩ := List.mem_filter.mp kept
      exact light r here (by simpa using no)
    have split := (List.filter_append_perm (fun r => decide (p r)) u.rows).map v
    rw [total,← split.sum_eq,List.map_append,List.sum_append,silent,add_zero]
  have once : ∀ u : Table s, (u.rows.filter fun r => decide (p r)).Nodup :=
    fun u => (u.apart.imp fun {a b} apart one => apart.1 (by rw [one])).filter _
  have perm : (t.rows.filter fun r => decide (p r)).Perm (t'.rows.filter fun r => decide (p r)) := by
    refine (List.perm_ext_iff_of_nodup (once t) (once t')).mpr fun r => ?_
    simp only [List.mem_filter,decide_eq_true_eq]
    exact ⟨fun h => ⟨(same r h.2).mp h.1,h.2⟩,fun h => ⟨(same r h.2).mpr h.1,h.2⟩⟩
  rw [weighs left,weighs right,← (perm.map w').sum_eq]
  refine congrArg List.sum (List.map_congr_left fun r mem => ?_)
  obtain ⟨here,kind⟩ := List.mem_filter.mp mem
  exact alike r here (of_decide_eq_true kind)

/-- Distinct rows of a table weigh at most the whole table. -/
theorem rowsLeTotal [PartialOrder M] [IsOrderedAddMonoid M] {t : Table s} {w : α → M}
    (nonneg : ∀ r ∈ t, 0 ≤ w r) {rows : List α} (once : rows.Nodup) (here : ∀ r ∈ rows, r ∈ t) :
    (rows.map w).sum ≤ t.total w := by
  obtain ⟨sub,perm,sublist⟩ := List.subperm_of_subset once here
  rw [← (perm.map w).sum_eq]
  refine (sublist.map w).sum_le_sum fun x mem => ?_
  obtain ⟨r,inRows,rfl⟩ := List.mem_map.mp mem
  exact nonneg r inRows

theorem rowLeTotal [PartialOrder M] [IsOrderedAddMonoid M] {t : Table s} {w : α → M}
    (nonneg : ∀ r ∈ t, 0 ≤ w r) {r} (here : r ∈ t) : w r ≤ t.total w := by
  refine List.single_le_sum ?_ (w r) (List.mem_map.mpr ⟨r,here,rfl⟩)
  intro x mem
  obtain ⟨y,inRows,rfl⟩ := List.mem_map.mp mem
  exact nonneg y inRows
end Total
end Table
end SlaifGateway.Library
