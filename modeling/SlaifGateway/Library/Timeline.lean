import Mathlib.Data.List.MinMax
import Mathlib.Order.Basic
import SlaifGateway.Library.Table

/-! Rows valid in half-open windows and the row in force for a key at an instant: the
latest one to start among those that cover it. `Cut` is what a transaction at one
instant does to them: some windows end there, new ones open there, nothing else moves. -/
namespace SlaifGateway.Library

structure Dated (ρ κ τ ω : Type) [LinearOrder τ] [LinearOrder ω] where
  key : ρ → κ
  start : ρ → τ
  stop : ρ → Option τ
  live : ρ → Bool
  rank : ρ → ω
  close : ρ → τ → ρ
  later : ∀ {a b}, start a < start b → rank a < rank b
  keyClose : ∀ r t, key (close r t) = key r
  startClose : ∀ r t, start (close r t) = start r
  stopClose : ∀ r t, stop (close r t) = some t
  liveClose : ∀ r t, live (close r t) = live r

namespace Dated
variable {ρ κ τ ω : Type} [LinearOrder τ] [LinearOrder ω] (d : Dated ρ κ τ ω)

def Covers (r : ρ) (t : τ) : Prop := d.live r = true ∧ d.start r ≤ t ∧ ∀ e ∈ d.stop r, t < e

instance (r : ρ) (t : τ) : Decidable (d.Covers r t) := by unfold Covers; infer_instance

def Separate (rows : List ρ) : Prop :=
  ∀ a ∈ rows, ∀ b ∈ rows, d.key a = d.key b → d.start a = d.start b → a = b

section Lookup
variable [DecidableEq κ]

def inForce (rows : List ρ) (k : κ) (t : τ) : Option ρ :=
  (rows.filter fun r => d.key r = k ∧ d.Covers r t).argmax d.rank

variable {d} {rows : List ρ} {k : κ} {t : τ} {r : ρ}

theorem inForceNone : d.inForce rows k t = none ↔ ∀ r ∈ rows, d.key r = k → ¬d.Covers r t := by
  simp [inForce,List.argmax_eq_none,List.filter_eq_nil_iff]

theorem inForceIff (apart : d.Separate rows) : d.inForce rows k t = some r ↔
    r ∈ rows ∧ d.key r = k ∧ d.Covers r t ∧
      ∀ x ∈ rows, d.key x = k → d.Covers x t → d.start x ≤ d.start r := by
  have best : ∀ m, d.inForce rows k t = some m → m ∈ rows ∧ d.key m = k ∧ d.Covers m t ∧
      ∀ x ∈ rows, d.key x = k → d.Covers x t → d.rank x ≤ d.rank m := by
    intro m found
    have mem := List.argmax_mem found
    simp only [List.mem_filter,decide_eq_true_eq] at mem
    refine ⟨mem.1,mem.2.1,mem.2.2,fun x here key covers => ?_⟩
    exact List.le_of_mem_argmax (List.mem_filter.mpr ⟨here,by simp [key,covers]⟩) found
  constructor
  · intro found
    obtain ⟨mem,key,covers,top⟩ := best r found
    refine ⟨mem,key,covers,fun x here same other => ?_⟩
    by_contra after
    exact absurd (top x here same other) (not_le.mpr (d.later (not_le.mp after)))
  · rintro ⟨mem,key,covers,top⟩
    cases found : d.inForce rows k t with
    | none => exact absurd covers (inForceNone.mp found r mem key)
    | some m =>
      obtain ⟨here,same,other,high⟩ := best m found
      have before : d.start m ≤ d.start r := top m here same other
      have after : d.start r ≤ d.start m := by
        by_contra early
        exact absurd (high r mem key covers) (not_le.mpr (d.later (not_le.mp early)))
      rw [apart m here r mem (same.trans key.symm) (le_antisymm before after)]
end Lookup

def Trimmed (T : τ) (inserted : List ρ) (r r' : ρ) : Prop :=
  r' = r ∨ r' = d.close r T ∧ (∀ e ∈ d.stop r, T < e) ∧ ∃ n ∈ inserted, d.key n = d.key r

def Opened (T : τ) (n : ρ) : Prop := d.start n = T ∧ d.stop n = none ∧ d.live n = true

structure Cut (T : τ) (before inserted after : List ρ) : Prop where
  kept : ∀ r ∈ before, ∃ r' ∈ after, d.Trimmed T inserted r r'
  came : ∀ r' ∈ after, r' ∈ inserted ∨ ∃ r ∈ before, d.Trimmed T inserted r r'
  opened : ∀ n ∈ inserted, n ∈ after ∧ d.Opened T n

variable {d} {T : τ} {inserted : List ρ}

theorem Trimmed.more {r r' n : ρ} (h : d.Trimmed T inserted r r') : d.Trimmed T (n :: inserted) r r' := by
  obtain rfl | ⟨closed,open',m,mem,key⟩ := h
  · exact Or.inl rfl
  · exact Or.inr ⟨closed,open',m,List.mem_cons_of_mem _ mem,key⟩

namespace Trimmed
variable {r r' : ρ} (h : d.Trimmed T inserted r r')
include h

theorem key : d.key r' = d.key r := by
  obtain rfl | ⟨rfl,_⟩ := h
  · rfl
  · exact d.keyClose r T

theorem start : d.start r' = d.start r := by
  obtain rfl | ⟨rfl,_⟩ := h
  · rfl
  · exact d.startClose r T

theorem live : d.live r' = d.live r := by
  obtain rfl | ⟨rfl,_⟩ := h
  · rfl
  · exact d.liveClose r T

theorem coversBefore {t : τ} (early : t < T) : d.Covers r' t ↔ d.Covers r t := by
  unfold Covers
  rw [h.live,h.start]
  obtain rfl | ⟨rfl,open',_⟩ := h
  · rfl
  · have left : ∀ e ∈ d.stop (d.close r T), t < e := by simpa [d.stopClose] using early
    have right : ∀ e ∈ d.stop r, t < e := fun e mem => early.trans (open' e mem)
    exact and_congr_right fun _ => and_congr_right fun _ => ⟨fun _ => right,fun _ => left⟩

theorem same (unplanned : ∀ n ∈ inserted, d.key n ≠ d.key r) : r' = r := by
  obtain rfl | ⟨_,_,n,mem,key⟩ := h
  · rfl
  · exact absurd key (unplanned n mem)
end Trimmed

namespace Cut
variable {before after : List ρ}

theorem refl (T : τ) (rows : List ρ) : d.Cut T rows [] rows :=
  ⟨fun r mem => ⟨r,mem,Or.inl rfl⟩,fun r mem => Or.inr ⟨r,mem,Or.inl rfl⟩,by simp⟩

theorem insert {mid : List ρ} {n : ρ} (h : d.Cut T before inserted mid) (new : d.Opened T n)
    (rows : ∀ x, x ∈ after ↔ x = n ∨ x ∈ mid) : d.Cut T before (n :: inserted) after := by
  refine ⟨fun r mem => ?_,fun r' mem => ?_,fun m mem => ?_⟩
  · obtain ⟨r',here,trimmed⟩ := h.kept r mem
    exact ⟨r',(rows r').mpr (Or.inr here),trimmed.more⟩
  · obtain rfl | old := (rows r').mp mem
    · exact Or.inl List.mem_cons_self
    · obtain known | ⟨r,here,trimmed⟩ := h.came r' old
      · exact Or.inl (List.mem_cons_of_mem _ known)
      · exact Or.inr ⟨r,here,trimmed.more⟩
  · obtain rfl | old := List.mem_cons.mp mem
    · exact ⟨(rows m).mpr (Or.inl rfl),new⟩
    · exact ⟨(rows m).mpr (Or.inr (h.opened m old).1),(h.opened m old).2⟩

-- Closing a row opened at the same instant would leave two rows of its key starting there.
theorem supersede {mid : List ρ} {n old : ρ} (h : d.Cut T before inserted mid) (new : d.Opened T n)
    (here : old ∈ mid) (open' : ∀ e ∈ d.stop old, T < e) (key : d.key n = d.key old)
    (rows : ∀ x, x ∈ after ↔ x = n ∨ x = d.close old T ∨ x ∈ mid ∧ x ≠ old)
    (apart : d.Separate after) : d.Cut T before (n :: inserted) after := by
  have closedHere : d.close old T ∈ after := (rows _).mpr (Or.inr (Or.inl rfl))
  have elsewhere : d.start old ≠ T := by
    intro same
    have equal : d.close old T = n := by
      refine apart _ closedHere n ((rows n).mpr (Or.inl rfl)) ?_ ?_
      · rw [d.keyClose,key]
      · rw [d.startClose,same,new.1]
    have stop := d.stopClose old T
    rw [equal,new.2.1] at stop
    cases stop
  have notOpened : old ∉ inserted := fun mem => elsewhere (h.opened old mem).2.1
  have trimmedOld : ∀ r, d.Trimmed T inserted r old → d.Trimmed T (n :: inserted) r (d.close old T) := by
    intro r trimmed
    obtain rfl | ⟨rfl,_⟩ := trimmed
    · exact Or.inr ⟨rfl,open',n,List.mem_cons_self,key⟩
    · exact absurd (open' T (d.stopClose r T)) (lt_irrefl T)
  refine ⟨fun r mem => ?_,fun r' mem => ?_,fun m mem => ?_⟩
  · obtain ⟨r',was,trimmed⟩ := h.kept r mem
    by_cases same : r' = old
    · subst same
      exact ⟨d.close r' T,closedHere,trimmedOld r trimmed⟩
    · exact ⟨r',(rows r').mpr (Or.inr (Or.inr ⟨was,same⟩)),trimmed.more⟩
  · obtain rfl | rfl | ⟨was,_⟩ := (rows r').mp mem
    · exact Or.inl List.mem_cons_self
    · obtain known | ⟨r,hr,trimmed⟩ := h.came old here
      · exact absurd known notOpened
      · exact Or.inr ⟨r,hr,trimmedOld r trimmed⟩
    · obtain known | ⟨r,hr,trimmed⟩ := h.came r' was
      · exact Or.inl (List.mem_cons_of_mem _ known)
      · exact Or.inr ⟨r,hr,trimmed.more⟩
  · obtain rfl | known := List.mem_cons.mp mem
    · exact ⟨(rows m).mpr (Or.inl rfl),new⟩
    · have other : m ≠ old := fun same => notOpened (same ▸ known)
      exact ⟨(rows m).mpr (Or.inr (Or.inr ⟨(h.opened m known).1,other⟩)),(h.opened m known).2⟩

variable [DecidableEq κ] (h : d.Cut T before inserted after) (apartBefore : d.Separate before)
  (apartAfter : d.Separate after) {k : κ} {t : τ}
include h apartBefore apartAfter

theorem inForcePast (early : t < T) : Option.Rel (d.Trimmed T inserted) (d.inForce before k t) (d.inForce after k t) := by
  have notNew : ∀ n ∈ inserted, ¬d.Covers n t := by
    intro n mem covers
    have start := (h.opened n mem).2.1
    exact absurd (start ▸ covers.2.1) (not_le.mpr early)
  cases found : d.inForce before k t with
  | none =>
    have empty : d.inForce after k t = none := by
      refine inForceNone.mpr fun r' mem key covers => ?_
      obtain known | ⟨r,here,trimmed⟩ := h.came r' mem
      · exact notNew r' known covers
      · exact inForceNone.mp found r here (trimmed.key ▸ key) ((trimmed.coversBefore early).mp covers)
    rw [empty]
    exact Option.Rel.none
  | some r =>
    obtain ⟨mem,key,covers,top⟩ := (inForceIff apartBefore).mp found
    obtain ⟨r',here,trimmed⟩ := h.kept r mem
    have now : d.inForce after k t = some r' := by
      refine (inForceIff apartAfter).mpr
        ⟨here,trimmed.key.trans key,(trimmed.coversBefore early).mpr covers,fun x hx same other => ?_⟩
      obtain known | ⟨y,hy,cut⟩ := h.came x hx
      · exact absurd other (notNew x known)
      · rw [cut.start,trimmed.start]
        exact top y hy (cut.key ▸ same) ((cut.coversBefore early).mp other)
    rw [now]
    exact Option.Rel.some trimmed

omit apartBefore in
theorem inForcePresent {n : ρ} (mem : n ∈ inserted) (late : T ≤ t)
    (next : ∀ r ∈ before, d.key r = d.key n → d.live r = true → T < d.start r → t < d.start r) :
    d.inForce after (d.key n) t = some n := by
  obtain ⟨here,start,stop,live⟩ := h.opened n mem
  refine (inForceIff apartAfter).mpr
    ⟨here,rfl,⟨live,start ▸ late,by simp [stop]⟩,fun x hx same covers => ?_⟩
  obtain known | ⟨y,hy,cut⟩ := h.came x hx
  · rw [(h.opened x known).2.1,start]
  · by_contra after'
    rw [start,not_le,cut.start] at after'
    have future := next y hy (cut.key ▸ same) (cut.live ▸ covers.1) after'
    exact absurd (cut.start ▸ covers.2.1) (not_le.mpr future)

omit [DecidableEq κ] apartBefore in
theorem presentUnique {n : ρ} (mem : n ∈ inserted)
    (gone : ∀ r ∈ before, d.key r = d.key n → d.Covers r T → r ∉ after) {x : ρ} (here : x ∈ after)
    (key : d.key x = d.key n) (covers : d.Covers x T) : x = n := by
  obtain ⟨there,opened⟩ := h.opened n mem
  obtain known | ⟨r,was,cut⟩ := h.came x here
  · exact apartAfter x here n there key ((h.opened x known).2.1.trans opened.1.symm)
  · obtain rfl | ⟨rfl,_⟩ := cut
    · exact absurd here (gone x was key covers)
    · exact absurd (covers.2.2 T (d.stopClose r T)) (lt_irrefl T)

theorem inForceElsewhere (unplanned : ∀ n ∈ inserted, d.key n ≠ k) :
    d.inForce after k t = d.inForce before k t := by
  have unchanged : ∀ r r', d.key r = k → d.Trimmed T inserted r r' → r' = r := fun r r' key trimmed =>
    trimmed.same fun n mem same => unplanned n mem (same.trans key)
  have rows : ∀ r, d.key r = k → (r ∈ after ↔ r ∈ before) := by
    intro r key
    constructor
    · intro mem
      obtain known | ⟨y,hy,cut⟩ := h.came r mem
      · exact absurd key (unplanned r known)
      · rw [unchanged y r (cut.key ▸ key) cut]
        exact hy
    · intro mem
      obtain ⟨r',here,cut⟩ := h.kept r mem
      rw [← unchanged r r' key cut]
      exact here
  cases found : d.inForce before k t with
  | none => exact inForceNone.mpr fun r mem key => inForceNone.mp found r ((rows r key).mp mem) key
  | some r =>
    obtain ⟨mem,key,covers,top⟩ := (inForceIff apartBefore).mp found
    exact (inForceIff apartAfter).mpr
      ⟨(rows r key).mpr mem,key,covers,fun x hx same => top x ((rows x same).mp hx) same⟩
end Cut

section Tables
variable {ι υ π : Type} {s : Schema ρ ι υ} {written : π → ρ → Prop}

/-- A table before and after one cut that carried out `plans`, with the rows it inserted. -/
structure Rewritten (d : Dated ρ κ τ ω) (written : π → ρ → Prop) (T : τ) (before : Table s) (plans : List π)
    (inserted : List ρ) (after : Table s) : Prop where
  cut : d.Cut T before.rows inserted after.rows
  fresh : ∀ n ∈ inserted, ∀ r ∈ before, s.key n ≠ s.key r
  planned : ∀ p ∈ plans, ∃ n ∈ inserted, written p n
  only : ∀ n ∈ inserted, ∃ p ∈ plans, written p n

theorem Trimmed.rowKey {r r' : ρ} (h : d.Trimmed T inserted r r') (keyClose : ∀ r t, s.key (d.close r t) = s.key r) :
    s.key r' = s.key r := by
  obtain rfl | ⟨rfl,_⟩ := h
  · rfl
  · exact keyClose r T

namespace Rewritten
variable {before mid after : Table s} {plans : List π} {n old : ρ} {p : π}

theorem none (t : Table s) : d.Rewritten written T t [] [] t := ⟨Cut.refl T t.rows,by simp,by simp,by simp⟩

variable (h : d.Rewritten written T before plans inserted mid) (wrote : written p n)
include h wrote

theorem extend (cut : d.Cut T before.rows (n :: inserted) after.rows) (fresh : ∀ r ∈ before, s.key n ≠ s.key r) :
    d.Rewritten written T before (plans ++ [p]) (n :: inserted) after := by
  refine ⟨cut,fun m mem => ?_,fun q mem => ?_,fun m mem => ?_⟩
  · obtain rfl | known := List.mem_cons.mp mem
    · exact fresh
    · exact h.fresh m known
  · obtain known | rfl := List.mem_append.mp mem |>.imp_right List.mem_singleton.mp
    · obtain ⟨m,here,done⟩ := h.planned q known
      exact ⟨m,List.mem_cons_of_mem _ here,done⟩
    · exact ⟨n,List.mem_cons_self,wrote⟩
  · obtain rfl | known := List.mem_cons.mp mem
    · exact ⟨p,by simp,wrote⟩
    · obtain ⟨q,here,done⟩ := h.only m known
      exact ⟨q,List.mem_append_left _ here,done⟩

variable (keyClose : ∀ r t, s.key (d.close r t) = s.key r)
include keyClose

theorem create (opened : d.Opened T n) (new : Table.Inserted mid n after) :
    d.Rewritten written T before (plans ++ [p]) (n :: inserted) after := by
  refine h.extend wrote (h.cut.insert opened new.mem) fun r mem => ?_
  obtain ⟨r',here,trimmed⟩ := h.cut.kept r mem
  exact trimmed.rowKey keyClose ▸ (new.fresh r' here).1

theorem supersede [DecidableEq ι] {closed : Table s} (separate : d.Separate after.rows) (opened : d.Opened T n)
    (open' : ∀ e ∈ d.stop old, T < e) (key : d.key n = d.key old)
    (shut : Table.Updated mid old (d.close old T) closed) (new : Table.Inserted closed n after) :
    d.Rewritten written T before (plans ++ [p]) (n :: inserted) after := by
  have rows : ∀ x, x ∈ after.rows ↔ x = n ∨ x = d.close old T ∨ x ∈ mid.rows ∧ x ≠ old := by
    intro x
    refine (new.mem x).trans (or_congr_right ((shut.memIff x).trans (or_congr_right (and_congr_right fun here => ?_))))
    exact not_congr ⟨fun same => Table.eqOfKey here shut.here same,congrArg s.key⟩
  refine h.extend wrote (h.cut.supersede opened shut.here open' key rows separate) fun r mem => ?_
  obtain ⟨r',here,trimmed⟩ := h.cut.kept r mem
  have same := trimmed.rowKey keyClose
  by_cases closedRow : r' = old
  · have apart := (new.fresh _ shut.memNew).1
    rw [keyClose,← closedRow,same] at apart
    exact apart
  · have kept : r' ∈ closed := (shut.memIff r').mpr
      (Or.inr ⟨here,fun equal => closedRow (Table.eqOfKey here shut.here equal)⟩)
    exact same ▸ (new.fresh r' kept).1
end Rewritten
end Tables
end Dated
end SlaifGateway.Library
