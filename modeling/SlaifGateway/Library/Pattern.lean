import Mathlib.Data.List.Basic

/-! Regular expressions by ordered backtracking: the ways a pattern consumes a beginning of the input, in the
order in which they are tried, and the leftmost substitution of its first way. -/
namespace SlaifGateway.Library

inductive Pattern (α : Type) where
  | char (accepts : α → Bool)
  | look (holds : Option α → List α → Bool)
  | many (least : ℕ) (most : Option ℕ) (accepts : α → Bool)
  | seq (first second : Pattern α)
  | alt (first second : Pattern α)

namespace Pattern
variable {α : Type} {p q : Pattern α} {before : Option α} {input : List α} {way : List α × List α} {f : α → Prop}

-- The longest beginning in the class, then every shorter one of at least the given length.
def takes (least : ℕ) (most : Option ℕ) (accepts : α → Bool) (input : List α) : List (List α × List α) :=
  let longest := (input.takeWhile accepts).length
  let upper := (most.map (min longest)).getD longest
  ((List.range (upper + 1)).reverse.filter (least ≤ ·)).map fun n => (input.take n,input.drop n)

-- What each way consumes, and what it leaves.
def run : Pattern α → Option α → List α → List (List α × List α)
  | .char _,_,[] => []
  | .char accepts,_,c :: rest => if accepts c then [([c],rest)] else []
  | .look holds,before,input => if holds before input then [([],input)] else []
  | .many least most accepts,_,input => takes least most accepts input
  | .seq first second,before,input => (run first before input).flatMap fun way =>
      (run second (way.1.getLast?.or before) way.2).map fun more => (way.1 ++ more.1,more.2)
  | .alt first second,before,input => run first before input ++ run second before input

-- `re.sub` of a pattern that consumes something; the fuel is the length of the input.
def subst (p : Pattern α) (replace : List α → List α) : ℕ → Option α → List α → List α
  | 0,_,input => input
  | _,_,[] => []
  | fuel + 1,before,c :: rest =>
    match run p before (c :: rest) with
    | [] => c :: subst p replace fuel (some c) rest
    | way :: _ => replace way.1 ++ subst p replace fuel (way.1.getLast?.or before) way.2

def sub (p : Pattern α) (replace : List α → List α) (input : List α) : List α :=
  subst p replace input.length none input

theorem runSplits (mem : way ∈ run p before input) : way.1 ++ way.2 = input := by
  induction p generalizing before input way with
  | char accepts =>
    cases input with
    | nil => cases mem
    | cons c rest =>
      unfold run at mem
      split at mem
      · rw [List.mem_singleton.mp mem]
        rfl
      · cases mem
  | look holds =>
    unfold run at mem
    split at mem
    · rw [List.mem_singleton.mp mem]
      rfl
    · cases mem
  | many least most accepts =>
    obtain ⟨n,_,rfl⟩ := List.mem_map.mp mem
    exact List.take_append_drop n input
  | seq first second left right =>
    obtain ⟨head,taken,inside⟩ := List.mem_flatMap.mp mem
    obtain ⟨more,tail,rfl⟩ := List.mem_map.mp inside
    rw [List.append_assoc,right tail,left taken]
  | alt first second left right =>
    rcases List.mem_append.mp mem with taken | taken
    · exact left taken
    · exact right taken

-- Every way of the pattern consumes something of this kind.
def Needs (f : α → Prop) (p : Pattern α) : Prop := ∀ before input, ∀ way ∈ run p before input, ∃ c ∈ way.1, f c

theorem needsChar {accepts : α → Bool} (kind : ∀ c, accepts c = true → f c) : Needs f (.char accepts) := by
  intro before input way mem
  cases input with
  | nil => cases mem
  | cons c rest =>
    unfold run at mem
    split at mem
    · next held =>
      rw [List.mem_singleton.mp mem]
      exact ⟨c,List.mem_singleton_self c,kind c held⟩
    · cases mem

theorem needsFirst (needs : Needs f p) : Needs f (.seq p q) := by
  intro before input way mem
  obtain ⟨head,taken,inside⟩ := List.mem_flatMap.mp mem
  obtain ⟨more,_,rfl⟩ := List.mem_map.mp inside
  obtain ⟨c,held,kind⟩ := needs _ _ _ taken
  exact ⟨c,List.mem_append_left _ held,kind⟩

theorem needsSecond (needs : Needs f q) : Needs f (.seq p q) := by
  intro before input way mem
  obtain ⟨head,_,inside⟩ := List.mem_flatMap.mp mem
  obtain ⟨more,taken,rfl⟩ := List.mem_map.mp inside
  obtain ⟨c,held,kind⟩ := needs _ _ _ taken
  exact ⟨c,List.mem_append_right _ held,kind⟩

theorem needsAlt (left : Needs f p) (right : Needs f q) : Needs f (.alt p q) := by
  intro before input way mem
  rcases List.mem_append.mp mem with taken | taken
  · exact left _ _ _ taken
  · exact right _ _ _ taken

theorem substKept (needs : Needs f p) (replace : List α → List α) (fuel : ℕ) (before : Option α)
    (none : ∀ c ∈ input, ¬f c) : subst p replace fuel before input = input := by
  induction fuel generalizing before input with
  | zero => rfl
  | succ fuel ih =>
    cases input with
    | nil => rfl
    | cons c rest =>
      unfold subst
      cases ways : run p before (c :: rest) with
      | nil =>
        dsimp only
        rw [ih _ fun d mem => none d (List.mem_cons_of_mem c mem)]
      | cons way others =>
        have mem : way ∈ run p before (c :: rest) := by
          rw [ways]
          exact List.mem_cons_self ..
        obtain ⟨d,held,kind⟩ := needs _ _ _ mem
        have inside : d ∈ c :: rest := by
          rw [← runSplits mem]
          exact List.mem_append_left _ held
        exact absurd kind (none d inside)

-- An input without what every match needs is left as it is.
theorem subKept (needs : Needs f p) (replace : List α → List α) (none : ∀ c ∈ input, ¬f c) :
    sub p replace input = input :=
  substKept needs replace _ _ none

-- A string that meets a replacement: an end of what stands before it, a part of it, then anything.
def Meets (earlier replacement e : List α) : Prop :=
  ∃ x z y, e = x ++ (z ++ y) ∧ z ≠ [] ∧ x <:+ earlier ∧ z <:+: replacement ∧ (x ≠ [] → z <+: replacement) ∧
    (y ≠ [] → z <:+ replacement)

theorem infixCases {x r y e : List α} (some : r ≠ []) (inside : e <:+: x ++ (r ++ y)) :
    e <:+: x ∨ e <:+: y ∨ Meets x r e := by
  obtain ⟨a,b,whole⟩ := inside
  rw [List.append_assoc] at whole
  rcases List.append_eq_append_iff.mp whole with ⟨c,rfl,tail⟩ | ⟨c,rfl,tail⟩
  · rcases List.append_eq_append_iff.mp tail with ⟨d,rfl,_⟩ | ⟨d,rfl,later⟩
    · exact .inl ⟨a,d,by simp⟩
    · have ends : c <:+ a ++ c := List.suffix_append a c
      rcases List.append_eq_append_iff.mp later with ⟨rest,rfl,_⟩ | ⟨rest,shape,_⟩
      · exact .inr (.inr ⟨c,r,rest,rfl,some,ends,List.infix_rfl,fun _ => List.prefix_rfl,fun _ => List.suffix_rfl⟩)
      · cases d with
        | nil => exact .inl ⟨a,[],by simp⟩
        | cons first more =>
          have front : first :: more <+: r := ⟨rest,shape.symm⟩
          exact .inr (.inr ⟨c,first :: more,[],by simp,by simp,ends,front.isInfix,fun _ => front,fun none => absurd rfl none⟩)
  · rcases List.append_eq_append_iff.mp tail with ⟨d,rfl,rest⟩ | ⟨d,rfl,rest⟩
    · exact .inr (.inl ⟨d,b,by rw [rest,List.append_assoc]⟩)
    · have ends : d <:+ c ++ d := List.suffix_append c d
      rcases List.append_eq_append_iff.mp rest with ⟨more,rfl,_⟩ | ⟨more,rfl,shape⟩
      · cases e with
        | nil => exact .inl (List.nil_infix)
        | cons first others =>
          have part : first :: others <:+: c ++ (first :: others ++ more) := ⟨c,more,by simp⟩
          exact .inr (.inr ⟨[],first :: others,[],by simp,by simp,List.nil_suffix,part,fun none => absurd rfl none,
            fun none => absurd rfl none⟩)
      · cases d with
        | nil => exact .inr (.inl ⟨[],b,shape.symm⟩)
        | cons first others =>
          exact .inr (.inr ⟨[],first :: others,more,rfl,by simp,List.nil_suffix,ends.isInfix,fun none => absurd rfl none,
            fun _ => ends⟩)

theorem meetsMore {earlier x r e : List α} (meets : Meets x r e) : Meets (earlier ++ x) r e := by
  obtain ⟨a,z,y,shape,some,ends,rest⟩ := meets
  exact ⟨a,z,y,shape,some,ends.trans (List.suffix_append earlier x),rest⟩

theorem suffixConcat {b x : List α} {c : α} (ends : b <:+ x ++ [c]) : b = [] ∨ ∃ d, b = d ++ [c] ∧ d <:+ x := by
  obtain ⟨a,shape⟩ := ends
  rcases List.eq_nil_or_concat b with rfl | ⟨d,last,rfl⟩
  · exact .inl rfl
  · rw [List.concat_eq_append,← List.append_assoc] at shape
    obtain ⟨front,same⟩ := List.append_inj' shape rfl
    obtain rfl := List.singleton_inj.mp same
    exact .inr ⟨d,List.concat_eq_append,a,front⟩

section Avoids
variable {replace : List α → List α} {bad : List α → Prop} {whole : List α}

-- What a substitution needs in order to leave no unwanted string: it matches wherever one begins, and no
-- replacement meets one.
structure Removes (p : Pattern α) (replace : List α → List α) (bad : List α → Prop) (whole : List α) : Prop where
  notEmpty : ¬bad []
  consumes : ∀ before input, ∀ way ∈ run p before input, way.1 ≠ []
  replaces : ∀ before input, ∀ way ∈ run p before input, replace way.1 ≠ []
  found : ∀ e, bad e → e <:+: whole → ∀ before rest, run p before (e ++ rest) ≠ []
  apart : ∀ earlier before input, earlier ++ input = whole → ∀ way ∈ run p before input,
    ∀ e, Meets earlier (replace way.1) e → ¬bad e

theorem stretchAvoids (removes : Removes p replace bad whole) {earlier x input e : List α}
    (shape : earlier ++ (x ++ input) = whole)
    (missed : ∀ b, b ≠ [] → b <:+ x → ∃ before, run p before (b ++ input) = []) (inside : e <:+: x) : ¬bad e := by
  intro wrong
  obtain ⟨a,b,rfl⟩ := inside
  have notNil : e ≠ [] := fun none => removes.notEmpty (none ▸ wrong)
  have begins : e ++ b <:+ a ++ e ++ b := ⟨a,by simp⟩
  obtain ⟨before,none⟩ := missed (e ++ b) (by simp [notNil]) begins
  refine removes.found e wrong ⟨earlier ++ a,b ++ input,?_⟩ before (b ++ input) ?_
  · rw [← shape]
    simp
  · rw [← List.append_assoc]
    exact none

-- `x` is what stands between the last match and the input that is left.
theorem substAvoids (removes : Removes p replace bad whole) (fuel : ℕ) {earlier x input e : List α} (before : Option α)
    (enough : input.length ≤ fuel) (shape : earlier ++ (x ++ input) = whole)
    (missed : ∀ b, b ≠ [] → b <:+ x → ∃ before, run p before (b ++ input) = [])
    (inside : e <:+: x ++ subst p replace fuel before input) : ¬bad e := by
  induction fuel generalizing earlier x input before with
  | zero =>
    obtain rfl := List.length_eq_zero_iff.mp (Nat.le_zero.mp enough)
    rw [subst,List.append_nil] at inside
    exact stretchAvoids removes shape missed inside
  | succ fuel ih =>
    cases input with
    | nil =>
      have same : x ++ subst p replace (fuel + 1) before [] = x := List.append_nil x
      rw [same] at inside
      exact stretchAvoids removes shape missed inside
    | cons c rest =>
      unfold subst at inside
      cases ways : run p before (c :: rest) with
      | nil =>
        rw [ways] at inside
        have grown : earlier ++ ((x ++ [c]) ++ rest) = whole := by
          rw [← shape]
          simp
        refine ih (some c) (Nat.le_of_succ_le_succ enough) grown ?_ (by simpa using inside)
        intro b notNil ends
        rcases suffixConcat ends with rfl | ⟨d,rfl,inner⟩
        · exact absurd rfl notNil
        · rw [List.append_assoc,List.singleton_append]
          cases d with
          | nil => exact ⟨before,ways⟩
          | cons first more => exact missed (first :: more) (by simp) inner
      | cons way others =>
        have mem : way ∈ run p before (c :: rest) := by
          rw [ways]
          exact List.mem_cons_self
        rw [ways] at inside
        rcases infixCases (removes.replaces _ _ way mem) inside with early | late | meets
        · exact stretchAvoids removes shape missed early
        · have split := runSplits mem
          have moved : (earlier ++ (x ++ way.1)) ++ ([] ++ way.2) = whole := by
            rw [← shape,← split]
            simp
          refine ih _ ?_ moved ?_ late
          · have left := congrArg List.length split
            have taken := List.length_pos_iff.mpr (removes.consumes _ _ way mem)
            rw [List.length_append] at left
            omega
          · intro b notNil ends
            exact absurd (List.suffix_nil.mp ends) notNil
        · refine removes.apart (earlier ++ x) before (c :: rest) ?_ way mem e (meetsMore meets)
          rw [← shape,List.append_assoc]

theorem subAvoids {input : List α} (removes : Removes p replace bad input) : ∀ e, e <:+: sub p replace input → ¬bad e :=
  fun _ inside =>
    have whole : [] ++ ([] ++ input) = input := rfl
    substAvoids removes input.length none (Nat.le_refl _) whole
      (fun _ notNil ends => absurd (List.suffix_nil.mp ends) notNil) inside

end Avoids

-- The output is the input with some stretches, one after the other, replaced as allowed.
inductive Replaced (allowed : List α → List α → Prop) : List α → List α → Prop where
  | nil : Replaced allowed [] []
  | keep (c : α) {rest out : List α} : Replaced allowed rest out → Replaced allowed (c :: rest) (c :: out)
  | swap {stretch new rest out : List α} : allowed stretch new → Replaced allowed rest out →
      Replaced allowed (stretch ++ rest) (new ++ out)

section Replaced
variable {allowed : List α → List α → Prop} {replace : List α → List α}

theorem replacedSelf (input : List α) : Replaced allowed input input := by
  induction input with
  | nil => exact .nil
  | cons c rest ih => exact .keep c ih

theorem substReplaced (each : ∀ before input, ∀ way ∈ run p before input, allowed way.1 (replace way.1)) (fuel : ℕ)
    (before : Option α) : Replaced allowed input (subst p replace fuel before input) := by
  induction fuel generalizing before input with
  | zero => exact replacedSelf input
  | succ fuel ih =>
    cases input with
    | nil => exact .nil
    | cons c rest =>
      unfold subst
      split
      · exact .keep c (ih _)
      · rename_i way others ways
        have mem : way ∈ run p before (c :: rest) := by
          rw [ways]
          exact List.mem_cons_self
        rw [← runSplits mem]
        exact .swap (each _ _ way mem) (ih _)

theorem subReplaced (each : ∀ before input, ∀ way ∈ run p before input, allowed way.1 (replace way.1)) :
    Replaced allowed input (sub p replace input) :=
  substReplaced each _ _
end Replaced

section Survives
variable {replace : List α → List α}

-- Where no match begins, the input is copied.
theorem substCopies (e : List α) {b : List α} (fuel : ℕ) (before : Option α) (enough : (e ++ b).length ≤ fuel)
    (missed : ∀ u t, u ++ t = e → t ≠ [] → ∀ before, run p before (t ++ b) = []) :
    ∃ later, subst p replace fuel before (e ++ b) = e ++ later := by
  induction e generalizing fuel before with
  | nil => exact ⟨_,rfl⟩
  | cons c rest ih =>
    cases fuel with
    | zero => simp at enough
    | succ fuel =>
      have none := missed [] (c :: rest) rfl (List.cons_ne_nil c rest) before
      rw [List.cons_append] at none ⊢
      have shorter : (rest ++ b).length ≤ fuel := by simpa using enough
      obtain ⟨later,copied⟩ := ih fuel (some c) shorter fun u t split => missed (c :: u) t (by rw [← split]; rfl)
      refine ⟨later,?_⟩
      unfold subst
      rw [none]
      dsimp only
      rw [copied]
      rfl

-- A stretch that no match overlaps stays where it is.
theorem substSurvives (a e b : List α) (fuel : ℕ) (before : Option α) (enough : (a ++ (e ++ b)).length ≤ fuel)
    (consumes : ∀ before input, ∀ way ∈ run p before input, way.1 ≠ [])
    (apart : ∀ u t, u ++ t = a ++ (e ++ b) → ∀ before, ∀ way ∈ run p before t,
      u.length + way.1.length ≤ a.length ∨ a.length + e.length ≤ u.length) :
    ∃ front later, subst p replace fuel before (a ++ (e ++ b)) = front ++ (e ++ later) := by
  induction fuel generalizing a before with
  | zero =>
    exact ⟨a,b,by simp [subst]⟩
  | succ fuel ih =>
    cases a with
    | nil =>
      have missed : ∀ u t, u ++ t = e → t ≠ [] → ∀ before, run p before (t ++ b) = [] := by
        intro u t split some before
        refine List.eq_nil_iff_forall_not_mem.mpr fun way mem => ?_
        have whole : u ++ (t ++ b) = [] ++ (e ++ b) := by simp [← split]
        have wide := apart u (t ++ b) whole before way mem
        have taken := List.length_pos_iff.mpr (consumes _ _ way mem)
        have left := List.length_pos_iff.mpr some
        rw [← split,List.length_append,List.length_nil] at wide
        omega
      obtain ⟨later,copied⟩ := substCopies e (fuel + 1) before enough missed
      exact ⟨[],later,copied⟩
    | cons c rest =>
      rw [List.cons_append] at enough ⊢
      have shorter : (rest ++ (e ++ b)).length ≤ fuel := by simpa using enough
      unfold subst
      cases ways : run p before (c :: (rest ++ (e ++ b))) with
      | nil =>
        obtain ⟨front,later,kept⟩ := ih rest (some c) shorter fun u t split before way mem => by
          have wide := apart (c :: u) t (by rw [List.cons_append,split]; rfl) before way mem
          simp only [List.length_cons] at wide
          omega
        exact ⟨c :: front,later,by dsimp only; rw [kept]; rfl⟩
      | cons way others =>
        have mem : way ∈ run p before (c :: (rest ++ (e ++ b))) := by
          rw [ways]
          exact List.mem_cons_self
        have whole := runSplits mem
        have taken := List.length_pos_iff.mpr (consumes _ _ way mem)
        have early : way.1.length ≤ (c :: rest).length := by
          have wide := apart [] _ rfl before way mem
          simp only [List.length_nil,List.length_cons,Nat.zero_add] at wide ⊢
          omega
        obtain ⟨tail,front⟩ := List.prefix_of_prefix_length_le ⟨_,whole⟩ (List.prefix_append (c :: rest) (e ++ b)) early
        have left : way.2 = tail ++ (e ++ b) := by
          rw [← List.cons_append,← front,List.append_assoc] at whole
          exact List.append_cancel_left whole
        have fewer : (tail ++ (e ++ b)).length ≤ fuel := by
          have total := congrArg List.length whole
          rw [left] at total
          simp only [List.length_append,List.length_cons] at total shorter ⊢
          omega
        obtain ⟨head,later,kept⟩ := ih tail (way.1.getLast?.or before) fewer fun u t split before' way' mem' => by
          have wide := apart (way.1 ++ u) t (by rw [List.append_assoc,split,← left,whole]; rfl) before' way' mem'
          rw [← front,List.length_append,List.length_append] at wide
          omega
        refine ⟨replace way.1 ++ head,later,?_⟩
        dsimp only
        rw [left,kept,List.append_assoc]
end Survives

end Pattern
end SlaifGateway.Library
