import SlaifGateway.Library.Pattern

/-! Patterns that spell a sequence of positions, each in one of a few fixed ways. -/
namespace SlaifGateway.Library.Pattern
variable {α : Type} {before : Option α} {input : List α} {way : List α × List α}

def firstOf : List (Pattern α) → Pattern α
  | [] => .look fun _ _ => false
  | p :: rest => .alt p (firstOf rest)

theorem waysFirstOf {patterns : List (Pattern α)} :
    way ∈ run (firstOf patterns) before input ↔ ∃ p ∈ patterns, way ∈ run p before input := by
  induction patterns with
  | nil => simp [firstOf,run]
  | cons p rest ih => rw [firstOf,run,List.mem_append,ih,List.exists_mem_cons_iff]

variable [DecidableEq α]

def exactly : List α → Pattern α
  | [] => .look fun _ _ => true
  | c :: rest => .seq (.char (· = c)) (exactly rest)

def inTurn : List (List (List α)) → Pattern α
  | [] => .look fun _ _ => true
  | options :: rest => .seq (firstOf (options.map exactly)) (inTurn rest)

inductive Spells : List (List (List α)) → List α → Prop where
  | nil : Spells [] []
  | cons {options rest o more} : o ∈ options → Spells rest more → Spells (options :: rest) (o ++ more)

theorem waysExactly {l : List α} : way ∈ run (exactly l) before input ↔ way.1 = l ∧ way.1 ++ way.2 = input := by
  induction l generalizing before input way with
  | nil =>
    rw [exactly,run,if_pos rfl,List.mem_singleton]
    constructor
    · rintro rfl
      exact ⟨rfl,rfl⟩
    · rintro ⟨none,same⟩
      rw [none] at same
      exact Prod.ext none same
  | cons c rest ih =>
    constructor
    · intro mem
      refine ⟨?_,runSplits mem⟩
      obtain ⟨head,taken,inside⟩ := List.mem_flatMap.mp mem
      obtain ⟨more,later,rfl⟩ := List.mem_map.mp inside
      cases input with
      | nil => cases taken
      | cons d others =>
        rw [run] at taken
        split at taken
        · next held =>
          rw [List.mem_singleton.mp taken,(ih.mp later).1,of_decide_eq_true held]
          rfl
        · cases taken
    · obtain ⟨consumed,left⟩ := way
      rintro ⟨rfl,same⟩
      subst same
      have head : ([c],rest ++ left) ∈ run (.char (· = c)) before (c :: rest ++ left) := by
        rw [List.cons_append,run,if_pos (decide_eq_true rfl)]
        exact List.mem_singleton_self _
      have later : (rest,left) ∈ run (exactly rest) (([c] : List α).getLast?.or before) (rest ++ left) := ih.mpr ⟨rfl,rfl⟩
      exact List.mem_flatMap.mpr ⟨_,head,List.mem_map.mpr ⟨_,later,rfl⟩⟩

theorem waysInTurn {positions : List (List (List α))} :
    way ∈ run (inTurn positions) before input ↔ Spells positions way.1 ∧ way.1 ++ way.2 = input := by
  induction positions generalizing before input way with
  | nil =>
    rw [inTurn,run,if_pos rfl,List.mem_singleton]
    constructor
    · rintro rfl
      exact ⟨.nil,rfl⟩
    · rintro ⟨spelled,same⟩
      obtain ⟨consumed,left⟩ := way
      cases spelled
      exact Prod.ext rfl same
  | cons options rest ih =>
    constructor
    · intro mem
      refine ⟨?_,runSplits mem⟩
      obtain ⟨head,taken,inside⟩ := List.mem_flatMap.mp mem
      obtain ⟨more,later,rfl⟩ := List.mem_map.mp inside
      obtain ⟨p,listed,chosen⟩ := waysFirstOf.mp taken
      obtain ⟨o,offered,rfl⟩ := List.mem_map.mp listed
      rw [(waysExactly.mp chosen).1]
      exact .cons offered (ih.mp later).1
    · obtain ⟨consumed,left⟩ := way
      rintro ⟨spelled,same⟩
      cases spelled with
      | @cons _ _ o more offered later =>
        have head : (o,more ++ left) ∈ run (firstOf (options.map exactly)) before input :=
          waysFirstOf.mpr ⟨exactly o,List.mem_map_of_mem offered,waysExactly.mpr ⟨rfl,(List.append_assoc o more left).symm.trans same⟩⟩
        have tail : (more,left) ∈ run (inTurn rest) (o.getLast?.or before) (more ++ left) := ih.mpr ⟨later,rfl⟩
        exact List.mem_flatMap.mpr ⟨_,head,List.mem_map.mpr ⟨_,tail,rfl⟩⟩

end SlaifGateway.Library.Pattern
