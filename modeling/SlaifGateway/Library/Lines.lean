import SlaifGateway.Library.JsonText

/-! The lines of a text. Lines hold no break, terminated lines are found again, and joining with line
feeds gives the text back when a line feed is its only break and does not end it. -/
namespace SlaifGateway.Library

def Unbroken (t : Text) : Prop := ∀ c ∈ t, isLineBreak c = false

def lineFeed : CodePoint := 10

theorem linesUnbroken {returned : Bool} {line t : Text} (clean : Unbroken line) :
    ∀ l ∈ splitLinesFrom returned line t, Unbroken l := by
  induction t generalizing returned line with
  | nil =>
    intro l mem
    unfold splitLinesFrom at mem
    split at mem
    · cases mem
    · rw [List.mem_singleton.mp mem]
      exact clean
  | cons c rest ih =>
    intro l mem
    unfold splitLinesFrom at mem
    split at mem
    · exact ih clean l mem
    · split at mem
      · rcases List.mem_cons.mp mem with rfl | later
        · exact clean
        · exact ih (by intro x none; cases none) l later
      · next plain =>
        refine ih ?_ l mem
        intro x inside
        rcases List.mem_append.mp inside with early | last
        · exact clean x early
        · rw [List.mem_singleton.mp last]
          simpa using plain

theorem splitUnbroken {s line rest : Text} (clean : Unbroken s) :
    splitLinesFrom false line (s ++ rest) = splitLinesFrom false (line ++ s) rest := by
  induction s generalizing line with
  | nil => simp
  | cons c s ih =>
    have plain := clean c (List.mem_cons_self ..)
    have others : Unbroken s := fun x mem => clean x (List.mem_cons_of_mem _ mem)
    rw [List.cons_append,splitLinesFrom,Bool.false_and,if_neg Bool.false_ne_true,plain,if_neg Bool.false_ne_true,ih others,
      List.append_assoc,List.singleton_append]

theorem splitLineFeed (line rest : Text) :
    splitLinesFrom false line (lineFeed :: rest) = line :: splitLinesFrom false [] rest := rfl

theorem splitTerminated {lines : List Text} {rest : Text} (clean : ∀ l ∈ lines, Unbroken l) :
    splitLines (lines.flatMap (fun l => l ++ [lineFeed]) ++ rest) = lines ++ splitLines rest := by
  induction lines with
  | nil => rfl
  | cons l lines ih =>
    have first := clean l (List.mem_cons_self ..)
    have others := ih fun x mem => clean x (List.mem_cons_of_mem _ mem)
    unfold splitLines at others ⊢
    rw [List.flatMap_cons,List.append_assoc,List.append_assoc,splitUnbroken first,List.nil_append,List.singleton_append,
      splitLineFeed,others]
    rfl

theorem splitNonempty {t line : Text} {returned : Bool} (some : line ≠ []) : splitLinesFrom returned line t ≠ [] := by
  induction t generalizing line returned with
  | nil =>
    unfold splitLinesFrom
    rw [if_neg some]
    exact List.cons_ne_nil _ _
  | cons c rest ih =>
    unfold splitLinesFrom
    split
    · exact ih some
    · split
      · exact List.cons_ne_nil _ _
      · exact ih (by simp)

theorem splitSome {t : Text} (some : t ≠ []) : splitLinesFrom false [] t ≠ [] := by
  cases t with
  | nil => exact absurd rfl some
  | cons c rest =>
    unfold splitLinesFrom
    rw [Bool.false_and,if_neg Bool.false_ne_true]
    split
    · exact List.cons_ne_nil _ _
    · exact splitNonempty (by simp)

-- At least one line, and the lines joined with line feeds.
def linesOrBlank (t : Text) : List Text := if splitLines t = [] then [[]] else splitLines t

theorem linesOrBlankUnbroken (t : Text) : ∀ l ∈ linesOrBlank t, Unbroken l := by
  have none : Unbroken [] := fun _ mem => nomatch mem
  intro l mem
  unfold linesOrBlank at mem
  split at mem
  · rw [List.mem_singleton.mp mem]
    exact none
  · exact linesUnbroken none l mem

def joinLines (lines : List Text) : Text := [lineFeed].intercalate lines

theorem joinCons {line : Text} {lines : List Text} (some : lines ≠ []) :
    joinLines (line :: lines) = line ++ lineFeed :: joinLines lines := by
  cases lines with
  | nil => exact absurd rfl some
  | cons next rest => simp [joinLines,List.intercalate]

theorem joinBreaks {lines : List Text} (clean : ∀ l ∈ lines, Unbroken l) :
    ∀ c ∈ joinLines lines, isLineBreak c = true → c = lineFeed := by
  induction lines with
  | nil =>
    intro c mem
    cases mem
  | cons line lines ih =>
    intro c mem broken
    have first : c ∉ line := fun inside => by
      rw [clean line (List.mem_cons_self ..) c inside] at broken
      cases broken
    by_cases last : lines = []
    · subst last
      exact absurd (by simpa [joinLines] using mem) first
    · rw [joinCons last] at mem
      rcases List.mem_append.mp mem with inside | later
      · exact absurd inside first
      · rcases List.mem_cons.mp later with feed | rest
        · exact feed
        · exact ih (fun l held => clean l (List.mem_cons_of_mem _ held)) c rest broken

def LineFeedsOnly (t : Text) : Prop := ∀ c ∈ t, isLineBreak c = true → c = lineFeed

def closing (t : Text) : Text := if t.getLast? = some lineFeed then [lineFeed] else []

-- Splitting and joining loses the line feed at the end and nothing else.
theorem joinSplitFrom {t line : Text} (feeds : LineFeedsOnly t) :
    joinLines (if splitLinesFrom false line t = [] then [[]] else splitLinesFrom false line t) ++ closing t = line ++ t := by
  induction t generalizing line with
  | nil =>
    unfold splitLinesFrom
    by_cases none : line = []
    · subst none
      rfl
    · rw [if_neg none,if_neg (List.cons_ne_nil _ _)]
      simp [joinLines,closing]
  | cons c rest ih =>
    have others : LineFeedsOnly rest := fun x mem => feeds x (List.mem_cons_of_mem _ mem)
    cases broken : isLineBreak c with
    | true =>
      have feed := feeds c (List.mem_cons_self ..) broken
      subst feed
      rw [splitLineFeed,if_neg (List.cons_ne_nil _ _)]
      by_cases last : rest = []
      · subst last
        simp [joinLines,closing,splitLinesFrom]
      · have more := splitSome last
        have tail := @ih [] others
        rw [if_neg more,List.nil_append] at tail
        have ends : closing (lineFeed :: rest) = closing rest := by
          unfold closing
          rw [List.getLast?_cons_of_ne_nil last]
        rw [joinCons more,ends,List.append_assoc,List.cons_append,tail]
    | false =>
      have step : splitLinesFrom false line (c :: rest) = splitLinesFrom false (line ++ [c]) rest := by
        rw [splitLinesFrom,Bool.false_and,if_neg Bool.false_ne_true,broken,if_neg Bool.false_ne_true]
      have tail := @ih (line ++ [c]) others
      have ends : closing (c :: rest) = closing rest := by
        unfold closing
        by_cases last : rest = []
        · subst last
          have other : c ≠ lineFeed := fun feed => by
            rw [feed] at broken
            cases broken
          simp [other]
        · rw [List.getLast?_cons_of_ne_nil last]
      rw [step,ends,tail,List.append_assoc,List.singleton_append]

theorem joinSplit {t : Text} : joinLines (linesOrBlank t) = t ↔ LineFeedsOnly t ∧ t.getLast? ≠ some lineFeed := by
  constructor
  · intro same
    have feeds : LineFeedsOnly t := by
      rw [← same]
      exact joinBreaks (linesOrBlankUnbroken t)
    refine ⟨feeds,fun ends => ?_⟩
    have whole := @joinSplitFrom t [] feeds
    change joinLines (linesOrBlank t) ++ closing t = t at whole
    unfold closing at whole
    rw [same,if_pos ends] at whole
    exact absurd whole (by simp)
  · rintro ⟨feeds,ends⟩
    have whole := @joinSplitFrom t [] feeds
    unfold closing at whole
    rw [if_neg ends,List.append_nil] at whole
    exact whole

end SlaifGateway.Library
