import SlaifGateway.Library.Lines
import SlaifGateway.LocalCoding.SseFraming
import Mathlib.Data.List.TakeWhile

/-! Server-sent events by lines: the encoder of one data text, the parser of a line sequence, and the
stream reader that parses at every blank line. -/
namespace SlaifGateway.Streaming
open Library
open LocalCoding (ParsedEvent formatSseData)

-- What the JSON reader raises besides a decode error: an integer of too many digits, or too deep a nesting.
inductive Escaped where
  | valueError
  | recursionError
  deriving DecidableEq, Repr

structure JsonReader where
  parseFloat : Text → Document
  limit : Text → Option Escaped

def JsonReader.loads (reader : JsonReader) (data : Text) : Except Escaped (Option Document) :=
  match reader.limit data with
  | some e => .error e
  | none => .ok (JsonText.loads ⟨reader.parseFloat,true,false⟩ data)

section Parser
variable (reader : JsonReader)

def eventFromDataLines (dataLines : List Text) : Except Escaped ParsedEvent :=
  let data := joinLines dataLines
  if stripText data = text "[DONE]" then .ok ⟨data,formatSseData data,none,true⟩
  else
    match reader.loads data with
    | .error e => .error e
    | .ok (some (.obj fields)) => .ok ⟨data,formatSseData data,some fields,false⟩
    | .ok _ => .ok ⟨data,formatSseData data,none,false⟩

def withoutReturns (line : Text) : Text := (line.reverse.dropWhile fun c => c.val = 13).reverse

def dataValue (line : Text) : Text :=
  let value := line.drop 5
  if value.head? = some 32 then value.drop 1 else value

-- The events that end here: none while no data line is pending.
def dispatch (dataLines : List Text) : Except Escaped (List ParsedEvent) :=
  if dataLines = [] then .ok []
  else do
    let event ← eventFromDataLines reader dataLines
    .ok [event]

def parseFrom (dataLines : List Text) : List Text → Except Escaped (List ParsedEvent)
  | [] => dispatch reader dataLines
  | rawLine :: rest =>
    let line := withoutReturns rawLine
    if line = [] then do
      let events ← dispatch reader dataLines
      let later ← parseFrom [] rest
      .ok (events ++ later)
    else if line.head? = some 58 then parseFrom dataLines rest
    else if (text "data:").isPrefixOf line then parseFrom (dataLines ++ [dataValue line]) rest
    else parseFrom dataLines rest

def parseSseLines (lines : List Text) : Except Escaped (List ParsedEvent) := parseFrom reader [] lines

-- The reader collects lines and parses what it holds at every blank line and at the end.
def streamFrom (pendingLines : List Text) : List Text → Except Escaped (List ParsedEvent)
  | [] => if pendingLines = [] then .ok [] else parseSseLines reader pendingLines
  | line :: rest =>
    if line = [] then do
      let events ← parseSseLines reader (pendingLines ++ [line])
      let later ← streamFrom [] rest
      .ok (events ++ later)
    else streamFrom (pendingLines ++ [line]) rest

def streamResponseEvents (lines : List Text) : Except Escaped (List ParsedEvent) := streamFrom reader [] lines

end Parser

section Chunks
variable {reader : JsonReader}

-- A blank line leaves nothing pending, so parsing starts afresh behind it.
theorem parseBlank (dataLines before after : List Text) :
    parseFrom reader dataLines (before ++ [] :: after) = (do
      let events ← parseFrom reader dataLines (before ++ [[]])
      let later ← parseFrom reader [] after
      .ok (events ++ later)) := by
  induction before generalizing dataLines with
  | nil =>
    simp only [List.nil_append,parseFrom,withoutReturns,List.reverse_nil,List.dropWhile_nil,if_true]
    cases dispatch reader dataLines with
    | error e => rfl
    | ok events =>
      change (parseFrom reader [] after >>= fun later => .ok (events ++ later)) =
        (Except.ok (events ++ []) >>= fun events => parseFrom reader [] after >>= fun later => .ok (events ++ later))
      rw [List.append_nil]
      rfl
  | cons line before ih =>
    simp only [List.cons_append,parseFrom]
    split
    · rw [ih []]
      cases dispatch reader dataLines with
      | error e => rfl
      | ok events =>
        cases parseFrom reader [] (before ++ [[]]) with
        | error e => rfl
        | ok more =>
          cases parseFrom reader [] after with
          | error e => rfl
          | ok later =>
            change Except.ok (events ++ (more ++ later)) = Except.ok (events ++ more ++ later)
            rw [List.append_assoc]
    · split
      · exact ih dataLines
      · split
        · exact ih _
        · exact ih dataLines

theorem streamParses (pendingLines lines : List Text) :
    streamFrom reader pendingLines lines = parseSseLines reader (pendingLines ++ lines) := by
  induction lines generalizing pendingLines with
  | nil =>
    unfold streamFrom
    rw [List.append_nil]
    split
    · next none =>
      rw [none]
      rfl
    · rfl
  | cons line rest ih =>
    unfold streamFrom
    split
    · next blank =>
      subst blank
      rw [ih []]
      exact (parseBlank [] pendingLines rest).symm
    · rw [ih,List.append_assoc,List.singleton_append]

end Chunks

section Encoder
variable {reader : JsonReader}

theorem dataMarked (line : Text) : text "data: " ++ line ++ text "\n" = (text "data: " ++ line) ++ [lineFeed] := rfl

theorem formattedLines (data : Text) : splitLines (formatSseData data) =
    (linesOrBlank data).map (fun line => text "data: " ++ line) ++ [[]] := by
  have clean : ∀ l ∈ linesOrBlank data, Unbroken l := linesOrBlankUnbroken data
  have mark : Unbroken (text "data: ") := by
    have checked : (text "data: ").all (fun c => isLineBreak c = false) = true := by decide +kernel
    intro c mem
    exact of_decide_eq_true (List.all_eq_true.mp checked c mem)
  have marked : ∀ l ∈ (linesOrBlank data).map (fun line => text "data: " ++ line), Unbroken l := by
    intro l mem
    obtain ⟨line,held,rfl⟩ := List.mem_map.mp mem
    intro c inside
    rcases List.mem_append.mp inside with early | late
    · exact mark c early
    · exact clean line held c late
  have shape : formatSseData data =
      ((linesOrBlank data).map (fun line => text "data: " ++ line)).flatMap (fun l => l ++ [lineFeed]) ++ text "\n" := by
    rw [List.flatMap_map]
    rfl
  rw [shape,splitTerminated marked]
  rfl

-- A formatted data line is read back as the line.
theorem dataLineRead (line : Text) (clean : Unbroken line) (dataLines rest : List Text) :
    parseFrom reader dataLines ((text "data: " ++ line) :: rest) = parseFrom reader (dataLines ++ [line]) rest := by
  have kept : withoutReturns (text "data: " ++ line) = text "data: " ++ line := by
    unfold withoutReturns
    rw [List.dropWhile_eq_self_iff.mpr,List.reverse_reverse]
    intro some
    have last : ∀ c ∈ text "data: " ++ line, ¬ (decide (c.val = 13) = true) := by
      intro c mem returned
      have value : c.val = 13 := of_decide_eq_true returned
      have broken : isLineBreak c = true := by simp [isLineBreak,value]
      rcases List.mem_append.mp mem with mark | inside
      · have checked : (text "data: ").all (fun c => isLineBreak c = false) = true := by decide +kernel
        have plain : isLineBreak c = false := of_decide_eq_true (List.all_eq_true.mp checked c mark)
        rw [plain] at broken
        cases broken
      · rw [clean c inside] at broken
        cases broken
    exact last _ (List.mem_reverse.mp (List.getElem_mem some))
  rw [parseFrom,kept]
  rfl

theorem dataLinesRead (lines : List Text) (clean : ∀ l ∈ lines, Unbroken l) (dataLines rest : List Text) :
    parseFrom reader dataLines (lines.map (fun line => text "data: " ++ line) ++ rest) =
      parseFrom reader (dataLines ++ lines) rest := by
  induction lines generalizing dataLines with
  | nil => rw [List.map_nil,List.nil_append,List.append_nil]
  | cons line lines ih =>
    rw [List.map_cons,List.cons_append,dataLineRead line (clean line (List.mem_cons_self ..)),
      ih (fun l mem => clean l (List.mem_cons_of_mem _ mem)),List.append_assoc,List.singleton_append]

theorem formattedParse (data : Text) : parseSseLines reader (splitLines (formatSseData data)) =
    dispatch reader (linesOrBlank data) := by
  have clean : ∀ l ∈ linesOrBlank data, Unbroken l := linesOrBlankUnbroken data
  have blank : withoutReturns [] = [] := rfl
  unfold parseSseLines
  rw [formattedLines,dataLinesRead _ clean,List.nil_append,parseFrom,blank,if_pos rfl]
  cases dispatch reader (linesOrBlank data) with
  | error e => rfl
  | ok events =>
    change Except.ok (events ++ []) = _
    rw [List.append_nil]

theorem dispatchSome {dataLines : List Text} (some : dataLines ≠ []) (within : reader.limit (joinLines dataLines) = none) :
    ∃ event, dispatch reader dataLines = .ok [event] ∧ event.data = joinLines dataLines := by
  have read : ∃ event, eventFromDataLines reader dataLines = .ok event ∧ event.data = joinLines dataLines := by
    unfold eventFromDataLines JsonReader.loads
    dsimp only
    rw [within]
    split
    · exact ⟨_,rfl,rfl⟩
    · split
      · next escaped => cases escaped
      · exact ⟨_,rfl,rfl⟩
      · exact ⟨_,rfl,rfl⟩
  obtain ⟨event,made,held⟩ := read
  unfold dispatch
  rw [if_neg some,made]
  exact ⟨event,rfl,held⟩

-- A formatted text is read back as one event, whatever the chunks; the event holds the lines of the text joined
-- by line feeds. And the reader that parses at every blank line yields what parsing all lines yields.
theorem sseRoundTrip {streamLines : List Text → List Text} (reads : ∀ chunks, streamLines chunks = splitLines chunks.flatten)
    (reader : JsonReader) :
    (∀ data chunks, chunks.flatten = formatSseData data → reader.limit (joinLines (linesOrBlank data)) = none →
      ∃ event, parseSseLines reader (streamLines chunks) = .ok [event] ∧ event.data = joinLines (linesOrBlank data) ∧
        (event.data = data ↔ LineFeedsOnly data ∧ data.getLast? ≠ some lineFeed)) ∧
    ∀ lines, streamResponseEvents reader lines = parseSseLines reader lines := by
  constructor
  · intro data chunks formatted within
    have some : linesOrBlank data ≠ [] := by
      unfold linesOrBlank
      split
      · exact List.cons_ne_nil _ _
      · assumption
    obtain ⟨event,dispatched,held⟩ := @dispatchSome reader _ some within
    refine ⟨event,?_,held,?_⟩
    · rw [reads,formatted,formattedParse]
      exact dispatched
    · rw [held]
      exact joinSplit
  · intro lines
    exact streamParses [] lines

def plainReader : JsonReader := ⟨fun _ => .null,fun _ => none⟩

theorem sseRoundTripHello : ∃ event, parseSseLines plainReader
      (splitLines [text "data: hel",text "lo\nda",text "ta: you\n\n"].flatten) = .ok [event] ∧
    event.data = text "hello\nyou" := by
  have formatted : [text "data: hel",text "lo\nda",text "ta: you\n\n"].flatten = formatSseData (text "hello\nyou") := by
    decide +kernel
  obtain ⟨event,parsed,_,same⟩ := (@sseRoundTrip (fun chunks => splitLines chunks.flatten) (fun _ => rfl) plainReader).1
    (text "hello\nyou") _ formatted rfl
  have feeds : (text "hello\nyou").all (fun c => !isLineBreak c || c = lineFeed) = true ∧
      (text "hello\nyou").getLast? ≠ some lineFeed := by
    decide +kernel
  refine ⟨event,parsed,same.mpr ⟨?_,feeds.2⟩⟩
  intro c mem broken
  have checked := List.all_eq_true.mp feeds.1 c mem
  rw [broken] at checked
  simpa using checked

theorem returnBecomesLineFeed : ∃ event, parseSseLines plainReader (splitLines (formatSseData (text "a\rb"))) = .ok [event] ∧
    event.data = text "a\nb" ∧ event.data ≠ text "a\rb" := by
  have lines : linesOrBlank (text "a\rb") = [text "a",text "b"] := by decide +kernel
  have joined : joinLines [text "a",text "b"] = text "a\nb" := by decide +kernel
  have other : text "a\nb" ≠ text "a\rb" := by decide +kernel
  obtain ⟨event,dispatched,held⟩ := @dispatchSome plainReader [text "a",text "b"] (List.cons_ne_nil _ _) rfl
  rw [joined] at held
  refine ⟨event,?_,held,by rw [held]; exact other⟩
  rw [formattedParse,lines]
  exact dispatched

end Encoder

end SlaifGateway.Streaming
