import SlaifGateway.Library.JsonText

/-! Incremental framing of a provider's event stream under fixed limits. The framer keeps one
unfinished line and the data segments of one event; chunks may cut the stream anywhere. -/
namespace SlaifGateway.LocalCoding
open Library

abbrev Bytes := List UInt8

def maxStreamDeltaBytes : Nat := 65536
def maxStreamCumulativeItemBytes : Nat := 1048576
def maxSemanticBytes : Nat := 4 * maxStreamCumulativeItemBytes
def jsonAsciiEscapeExpansion : Nat := 6
def jsonStructuralOverheadBytes : Nat := 131072
def maxSseJoinedDataBytes : Nat := maxSemanticBytes * jsonAsciiEscapeExpansion + jsonStructuralOverheadBytes
def maxSseDataSegments : Nat := 64 * 32
def maxSseLineBytes : Nat := maxSseJoinedDataBytes + 6 + 1
def maxSseFrameBytes : Nat :=
  maxSseJoinedDataBytes + maxSseDataSegments * 8 - (maxSseDataSegments - 1) + 4 * maxStreamDeltaBytes + 2

structure Limits where
  maxLineBytes : Nat
  maxFrameBytes : Nat
  maxJoinedDataBytes : Nat
  maxDataSegments : Nat
  lineReviewed : 1 ≤ maxLineBytes ∧ maxLineBytes ≤ maxSseLineBytes
  frameReviewed : 1 ≤ maxFrameBytes ∧ maxFrameBytes ≤ maxSseFrameBytes
  joinedReviewed : 1 ≤ maxJoinedDataBytes ∧ maxJoinedDataBytes ≤ maxSseJoinedDataBytes
  segmentsReviewed : 1 ≤ maxDataSegments ∧ maxDataSegments ≤ maxSseDataSegments

inductive FramingError where
  | lineTooLarge
  | frameTooLarge
  | invalidUtf8
  | dataSegmentsTooMany
  | dataTooLarge
  | invalidJson
  | jsonNotObject
  deriving DecidableEq, Repr

structure ParsedEvent where
  data : Text
  rawEvent : Text
  jsonBody : Option Fields
  isDone : Bool

structure Framer where
  line : Bytes := []
  dataSegments : List Bytes := []
  frameBytes : Nat := 0
  joinedDataBytes : Nat := 0
  eventsEmitted : Nat := 0
  mostLineBytes : Nat := 0
  mostFrameBytes : Nat := 0
  mostJoinedDataBytes : Nat := 0
  mostDataSegments : Nat := 0

-- What a call yields before it returns or raises, with the states it passes through.
structure Fed where
  events : List ParsedEvent
  visited : List Framer
  result : Except FramingError Framer

namespace Fed

def done (s : Framer) : Fed := ⟨[],[s],.ok s⟩

def raise (e : FramingError) : Fed := ⟨[],[],.error e⟩

def emit (event : ParsedEvent) (s : Framer) : Fed := ⟨[event],[s],.ok s⟩

def andThen (a : Fed) (next : Framer → Fed) : Fed :=
  match a.result with
  | .error _ => a
  | .ok s => ⟨a.events ++ (next s).events,a.visited ++ (next s).visited,(next s).result⟩

end Fed

def formatSseData (data : Text) : Text :=
  let lines := splitLines data
  (if lines = [] then [[]] else lines).flatMap (fun line => text "data: " ++ line ++ text "\n") ++ text "\n"

section Framer
variable (parseFloat : Text → Document) (limits : Limits)

def readEvent (joined : Bytes) : Except FramingError ParsedEvent :=
  match decode joined with
  | none => .error .invalidUtf8
  | some data =>
    if stripText data = text "[DONE]" then .ok ⟨data,formatSseData data,none,true⟩
    else
      match JsonText.loads ⟨parseFloat,true,false⟩ data with
      | none => .error .invalidJson
      | some (.obj fields) => .ok ⟨data,formatSseData data,some fields,false⟩
      | some _ => .error .jsonNotObject

def resetEvent (s : Framer) : Framer := { s with dataSegments := [], frameBytes := 0, joinedDataBytes := 0 }

def dispatchEvent (s : Framer) : Fed :=
  if s.dataSegments = [] then .done (resetEvent s)
  else
    match readEvent parseFloat ([10].intercalate s.dataSegments) with
    | .error e => .raise e
    | .ok event => .emit event (resetEvent { s with eventsEmitted := s.eventsEmitted + 1 })

def retainSegment (segment : Bytes) (frameIncrement : Nat) (s : Framer) : Fed :=
  if limits.maxLineBytes < s.line.length + segment.length then .raise .lineTooLarge
  else if limits.maxFrameBytes < s.frameBytes + frameIncrement then .raise .frameTooLarge
  else .done { s with
    line := s.line ++ segment
    frameBytes := s.frameBytes + frameIncrement
    mostLineBytes := max s.mostLineBytes (s.line ++ segment).length
    mostFrameBytes := max s.mostFrameBytes (s.frameBytes + frameIncrement) }

def withoutReturn (raw : Bytes) : Bytes := if raw.getLast? = some 13 then raw.dropLast else raw

def dataMark : Bytes := [100,97,116,97,58]

def dataValue (line : Bytes) : Bytes :=
  let value := line.drop 5
  if value.head? = some 32 then value.drop 1 else value

def keepData (value : Bytes) (s : Framer) : Fed :=
  if limits.maxDataSegments ≤ s.dataSegments.length then .raise .dataSegmentsTooMany
  else
    let projected := s.joinedDataBytes + value.length + if s.dataSegments = [] then 0 else 1
    if limits.maxJoinedDataBytes < projected then .raise .dataTooLarge
    else .done { s with
      dataSegments := s.dataSegments ++ [value]
      joinedDataBytes := projected
      mostJoinedDataBytes := max s.mostJoinedDataBytes projected
      mostDataSegments := max s.mostDataSegments (s.dataSegments ++ [value]).length }

def completeLine (s : Framer) : Fed :=
  let line := withoutReturn s.line
  let s := { s with line := [] }
  if (decode line).isNone then .raise .invalidUtf8
  else if line = [] then dispatchEvent parseFloat s
  else if line.head? = some 58 || !dataMark.isPrefixOf line then .done s
  else keepData limits (dataValue line) s

-- The lines of a chunk that end in it, and what follows the last line feed.
def cutLines : Bytes → List Bytes × Bytes
  | [] => ([],[])
  | b :: rest =>
    let (lines,tail) := cutLines rest
    if b = 10 then ([] :: lines,tail)
    else
      match lines with
      | [] => ([],b :: tail)
      | line :: lines => ((b :: line) :: lines,tail)

def feedLines : List Bytes → Framer → Fed
  | [],s => ⟨[],[],.ok s⟩
  | segment :: rest,s =>
    ((retainSegment limits segment (segment.length + 1) s).andThen (completeLine parseFloat limits)).andThen
      (feedLines rest)

def feedChunk (chunk : Bytes) (s : Framer) : Fed :=
  let (lines,tail) := cutLines chunk
  (feedLines parseFloat limits lines s).andThen fun s =>
    if tail = [] then ⟨[],[],.ok s⟩ else retainSegment limits tail tail.length s

def finishAtEof (s : Framer) : Fed :=
  if s.line = [] then dispatchEvent parseFloat s
  else (completeLine parseFloat limits s).andThen (dispatchEvent parseFloat)

def feedChunks : List Bytes → Framer → Fed
  | [],s => ⟨[],[],.ok s⟩
  | chunk :: rest,s => (feedChunk parseFloat limits chunk s).andThen (feedChunks rest)

def iterEvents (chunks : List Bytes) : Fed :=
  (feedChunks parseFloat limits chunks {}).andThen (finishAtEof parseFloat limits)

end Framer
end SlaifGateway.LocalCoding
