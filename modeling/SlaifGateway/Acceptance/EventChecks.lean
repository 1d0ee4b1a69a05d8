import SlaifGateway.Library.Transaction
import SlaifGateway.LocalCoding.VllmCodec
import Mathlib.Algebra.Group.Int.Defs

/-! The checks of `providers/streaming.py` on single values and items of a Responses stream event. A check
returns, refuses the event, or crashes: on a lone surrogate that is encoded, and on an array or an object that
is looked up in a set. -/
namespace SlaifGateway.Responses
open Library Library.Tx
open LocalCoding (identifier)

inductive Refusal where
  | rejected | crashed
  deriving DecidableEq, Repr

abbrev Check (σ : Type) := Tx σ Refusal

def mapping (fields : List (String × Document)) : Document := .obj (fields.map fun f => (text f.1,f.2))

def word (s : String) : Document := .str (text s)

section Values
variable {σ : Type}

def maxStreamDeltaBytes : ℕ := 65536
def maxStreamItemTextBytes : ℕ := 1048576
def maxStreamCumulativeItemBytes : ℕ := 1048576
def maxStreamEncryptedReasoningItemBytes : ℕ := 262144
def maxStreamEncryptedReasoningBytes : ℕ := 1048576
def maxStreamContentParts : ℕ := 64
def maxStreamIndex : ℤ := 1000000
def maxStreamTokenCount : ℤ := 2 ^ 63 - 1
def maxResponseOutputItems : ℕ := 3
def maxResponseOutputBytes : ℕ := 3 * maxStreamCumulativeItemBytes
def maxResponseEnvelopeBytes : ℕ := maxStreamCumulativeItemBytes

def itemStatuses : List String := ["in_progress","completed","incomplete"]
def messagePhases : List String := ["commentary","final_answer"]

def require (held : Prop) [Decidable held] : Check σ Unit := raiseIf (¬held) .rejected

def reject {α : Type} : Check σ α := throw .rejected

-- `len(value.encode("utf-8"))`
def utf8Length (t : Text) : Check σ ℕ := orRaise ((encode t).map List.length) .crashed

def boundedUtf8 (t : Text) (maxBytes : ℕ) : Check σ Unit := do
  let size ← utf8Length t
  require (size ≤ maxBytes)

-- A string of at most so many bytes.
def boundedText (value : Document) (maxBytes : ℕ) : Check σ Text := do
  let t ← orRaise value.text? .rejected
  boundedUtf8 t maxBytes
  pure t

def boundedName (value : Document) : Check σ Text := do
  let t ← orRaise value.text? .rejected
  require (t ≠ [])
  boundedUtf8 t 256
  pure t

-- `value in names`, where a list or a dict cannot be hashed.
def oneOf (value : Document) (names : List String) : Check σ Unit :=
  match value with
  | .arr _ | .obj _ => throw .crashed
  | .str t => require (t ∈ names.map text)
  | _ => reject

def absentOrOneOf (value : Document) (names : List String) : Check σ Unit :=
  if value.isNull then pure () else oneOf value names

def identifierOf (value : Document) : Option Text := value.text?.filter identifier

def requiredIdentifier (value : Document) : Check σ Text := orRaise (identifierOf value) .rejected

def optionalIdentifier (value : Document) : Check σ (Option Text) :=
  if value.isNull then pure none else some <$> requiredIdentifier value

def validIndex : Document → Option ℕ
  | .int n => if 0 ≤ n ∧ n ≤ maxStreamIndex then some n.toNat else none
  | _ => none

def requiredIndex (fields : Fields) (name : String) : Check σ ℕ := orRaise (validIndex (fields.get (text name))) .rejected

def optionalIndex (fields : Fields) (name : String) : Check σ Unit :=
  if fields.has (text name) then do
    let _ ← requiredIndex fields name
    pure ()
  else pure ()

def onlyFields (fields : Fields) (allowed : List String) : Check σ Unit := require (fields.keysWithin allowed)

def isEmptyList : Document → Bool
  | .arr [] => true
  | _ => false

def boundedList (value : Document) : Check σ (List Document) := do
  let items ← orRaise value.items? .rejected
  require (items.length ≤ maxStreamContentParts)
  pure items

end Values

section Items
variable {σ : Type}

-- The bytes of the texts of such parts.
def textParts (allowed : List String) (expectedType : String) : List Document → Check σ ℕ
  | [] => pure 0
  | part :: rest => do
    let fields ← orRaise part.mapping? .rejected
    onlyFields fields allowed
    require ((fields.get (text "type")).isText expectedType)
    let t ← boundedText (fields.get (text "text")) maxStreamItemTextBytes
    let size ← utf8Length t
    let more ← textParts allowed expectedType rest
    pure (size + more)

def validateAssistantMessageItem (item : Fields) : Check σ Unit := do
  onlyFields item ["type","id","status","role","content","phase","summary","annotations"]
  require ((item.get (text "role")).isText "assistant")
  absentOrOneOf (item.get (text "status")) itemStatuses
  absentOrOneOf (item.get (text "phase")) messagePhases
  let content ← boundedList (item.get (text "content"))
  let total ← textParts ["type","text","annotations","logprobs"] "output_text" content
  require (total ≤ maxStreamItemTextBytes)

def validateReasoningTextPart (part : Fields) (expectedType : String) : Check σ Text := do
  onlyFields part ["type","text"]
  require ((part.get (text "type")).isText expectedType)
  boundedText (part.get (text "text")) maxStreamItemTextBytes

def validateOutputTextPart (part : Document) (logprobs : Document → Bool) : Check σ Text := do
  let fields ← orRaise part.mapping? .rejected
  require (fields.keysAre ["type","text","annotations","logprobs"])
  require ((fields.get (text "type")).isText "output_text")
  let t ← boundedText (fields.get (text "text")) maxStreamItemTextBytes
  require (isEmptyList (fields.get (text "annotations")))
  require (logprobs (fields.get (text "logprobs")))
  pure t

def reasoningTexts (item : Fields) : Check σ Unit := do
  let summary ← boundedList (item.get (text "summary"))
  let summaryBytes ← textParts ["type","text"] "summary_text" summary
  if (item.get (text "content")).isNull then require (summaryBytes ≤ maxStreamItemTextBytes)
  else do
    let content ← boundedList (item.get (text "content"))
    let contentBytes ← textParts ["type","text"] "reasoning_text" content
    require (summaryBytes + contentBytes ≤ maxStreamItemTextBytes)

-- A reasoning item whose ciphertext, if any, is empty.
def validateVisibleReasoningItem (item : Fields) : Check σ Unit := do
  onlyFields item ["type","id","status","summary","content","encrypted_content"]
  absentOrOneOf (item.get (text "status")) itemStatuses
  require ((item.get (text "encrypted_content")).text?.all (· = []))
  reasoningTexts item

def validateEncryptedReasoningItem (item : Fields) : Check σ ℕ := do
  require (item.keysAre ["type","id","summary","encrypted_content"])
  let _ ← requiredIdentifier (item.get (text "id"))
  let encrypted ← orRaise (item.get (text "encrypted_content")).text? .rejected
  require (encrypted ≠ [])
  boundedUtf8 encrypted maxStreamEncryptedReasoningItemBytes
  let encryptedBytes ← utf8Length encrypted
  reasoningTexts item
  pure encryptedBytes

def emptyCiphertext (item : Fields) : Bool := (item.get (text "encrypted_content")).isText ""

-- The bytes of the encrypted content; an item with empty ciphertext is taken for visible text.
def validateReasoningItem (item : Fields) (done encryptedReplay allowVisibleReasoning : Bool) : Check σ ℕ :=
  if allowVisibleReasoning && encryptedReplay && done && emptyCiphertext item then do
    require (item.keysAre ["type","id","summary","content","encrypted_content"] ||
      item.keysAre ["type","id","summary","content","encrypted_content","status"])
    require (item.has (text "status") → (item.get (text "status")).isText "completed")
    validateVisibleReasoningItem item
    pure 0
  else if encryptedReplay && done then validateEncryptedReasoningItem item
  else do
    validateVisibleReasoningItem item
    pure 0

end Items

section Responses
variable {σ : Type}

def createdAt : Document → Bool
  | .null => true
  | .int n => 0 ≤ n
  | _ => false

-- The id of the response.
def validateResponseProgressEvent (payload : Fields) : Check σ Text := do
  onlyFields payload ["type","response","sequence_number"]
  optionalIndex payload "sequence_number"
  let response ← orRaise (payload.get (text "response")).mapping? .rejected
  let id ← requiredIdentifier (response.get (text "id"))
  require ((response.get (text "object")).isNull || (response.get (text "object")).isText "response")
  absentOrOneOf (response.get (text "status")) ["queued","in_progress"]
  require (createdAt (response.get (text "created_at")))
  if (response.get (text "model")).isNull then pure id
  else do
    let _ ← boundedName (response.get (text "model"))
    pure id

def validateResponseCompletedEvent (payload : Fields) : Check σ Fields := do
  let response ← orRaise (payload.get (text "response")).mapping? .rejected
  require (response.has (text "id"))
  absentOrOneOf (response.get (text "status")) ["completed","incomplete"]
  pure response

def tokenCount : Document → Option ℤ
  | .int n => if 0 ≤ n ∧ n ≤ maxStreamTokenCount then some n else none
  | _ => none

def perTurnCounts : Document → Option (List ℤ)
  | .arr counts => if counts.length ≤ maxStreamContentParts then counts.mapM tokenCount else none
  | _ => none

def sameTurns (details : Fields) (first second : String) : Bool :=
  ((perTurnCounts (details.get (text first))).bind fun a =>
    (perTurnCounts (details.get (text second))).map fun b => a.length == b.length).getD false

-- `_validate_completed_usage` of the exact profile.
def validateCompletedUsage (usage : Fields) : Check σ Unit := do
  onlyFields usage ["input_tokens","input_tokens_details","output_tokens","output_tokens_details","total_tokens"]
  let input ← orRaise (tokenCount (usage.get (text "input_tokens"))) .rejected
  let output ← orRaise (tokenCount (usage.get (text "output_tokens"))) .rejected
  let total ← orRaise (tokenCount (usage.get (text "total_tokens"))) .rejected
  let inputDetails ← orRaise (usage.get (text "input_tokens_details")).mapping? .rejected
  require (inputDetails.keysAre ["cached_tokens","input_tokens_per_turn","cached_tokens_per_turn"])
  require (tokenCount (inputDetails.get (text "cached_tokens"))).isSome
  require (sameTurns inputDetails "input_tokens_per_turn" "cached_tokens_per_turn")
  let outputDetails ← orRaise (usage.get (text "output_tokens_details")).mapping? .rejected
  require (outputDetails.keysAre
    ["reasoning_tokens","tool_output_tokens","output_tokens_per_turn","tool_output_tokens_per_turn"])
  require (tokenCount (outputDetails.get (text "reasoning_tokens"))).isSome
  require (tokenCount (outputDetails.get (text "tool_output_tokens"))).isSome
  require (sameTurns outputDetails "output_tokens_per_turn" "tool_output_tokens_per_turn")
  require (input + output = total)

def envelopeFields : List String :=
  ["id","created_at","incomplete_details","instructions","metadata","model","object","output","parallel_tool_calls",
    "temperature","text","tool_choice","tools","top_p","background","max_output_tokens","max_tool_calls",
    "previous_response_id","prompt","reasoning","service_tier","status","top_logprobs","truncation","usage","user",
    "presence_penalty","frequency_penalty","kv_transfer_params","ec_transfer_params","input_messages","output_messages"]

def maxIntDigits : ℕ := 4300

mutual
-- The bytes of the compact ASCII text; none where it cannot be written.
def compactSize : Document → Option ℕ
  | .null => some 4
  | .bool true => some 4
  | .bool false => some 5
  | .int n => if (Nat.toDigits 10 n.natAbs).length ≤ maxIntDigits then some (Document.decimal n).length else none
  | .float value spelling => if value.isSome then some spelling.length else none
  | .str t => some (Document.quote true t).length
  | .arr items => do
    let inner ← itemsSize items
    some (2 + inner + (items.length - 1))
  | .obj fields => do
    let inner ← fieldsSize fields
    some (2 + inner + (fields.length - 1))

def itemsSize : List Document → Option ℕ
  | [] => some 0
  | d :: rest => do
    let first ← compactSize d
    let more ← itemsSize rest
    some (first + more)

def fieldsSize : List (Text × Document) → Option ℕ
  | [] => some 0
  | (k,d) :: rest => do
    let first ← compactSize d
    let more ← fieldsSize rest
    some ((Document.quote true k).length + 1 + first + more)
end

def validateResponseEnvelope (response : Fields) : Check σ Unit := do
  onlyFields response envelopeFields
  require (["input_messages","output_messages","kv_transfer_params","ec_transfer_params"].all fun field =>
    (response.get (text field)).isNull)
  let size ← orRaise (compactSize (.obj (response.filter fun f => f.1 ≠ text "output" ∧ f.1 ≠ text "usage"))) .rejected
  require (size ≤ maxResponseEnvelopeBytes)

end Responses

end SlaifGateway.Responses
