import SlaifGateway.Acceptance.EventChecks

/-! `ResponsesStreamEventValidator`: one event after another, each taken or refused by the profile of the
request. A refusal keeps what the event changed before it. -/
namespace SlaifGateway.Responses
open Library Library.Tx
open LocalCoding (identifier)

section State

inductive ItemType where
  | functionCall | customToolCall | message | reasoning
  deriving DecidableEq, Repr

structure ItemState where
  itemType : ItemType
  toolNamespace : Option Text := none
  name : Option Text := none
  callId : Option Text := none
  deltaText : Text := []
  encryptedReasoning : Bool := false
  deriving DecidableEq

structure ReplayCandidate where
  itemKind : ItemType
  itemId : Text
  callId : Option Text
  toolNamespace : Option Text
  toolName : Option Text

abbrev Tool := Text × Text × Text

structure Profile where
  codexStreamingToolEvents : Bool := false
  codex0149FunctionToolEvents : Bool := false
  zeroArgumentFunctionNames : List Text := []
  codexEncryptedReasoningReplay : Bool := false
  declaredClientTools : List Tool := []
  webSearch : Bool := false
  webSearchMaxToolCalls : Option ℤ := none
  codexReasoningEvents : Bool := false
  customClientTools : List Tool := [(text "functions",text "exec",text "custom")]
  allowSparseVisibleReasoning : Bool := false
  allowSparseFunctionEvents : Bool := false

abbrev Dict (κ υ : Type) := List (κ × υ)

def Dict.put {κ υ : Type} [DecidableEq κ] (d : Dict κ υ) (key : κ) (value : υ) : Dict κ υ :=
  (key,value) :: d.filter fun entry => entry.1 ≠ key

def Dict.drop {κ υ : Type} [DecidableEq κ] (d : Dict κ υ) (key : κ) : Dict κ υ := d.filter fun entry => entry.1 ≠ key

-- A part of an item: its content or its summary at an index.
abbrev Part := Text × ℕ

structure Validator where
  activeItems : Dict Text ItemState := []
  seenItemIds : List Text := []
  seenCallIds : List Text := []
  reasoningDeltas : Dict (Text × Bool × ℕ) Text := []
  reasoningOutputIndices : Dict Text ℕ := []
  reasoningPartsAdded : List Part := []
  reasoningDeltaSeen : List Part := []
  reasoningTextDone : List Part := []
  reasoningPartsDone : List Part := []
  reasoningOutputDone : List Text := []
  messageOutputIndices : Dict Text ℕ := []
  messagePartsAdded : List Part := []
  messageDeltaSeen : List Part := []
  messageTextDeltas : Dict Part Text := []
  messageTextDone : List Part := []
  messagePartsDone : List Part := []
  messageOutputDone : List Text := []
  functionOutputIndices : Dict Text ℕ := []
  functionArgumentsDone : List Text := []
  functionOutputDone : List Text := []
  functionDeltaSeen : List Text := []
  functionDoneStates : Dict Text ItemState := []
  codexOutputItemsStarted : ℕ := 0
  strictResponseId : Option Text := none
  strictResponseCompleted : Bool := false
  strictLastSequence : Option ℕ := none
  safeEvents : List (Text × ℕ) := []
  encryptedReasoningBytes : ℕ := 0
  replayReferenceCandidates : List ReplayCandidate := []
  webSearchEventCount : ℤ := 0
  webSearchSeenSequences : List ℕ := []

abbrev Step := Check Validator

def current : Step Validator := reading id

def change (f : Validator → Validator) : Step Unit := fun s => (.ok (),f s)

end State

section Types

def textStreamEventTypes : List String := ["response.created","response.in_progress","response.output_text.delta"]

def codexStreamEventTypes : List String :=
  textStreamEventTypes ++ ["response.output_item.added","response.output_item.done","response.function_call_arguments.delta",
    "response.function_call_arguments.done","response.custom_tool_call_input.delta","response.reasoning_summary_part.added",
    "response.reasoning_summary_text.delta","response.reasoning_summary_text.done","response.reasoning_text.delta",
    "response.reasoning_part.added","response.reasoning_part.done","response.reasoning_text.done",
    "response.content_part.added","response.content_part.done","response.output_text.done","response.completed"]

def providerFailureEventTypes : List String := ["response.failed","response.incomplete","error"]

def among (eventType : Text) (names : List String) : Bool := (names.map text).contains eventType

def outputItemEvents : List String := ["response.output_item.added","response.output_item.done"]

def isDone (eventType : Text) : Bool := eventType = text "response.output_item.done"

end Types

section Strict
variable (p : Profile)

def acceptStrictSequence (payload : Fields) : Step Unit := do
  let sequence ← requiredIndex payload "sequence_number"
  let s ← current
  require (s.strictLastSequence.all (· < sequence))
  change fun s => { s with strictLastSequence := some sequence }

-- A field of the item a state stands for.
def activeItem (itemId : Text) (itemType : ItemType) : Step ItemState := do
  let s ← current
  let state ← orRaise (s.activeItems.lookup itemId) .rejected
  require (state.itemType = itemType)
  pure state

def captureReplayCandidate (itemId : Text) (state : ItemState) : Step Unit :=
  if state.itemType = .message ∨ state.itemType = .reasoning ∧
      (p.codexEncryptedReasoningReplay = false ∨ state.encryptedReasoning = false) then pure ()
  else change fun s => { s with
    replayReferenceCandidates := s.replayReferenceCandidates ++
      [⟨state.itemType,itemId,state.callId,state.toolNamespace,state.name⟩] }

def resolveDeclaredTool (toolNamespace : Option Text) (name toolType : Text) : Option Tool :=
  match toolNamespace with
  | some given => if (given,name,toolType) ∈ p.declaredClientTools then some (given,name,toolType) else none
  | none =>
    match (p.declaredClientTools.filter fun t => t.2.1 = name ∧ t.2.2 = toolType).dedup with
    | [only] => some only
    | _ => none

def reasoningItemFields : List String := ["type","id","summary","content","encrypted_content","status"]

-- `[{"type": "reasoning_text", "text": expected}]`
def isReasoningContent (content : Document) (expected : Text) : Bool :=
  match content with
  | .arr [part] => part.isMapping && part.fields.keysAre ["type","text"] &&
      (part.fields.get (text "type")).isText "reasoning_text" &&
      decide ((part.fields.get (text "text")).text? = some expected)
  | _ => false

def openReasoningItem (item : Fields) (itemId : Text) (outputIndex : ℕ) : Step Unit := do
  require ((item.get (text "status")).isText "in_progress")
  require (item.get (text "content")).isNull
  let s ← current
  require (itemId ∉ s.seenItemIds ∧ (s.reasoningOutputIndices.lookup itemId).isNone ∧
    s.codexOutputItemsStarted < maxResponseOutputItems)
  change fun s => { s with
    seenItemIds := itemId :: s.seenItemIds
    reasoningOutputIndices := s.reasoningOutputIndices.put itemId outputIndex
    activeItems := s.activeItems.put itemId { itemType := .reasoning }
    codexOutputItemsStarted := s.codexOutputItemsStarted + 1 }

def closeReasoningItem (item : Fields) (itemId : Text) (outputIndex : ℕ) : Step Unit := do
  let s ← current
  require ((item.get (text "status")).isText "completed" ∧ itemId ∉ s.reasoningOutputDone)
  require (s.reasoningOutputIndices.lookup itemId = some outputIndex)
  require ((itemId,0) ∈ s.reasoningPartsDone)
  require (s.activeItems.lookup itemId).isSome
  require (isReasoningContent (item.get (text "content")) ((s.reasoningDeltas.lookup (itemId,true,0)).getD []))
  change fun s => { s with
    activeItems := s.activeItems.drop itemId
    reasoningOutputDone := itemId :: s.reasoningOutputDone }

def validateCodexReasoningOutputItem (payload : Fields) (eventType : Text) : Step Unit := do
  onlyFields payload ["type","output_index","item","sequence_number"]
  let outputIndex ← requiredIndex payload "output_index"
  let _ ← requiredIndex payload "sequence_number"
  let item ← orRaise (payload.get (text "item")).mapping? .rejected
  require (item.keysAre reasoningItemFields)
  let itemId ← requiredIdentifier (item.get (text "id"))
  require ((item.get (text "type")).isText "reasoning" ∧ isEmptyList (item.get (text "summary")))
  require (item.get (text "encrypted_content")).isNull
  acceptStrictSequence payload
  if isDone eventType then closeReasoningItem item itemId outputIndex else openReasoningItem item itemId outputIndex

-- `[{"type": "output_text", "text": expected, "annotations": [], "logprobs": None}]`
def isMessageContent (content : Document) (expected : Text) : Bool :=
  match content with
  | .arr [part] => part.isMapping && part.fields.keysAre ["type","text","annotations","logprobs"] &&
      (part.fields.get (text "type")).isText "output_text" &&
      decide ((part.fields.get (text "text")).text? = some expected) &&
      isEmptyList (part.fields.get (text "annotations")) && (part.fields.get (text "logprobs")).isNull
  | _ => false

def openMessageItem (item : Fields) (itemId : Text) (outputIndex : ℕ) : Step Unit := do
  require ((item.get (text "status")).isText "in_progress")
  require (isEmptyList (item.get (text "content")))
  let s ← current
  require (itemId ∉ s.seenItemIds ∧ (s.messageOutputIndices.lookup itemId).isNone ∧
    s.codexOutputItemsStarted < maxResponseOutputItems)
  change fun s => { s with
    seenItemIds := itemId :: s.seenItemIds
    messageOutputIndices := s.messageOutputIndices.put itemId outputIndex
    activeItems := s.activeItems.put itemId { itemType := .message }
    codexOutputItemsStarted := s.codexOutputItemsStarted + 1 }

def closeMessageItem (item : Fields) (itemId : Text) (outputIndex : ℕ) : Step Unit := do
  let s ← current
  require ((item.get (text "status")).isText "completed" ∧ isEmptyList (item.get (text "summary")) ∧
    itemId ∉ s.messageOutputDone)
  require (s.messageOutputIndices.lookup itemId = some outputIndex)
  require (s.activeItems.lookup itemId).isSome
  require ((itemId,0) ∈ s.messagePartsDone)
  require (isMessageContent (item.get (text "content")) ((s.messageTextDeltas.lookup (itemId,0)).getD []))
  change fun s => { s with
    activeItems := s.activeItems.drop itemId
    messageOutputDone := itemId :: s.messageOutputDone }

def messageItemFields : List String := ["type","id","status","role","content","phase"]

def validateCodexMessageOutputItem (payload : Fields) (eventType : Text) : Step Unit := do
  onlyFields payload ["type","output_index","item","sequence_number"]
  let outputIndex ← requiredIndex payload "output_index"
  let _ ← requiredIndex payload "sequence_number"
  let item ← orRaise (payload.get (text "item")).mapping? .rejected
  require (item.keysAre (if isDone eventType then messageItemFields ++ ["summary"] else messageItemFields))
  let itemId ← requiredIdentifier (item.get (text "id"))
  require ((item.get (text "type")).isText "message" ∧ (item.get (text "role")).isText "assistant" ∧
    (item.get (text "phase")).isNull)
  acceptStrictSequence payload
  if isDone eventType then closeMessageItem item itemId outputIndex else openMessageItem item itemId outputIndex

def contentPartFields : List String := ["type","item_id","output_index","content_index","part","sequence_number"]

def addMessagePart (key : Part) (shown : Text) : Step Unit := do
  let s ← current
  require (key ∉ s.messagePartsAdded ∧ key ∉ s.messagePartsDone)
  require (shown = [])
  change fun s => { s with messagePartsAdded := key :: s.messagePartsAdded }

def endMessagePart (key : Part) (shown : Text) : Step Unit := do
  let s ← current
  require (key ∈ s.messagePartsAdded ∧ key ∉ s.messagePartsDone)
  require (key ∈ s.messageTextDone)
  require (shown = (s.messageTextDeltas.lookup key).getD [])
  change fun s => { s with messagePartsDone := key :: s.messagePartsDone }

def validateCodexMessageContentPart (payload : Fields) (eventType : Text) : Step Unit := do
  let added := eventType = text "response.content_part.added"
  onlyFields payload contentPartFields
  let itemId ← requiredIdentifier (payload.get (text "item_id"))
  let outputIndex ← requiredIndex payload "output_index"
  let contentIndex ← requiredIndex payload "content_index"
  let _ ← requiredIndex payload "sequence_number"
  let _ ← activeItem itemId .message
  let s ← current
  require (s.messageOutputIndices.lookup itemId = some outputIndex ∧ contentIndex = 0)
  let shown ← validateOutputTextPart (payload.get (text "part")) (if added then isEmptyList else Document.isNull)
  acceptStrictSequence payload
  if added then addMessagePart (itemId,contentIndex) shown else endMessagePart (itemId,contentIndex) shown

def addMessageText (payload : Fields) (key : Part) : Step Unit := do
  let s ← current
  require (key ∉ s.messageTextDone ∧ key ∉ s.messagePartsDone)
  let delta ← boundedText (payload.get (text "delta")) maxStreamDeltaBytes
  let combined := (s.messageTextDeltas.lookup key).getD [] ++ delta
  boundedUtf8 combined maxStreamCumulativeItemBytes
  change fun s => { s with
    messageTextDeltas := s.messageTextDeltas.put key combined
    messageDeltaSeen := key :: s.messageDeltaSeen }

def endMessageText (payload : Fields) (key : Part) : Step Unit := do
  let s ← current
  require (key ∉ s.messageTextDone ∧ key ∉ s.messagePartsDone)
  let shown ← boundedText (payload.get (text "text")) maxStreamItemTextBytes
  require (key ∈ s.messageDeltaSeen)
  require (shown = (s.messageTextDeltas.lookup key).getD [])
  change fun s => { s with messageTextDone := key :: s.messageTextDone }

def validateCodexMessageTextEvent (payload : Fields) (eventType : Text) : Step Unit := do
  let streamed := eventType = text "response.output_text.delta"
  onlyFields payload (["type","item_id","output_index","content_index","sequence_number","logprobs"] ++
    [if streamed then "delta" else "text"])
  let itemId ← requiredIdentifier (payload.get (text "item_id"))
  let outputIndex ← requiredIndex payload "output_index"
  let contentIndex ← requiredIndex payload "content_index"
  let _ ← requiredIndex payload "sequence_number"
  require (isEmptyList (payload.get (text "logprobs")))
  let _ ← activeItem itemId .message
  let s ← current
  require (s.messageOutputIndices.lookup itemId = some outputIndex)
  require (contentIndex = 0)
  acceptStrictSequence payload
  require ((itemId,0) ∈ s.messagePartsAdded)
  if streamed then addMessageText payload (itemId,0) else endMessageText payload (itemId,0)

def addReasoningPart (key : Part) (shown : Text) : Step Unit := do
  let s ← current
  require (key ∉ s.reasoningPartsAdded ∧ key ∉ s.reasoningPartsDone)
  require (shown = [])
  change fun s => { s with reasoningPartsAdded := key :: s.reasoningPartsAdded }

def endReasoningPart (key : Part) (shown : Text) : Step Unit := do
  let s ← current
  require (key ∈ s.reasoningPartsAdded ∧ key ∉ s.reasoningPartsDone)
  require (key ∈ s.reasoningTextDone)
  require (shown = (s.reasoningDeltas.lookup (key.1,true,key.2)).getD [])
  change fun s => { s with reasoningPartsDone := key :: s.reasoningPartsDone }

def validateReasoningPartEvent (payload : Fields) (eventType : Text) : Step Unit := do
  onlyFields payload contentPartFields
  let itemId ← requiredIdentifier (payload.get (text "item_id"))
  let outputIndex ← requiredIndex payload "output_index"
  let contentIndex ← requiredIndex payload "content_index"
  acceptStrictSequence payload
  let _ ← activeItem itemId .reasoning
  let s ← current
  require (s.reasoningOutputIndices.lookup itemId = some outputIndex ∧ contentIndex = 0)
  let part ← orRaise (payload.get (text "part")).mapping? .rejected
  let shown ← validateReasoningTextPart part "reasoning_text"
  if eventType = text "response.reasoning_part.added" then addReasoningPart (itemId,contentIndex) shown
  else endReasoningPart (itemId,contentIndex) shown

-- What is asked of the state of a function call that is still being told.
def tellingFunction (itemId : Text) (outputIndex : ℕ) : Step ItemState := do
  let state ← activeItem itemId .functionCall
  let s ← current
  require (s.functionOutputIndices.lookup itemId = some outputIndex)
  require (itemId ∉ s.functionArgumentsDone ∧ itemId ∉ s.functionOutputDone)
  pure state

def functionArgumentsDelta (payload : Fields) : Step Unit := do
  onlyFields payload ["type","item_id","output_index","sequence_number","delta"]
  let itemId ← requiredIdentifier (payload.get (text "item_id"))
  let outputIndex ← requiredIndex payload "output_index"
  let state ← tellingFunction itemId outputIndex
  let delta ← orRaise (payload.get (text "delta")).text? .rejected
  require (delta ≠ [])
  boundedUtf8 delta maxStreamDeltaBytes
  boundedUtf8 (state.deltaText ++ delta) maxStreamCumulativeItemBytes
  acceptStrictSequence payload
  change fun s => { s with
    activeItems := s.activeItems.put itemId { state with deltaText := state.deltaText ++ delta }
    functionDeltaSeen := itemId :: s.functionDeltaSeen }

def functionArgumentsDone (payload : Fields) : Step Unit := do
  onlyFields payload ["type","item_id","output_index","sequence_number","name","arguments"]
  let itemId ← requiredIdentifier (payload.get (text "item_id"))
  let outputIndex ← requiredIndex payload "output_index"
  let name ← boundedName (payload.get (text "name"))
  let arguments ← boundedText (payload.get (text "arguments")) maxStreamItemTextBytes
  let state ← activeItem itemId .functionCall
  let s ← current
  require (s.functionOutputIndices.lookup itemId = some outputIndex ∧ state.name = some name)
  require (itemId ∉ s.functionArgumentsDone ∧ itemId ∉ s.functionOutputDone ∧ itemId ∈ s.functionDeltaSeen)
  require (arguments = state.deltaText)
  acceptStrictSequence payload
  change fun s => { s with functionArgumentsDone := itemId :: s.functionArgumentsDone }

def functionItemFields : List String := ["type","id","status","namespace","name","arguments","call_id"]

structure FunctionItem where
  itemId : Text
  callId : Text
  name : Text
  arguments : Text

-- The item of a function call event, whichever its state.
def functionItem (item : Fields) : Step FunctionItem := do
  require (item.keysAre functionItemFields || item.keysAre (functionItemFields ++ ["caller"]))
  let itemId ← requiredIdentifier (item.get (text "id"))
  let callId ← requiredIdentifier (item.get (text "call_id"))
  let name ← boundedName (item.get (text "name"))
  require ((item.get (text "type")).isText "function_call" ∧ (item.get (text "namespace")).isNull ∧
    (item.get (text "caller")).isNull)
  let arguments ← boundedText (item.get (text "arguments")) maxStreamItemTextBytes
  pure ⟨itemId,callId,name,arguments⟩

def openFunctionItem (item : Fields) (f : FunctionItem) (outputIndex : ℕ) : Step Unit := do
  let s ← current
  require ((item.get (text "status")).isText "in_progress" ∧ f.arguments = [])
  require (f.itemId ∉ s.seenItemIds ∧ f.callId ∉ s.seenCallIds ∧ s.functionOutputIndices = [])
  require (s.codexOutputItemsStarted < maxResponseOutputItems)
  require (resolveDeclaredTool p none f.name (text "function")).isSome
  change fun s => { s with
    seenItemIds := f.itemId :: s.seenItemIds
    seenCallIds := f.callId :: s.seenCallIds
    functionOutputIndices := s.functionOutputIndices.put f.itemId outputIndex
    activeItems := s.activeItems.put f.itemId
      { itemType := .functionCall, toolNamespace := some (text "functions"), name := some f.name, callId := some f.callId }
    codexOutputItemsStarted := s.codexOutputItemsStarted + 1 }

def zeroArgumentOmission (s : Validator) (f : FunctionItem) : Bool :=
  f.name ∈ p.zeroArgumentFunctionNames ∧ f.itemId ∉ s.functionDeltaSeen ∧ f.itemId ∉ s.functionArgumentsDone ∧
    f.arguments = []

def ordinaryCompletion (s : Validator) (f : FunctionItem) (state : ItemState) : Bool :=
  f.itemId ∈ s.functionArgumentsDone ∧ f.arguments = state.deltaText

def closeFunctionItem (item : Fields) (f : FunctionItem) (outputIndex : ℕ) : Step Unit := do
  require ((item.get (text "status")).isText "completed")
  let state ← activeItem f.itemId .functionCall
  let s ← current
  require (s.functionOutputIndices.lookup f.itemId = some outputIndex)
  require (state.callId = some f.callId ∧ state.name = some f.name ∧ f.itemId ∉ s.functionOutputDone)
  require (zeroArgumentOmission p s f || ordinaryCompletion s f state)
  change fun s => { s with
    functionOutputDone := f.itemId :: s.functionOutputDone
    functionDoneStates := s.functionDoneStates.put f.itemId state
    activeItems := s.activeItems.drop f.itemId }
  captureReplayCandidate p f.itemId state

def validateCodexFunctionOutputItem (payload : Fields) (eventType : Text) : Step Unit := do
  onlyFields payload ["type","output_index","sequence_number","item"]
  let outputIndex ← requiredIndex payload "output_index"
  let _ ← requiredIndex payload "sequence_number"
  let item ← orRaise (payload.get (text "item")).mapping? .rejected
  let f ← functionItem item
  acceptStrictSequence payload
  if isDone eventType then closeFunctionItem p item f outputIndex else openFunctionItem p item f outputIndex

def validateCodexFunctionEvent (payload : Fields) (eventType : Text) : Step Unit := do
  let s ← current
  require (s.strictResponseId.isSome ∧ s.strictResponseCompleted = false)
  if among eventType outputItemEvents then validateCodexFunctionOutputItem p payload eventType
  else if eventType = text "response.function_call_arguments.delta" then functionArgumentsDelta payload
  else functionArgumentsDone payload

end Strict

section Completion
variable (p : Profile)

def reasoningOutputPart (part : Document) : Step ℕ := do
  let fields ← orRaise part.mapping? .rejected
  require (fields.keysAre ["type","text"])
  require ((fields.get (text "type")).isText "reasoning_text")
  let t ← boundedText (fields.get (text "text")) maxStreamItemTextBytes
  utf8Length t

def messageOutputPart (part : Document) : Step ℕ := do
  let t ← validateOutputTextPart part Document.isNull
  utf8Length t

def sumParts (check : Document → Step ℕ) : List Document → Step ℕ
  | [] => pure 0
  | part :: rest => do
    let size ← check part
    let more ← sumParts check rest
    pure (size + more)

def reasoningOutputItem (item : Fields) : Step ℕ := do
  require (item.keysAre reasoningItemFields)
  require ((item.get (text "status")).isNull ∧ isEmptyList (item.get (text "summary")) ∧
    (item.get (text "encrypted_content")).isNull)
  let content ← boundedList (item.get (text "content"))
  sumParts reasoningOutputPart content

def functionOutputItem (item : Fields) : Step ℕ := do
  require (p.codex0149FunctionToolEvents = true)
  require (item.keysAre (functionItemFields ++ ["caller"]) || item.keysAre functionItemFields)
  require ((item.get (text "status")).isText "completed" ∧ (item.get (text "namespace")).isNull ∧
    (item.get (text "caller")).isNull)
  let name ← boundedName (item.get (text "name"))
  let _ ← requiredIdentifier (item.get (text "call_id"))
  let arguments ← boundedText (item.get (text "arguments")) maxStreamItemTextBytes
  let s ← current
  require (s.functionDoneStates.map (fun entry => (entry.2.name,entry.2.deltaText)) = [(some name,arguments)])
  utf8Length arguments

def messageOutputItem (item : Fields) : Step ℕ := do
  require ((item.get (text "type")).isText "message" && item.keysAre messageItemFields)
  require ((item.get (text "status")).isText "completed" ∧ (item.get (text "role")).isText "assistant" ∧
    (item.get (text "phase")).isNull)
  let content ← boundedList (item.get (text "content"))
  require (content ≠ [])
  sumParts messageOutputPart content

-- `_validate_codex_completed_output_item`, with the bytes of the item's texts.
def validateCodexCompletedOutputItem (item : Document) : Step ℕ := do
  let fields ← orRaise item.mapping? .rejected
  let _ ← requiredIdentifier (fields.get (text "id"))
  if (fields.get (text "type")).isText "reasoning" then reasoningOutputItem fields
  else if (fields.get (text "type")).isText "function_call" then functionOutputItem p fields
  else messageOutputItem fields

def completedOutputItems (total : ℕ) : List Document → Step Unit
  | [] => pure ()
  | item :: rest => do
    let size ← validateCodexCompletedOutputItem p item
    require (total + size ≤ maxResponseOutputBytes)
    completedOutputItems (total + size) rest

def validateCodexCompletedOutput (output : Document) : Step Unit := do
  let items ← orRaise output.items? .rejected
  require (items ≠ [] ∧ items.length ≤ maxResponseOutputItems)
  completedOutputItems p 0 items

def startResponse (eventType : Text) (responseId : Text) (status : Document) : Step Unit := do
  let s ← current
  if eventType = text "response.created" then do
    require s.strictResponseId.isNone
    oneOf status ["queued","in_progress"]
    change fun s => { s with strictResponseId := some responseId }
  else require (s.strictResponseId = some responseId ∧ status.isText "in_progress")

def progressResponse (payload : Fields) (eventType : Text) : Step Unit := do
  let responseId ← validateResponseProgressEvent payload
  let _ ← requiredIndex payload "sequence_number"
  let response := (payload.get (text "response")).fields
  validateResponseEnvelope response
  require (response.has (text "output") → isEmptyList (response.get (text "output")))
  require (response.get (text "usage")).isNull
  startResponse eventType responseId (response.get (text "status"))
  acceptStrictSequence payload

def completeResponse (payload : Fields) : Step Unit := do
  let response ← validateResponseCompletedEvent payload
  let _ ← requiredIndex payload "sequence_number"
  let s ← current
  require (s.strictResponseId.isSome ∧ (response.get (text "id")).text? = s.strictResponseId ∧
    (response.get (text "status")).isText "completed" ∧ s.strictResponseCompleted = false)
  require (s.activeItems = [] ∧ (s.reasoningOutputDone ≠ [] ∨ s.messageOutputDone ≠ [] ∨ s.functionOutputDone ≠ []))
  validateResponseEnvelope response
  let usage ← orRaise (response.get (text "usage")).mapping? .rejected
  validateCompletedUsage usage
  validateCodexCompletedOutput p (response.get (text "output"))
  acceptStrictSequence payload
  change fun s => { s with strictResponseCompleted := true }

def validateCodexResponseEvent (payload : Fields) (eventType : Text) : Step Unit := do
  onlyFields payload ["type","response","sequence_number"]
  if eventType = text "response.completed" then completeResponse p payload else progressResponse payload eventType

end Completion

section Reasoning
variable (p : Profile) (parseInt : Text → Option ℤ)

-- `int(value)`, where a missing field, None, a list or a dict, and a float without a value raise.
def toInt : Option Document → Option ℤ
  | some (.int n) => some n
  | some (.bool b) => some (if b then 1 else 0)
  | some (.float (some value) _) => some (value.num.tdiv value.den)
  | some (.str t) => parseInt t
  | _ => none

def isContentEvent (eventType : Text) : Bool :=
  among eventType ["response.reasoning_text.delta","response.reasoning_text.done"]

def isTextEvent (eventType : Text) : Bool :=
  among eventType ["response.reasoning_summary_text.done","response.reasoning_text.done"]

def reasoningEventFields (eventType : Text) : List String :=
  if eventType = text "response.reasoning_summary_part.added" then ["summary_index","part"]
  else if eventType = text "response.reasoning_summary_text.done" then ["summary_index","text"]
  else if eventType = text "response.reasoning_summary_text.delta" then ["summary_index","delta"]
  else if eventType = text "response.reasoning_text.done" then ["content_index","text"]
  else ["content_index","delta"]

def summaryPartAdded (payload : Fields) : Step Unit := do
  let _ ← requiredIndex payload "summary_index"
  let part ← orRaise (payload.get (text "part")).mapping? .rejected
  let _ ← validateReasoningTextPart part "summary_text"
  pure ()

def strictContentIndex (payload : Fields) : Step Unit := do
  let index ← orRaise (toInt parseInt (payload.get? (text "content_index"))) .crashed
  require (index = 0)

def endReasoningText (key : Text × Bool × ℕ) (value : Text) (strictCodex : Bool) : Step Unit := do
  let s ← current
  if strictCodex then do
    let part : Part := (key.1,key.2.2)
    require (part ∈ s.reasoningPartsAdded ∧ part ∈ s.reasoningDeltaSeen)
    require (part ∉ s.reasoningTextDone ∧ part ∉ s.reasoningPartsDone)
    require (value = (s.reasoningDeltas.lookup key).getD [])
    change fun s => { s with reasoningTextDone := part :: s.reasoningTextDone }
  else require ((s.reasoningDeltas.lookup key).all (· = value))

def addReasoningText (key : Text × Bool × ℕ) (value : Text) (strictCodex : Bool) : Step Unit := do
  let part : Part := (key.1,key.2.2)
  let s ← current
  require (strictCodex = true → part ∈ s.reasoningPartsAdded ∧ part ∉ s.reasoningTextDone ∧ part ∉ s.reasoningPartsDone)
  let combined := (s.reasoningDeltas.lookup key).getD [] ++ value
  boundedUtf8 combined maxStreamCumulativeItemBytes
  change fun s => { s with
    reasoningDeltas := s.reasoningDeltas.put key combined
    reasoningDeltaSeen := if strictCodex then part :: s.reasoningDeltaSeen else s.reasoningDeltaSeen }

def reasoningText (payload : Fields) (eventType itemId : Text) (strictCodex : Bool) : Step Unit := do
  if strictCodex then strictContentIndex parseInt payload else pure ()
  let index ← requiredIndex payload (if isContentEvent eventType then "content_index" else "summary_index")
  let key := (itemId,isContentEvent eventType,index)
  if isTextEvent eventType then do
    let value ← boundedText (payload.get (text "text")) maxStreamItemTextBytes
    endReasoningText key value strictCodex
  else do
    let value ← boundedText (payload.get (text "delta")) maxStreamDeltaBytes
    addReasoningText key value strictCodex

-- The exact profile sends only the events of the content here.
def validateReasoningEvent (payload : Fields) (eventType : Text) (strictCodex : Bool) : Step Unit := do
  onlyFields payload (["type","item_id","output_index","sequence_number"] ++ reasoningEventFields eventType)
  let itemId ← requiredIdentifier (payload.get (text "item_id"))
  let sparseVisible := p.allowSparseVisibleReasoning && !strictCodex && isContentEvent eventType
  require (payload.has (text "output_index") = true ∨ sparseVisible = false →
    (validIndex (payload.get (text "output_index"))).isSome)
  if strictCodex then acceptStrictSequence payload else optionalIndex payload "sequence_number"
  let _ ← activeItem itemId .reasoning
  let s ← current
  require (strictCodex = true → s.reasoningOutputIndices.lookup itemId = validIndex (payload.get (text "output_index")))
  if eventType = text "response.reasoning_summary_part.added" then summaryPartAdded payload
  else reasoningText parseInt payload eventType itemId strictCodex

end Reasoning

section OutputItems
variable (p : Profile)

def toolItemFields (textField : String) : List String := ["type","id","status","namespace","name",textField,"call_id"]

def optionalName (value : Document) : Step (Option Text) :=
  if value.isNull then pure none else some <$> boundedName value

def toolItem (item : Fields) (itemType : ItemType) (textField toolType : String) : Step ItemState := do
  onlyFields item (toolItemFields textField)
  absentOrOneOf (item.get (text "status")) itemStatuses
  let callId ← requiredIdentifier (item.get (text "call_id"))
  let name ← boundedName (item.get (text "name"))
  let toolNamespace ← optionalName (item.get (text "namespace"))
  let _ ← boundedText (item.get (text textField)) maxStreamItemTextBytes
  let resolved ← orRaise (resolveDeclaredTool p toolNamespace name (text toolType)) .rejected
  require (toolType = "custom" → resolved ∈ p.customClientTools)
  pure { itemType, toolNamespace := some resolved.1, name := some resolved.2.1, callId := some callId }

def reasoningItem (item : Fields) (done : Bool) : Step ItemState := do
  let encryptedBytes ← validateReasoningItem item done p.codexEncryptedReasoningReplay p.allowSparseVisibleReasoning
  let s ← current
  require (s.encryptedReasoningBytes + encryptedBytes ≤ maxStreamEncryptedReasoningBytes ∨ encryptedBytes = 0)
  change fun s => { s with encryptedReasoningBytes := s.encryptedReasoningBytes + encryptedBytes }
  pure { itemType := .reasoning, encryptedReasoning := encryptedBytes ≠ 0 }

def validateItemShape (item : Fields) (done : Bool) : Step ItemState :=
  if (item.get (text "type")).isText "function_call" then toolItem p item .functionCall "arguments" "function"
  else if (item.get (text "type")).isText "custom_tool_call" then toolItem p item .customToolCall "input" "custom"
  else if (item.get (text "type")).isText "message" then do
    validateAssistantMessageItem item
    pure { itemType := .message }
  else if (item.get (text "type")).isText "reasoning" then reasoningItem p item done
  else reject

def ItemState.isTool (state : ItemState) : Bool := state.itemType = .functionCall ∨ state.itemType = .customToolCall

def ItemState.textField (state : ItemState) : String := if state.itemType = .functionCall then "arguments" else "input"

def sameStreamItem (first second : ItemState) : Bool :=
  first.itemType = second.itemType ∧ first.toolNamespace = second.toolNamespace ∧ first.name = second.name ∧
    first.callId = second.callId

def needsItemId (state : ItemState) (done : Bool) : Bool :=
  !done || state.isTool || (state.itemType = .reasoning && p.codexEncryptedReasoningReplay)

def openOutputItem (payload : Fields) (itemId : Text) (state : ItemState) : Step Unit := do
  let s ← current
  require (itemId ∉ s.seenItemIds ∧ ∀ callId ∈ state.callId, callId ∉ s.seenCallIds)
  change fun s => { s with
    seenItemIds := itemId :: s.seenItemIds
    seenCallIds := state.callId.toList ++ s.seenCallIds
    activeItems := s.activeItems.put itemId state
    functionOutputIndices :=
      match validIndex (payload.get (text "output_index")) with
      | some index => if p.allowSparseFunctionEvents ∧ state.itemType = .functionCall
        then s.functionOutputIndices.put itemId index else s.functionOutputIndices
      | none => s.functionOutputIndices }

def closeOutputItem (item : Fields) (itemId : Text) (active state : ItemState) : Step Unit := do
  let s ← current
  require (sameStreamItem active state)
  require ((active.deltaText ≠ [] ∨ itemId ∈ s.functionArgumentsDone) ∧ state.isTool = true →
    (item.get (text state.textField)).text? = some active.deltaText)
  change fun s => { s with activeItems := s.activeItems.drop itemId }
  captureReplayCandidate p itemId state

-- An item that was not opened before.
def wholeOutputItem (itemId : Option Text) (state : ItemState) : Step Unit := do
  let s ← current
  require (∀ id ∈ itemId, id ∉ s.seenItemIds)
  change fun s => { s with seenItemIds := itemId.toList ++ s.seenItemIds }
  require (∀ callId ∈ state.callId, callId ∉ s.seenCallIds)
  change fun s => { s with seenCallIds := state.callId.toList ++ s.seenCallIds }
  match itemId with
  | some id => captureReplayCandidate p id state
  | none => pure ()

def endOutputItem (item : Fields) (itemId : Option Text) (state : ItemState) : Step Unit := do
  let s ← current
  match itemId.bind fun id => (s.activeItems.lookup id).map fun active => (id,active) with
  | some (id,active) => closeOutputItem p item id active state
  | none => do
    require (itemId.isSome = true → p.allowSparseVisibleReasoning = true → state.itemType = .reasoning →
      state.encryptedReasoning = true)
    wholeOutputItem p itemId state

def validateOutputItem (payload : Fields) (eventType : Text) : Step Unit := do
  onlyFields payload ["type","output_index","item","sequence_number"]
  optionalIndex payload "output_index"
  optionalIndex payload "sequence_number"
  let item ← orRaise (payload.get (text "item")).mapping? .rejected
  let state ← validateItemShape p item (isDone eventType)
  let itemId ← optionalIdentifier (item.get (text "id"))
  require (needsItemId p state (isDone eventType) = true → itemId.isSome = true)
  if isDone eventType then endOutputItem p item itemId state
  else do
    let id ← orRaise itemId .rejected
    openOutputItem p payload id state

end OutputItems

section Codex
variable (p : Profile) (parseInt : Text → Option ℤ)

def deltaEventFields : List String :=
  ["type","item_id","output_index","content_index","delta","sequence_number","logprobs","obfuscation"]

def validateDeltaEvent (payload : Fields) (requireItem : Bool) : Step Text := do
  onlyFields payload (if (payload.get (text "type")).isText "response.custom_tool_call_input.delta"
    then deltaEventFields ++ ["call_id"] else deltaEventFields)
  let delta ← boundedText (payload.get (text "delta")) maxStreamDeltaBytes
  optionalIndex payload "sequence_number"
  if requireItem then do
    let _ ← requiredIdentifier (payload.get (text "item_id"))
    let _ ← requiredIndex payload "output_index"
    pure delta
  else do
    let _ ← optionalIdentifier (payload.get (text "item_id"))
    optionalIndex payload "output_index"
    optionalIndex payload "content_index"
    pure delta

-- An index that is shown is the one the item was opened at.
def shownIndexFits (payload : Fields) (s : Validator) (itemId : Text) : Prop :=
  payload.has (text "output_index") = true → ∀ index ∈ s.functionOutputIndices.lookup itemId,
    validIndex (payload.get (text "output_index")) = some index

instance (payload : Fields) (s : Validator) (itemId : Text) : Decidable (shownIndexFits payload s itemId) := by
  unfold shownIndexFits; infer_instance

def validateToolDelta (payload : Fields) (eventType : Text) : Step Unit := do
  let function := eventType = text "response.function_call_arguments.delta"
  onlyFields payload (["type","item_id","output_index","delta","sequence_number"] ++
    if eventType = text "response.custom_tool_call_input.delta" then ["call_id"] else [])
  let delta ← validateDeltaEvent payload !(p.allowSparseFunctionEvents && function)
  let itemId ← orRaise (payload.get (text "item_id")).text? .rejected
  let state ← activeItem itemId (if function then .functionCall else .customToolCall)
  let s ← current
  require (itemId ∉ s.functionArgumentsDone)
  require (p.allowSparseFunctionEvents = true → shownIndexFits payload s itemId)
  let callId ← optionalIdentifier (payload.get (text "call_id"))
  require (∀ id ∈ callId, state.callId = some id)
  boundedUtf8 (state.deltaText ++ delta) maxStreamCumulativeItemBytes
  change fun s => { s with activeItems := s.activeItems.put itemId { state with deltaText := state.deltaText ++ delta } }

def validateSparseFunctionArgumentsDone (payload : Fields) : Step Unit := do
  onlyFields payload ["type","item_id","output_index","sequence_number","name","arguments"]
  let itemId ← requiredIdentifier (payload.get (text "item_id"))
  optionalIndex payload "output_index"
  optionalIndex payload "sequence_number"
  let arguments ← boundedText (payload.get (text "arguments")) maxStreamCumulativeItemBytes
  let state ← activeItem itemId .functionCall
  let s ← current
  require (itemId ∉ s.functionArgumentsDone ∧ arguments = state.deltaText)
  require (payload.has (text "name") = true → (payload.get (text "name")).text? = state.name)
  require (shownIndexFits payload s itemId)
  change fun s => { s with functionArgumentsDone := itemId :: s.functionArgumentsDone }

def validateExistingTextEvent (payload : Fields) (eventType : Text) : Step Unit :=
  if eventType = text "response.completed" then require (payload.get (text "response")).isMapping
  else if eventType = text "response.output_text.delta" then require (payload.get (text "delta")).text?.isSome
  else require (among eventType textStreamEventTypes)

def uncheckedCodexEvents : List String :=
  ["response.reasoning_part.added","response.reasoning_part.done","response.content_part.added",
    "response.content_part.done","response.output_text.done"]

def reasoningCodexEvents : List String :=
  ["response.reasoning_summary_part.added","response.reasoning_summary_text.delta","response.reasoning_summary_text.done",
    "response.reasoning_text.delta","response.reasoning_text.done"]

def validateCodexEvent (payload : Fields) (eventType : Text) : Step Unit :=
  if among eventType ["response.created","response.in_progress"] then do
    let _ ← validateResponseProgressEvent payload
    pure ()
  else if eventType = text "response.completed" then do
    let _ ← validateResponseCompletedEvent payload
    pure ()
  else if eventType = text "response.output_text.delta" then do
    let _ ← validateDeltaEvent payload false
    pure ()
  else if among eventType ["response.function_call_arguments.delta","response.custom_tool_call_input.delta"] then
    validateToolDelta p payload eventType
  else if eventType = text "response.function_call_arguments.done" && p.allowSparseFunctionEvents then
    validateSparseFunctionArgumentsDone payload
  else if among eventType reasoningCodexEvents then validateReasoningEvent p parseInt payload eventType false
  else if among eventType uncheckedCodexEvents then pure ()
  else if among eventType outputItemEvents then validateOutputItem p payload eventType
  else reject

end Codex

section WebSearch
variable (p : Profile)

def maxSafeContentLength : ℕ := 4096
def maxSafeActionList : ℕ := 64

def contentString (value : Document) (required : Bool) : Bool :=
  if value.isNull then !required else value.text?.any fun t => t.length ≤ maxSafeContentLength

def searchSource (source : Document) : Bool :=
  source.isMapping && source.fields.keysAre ["type","url"] && (source.fields.get (text "type")).isText "url" &&
    contentString (source.fields.get (text "url")) false

def absentOrEach (value : Document) (fine : Document → Bool) : Bool :=
  value.isNull || value.items?.any fun items => items.length ≤ maxSafeActionList && items.all fine

-- `validate_web_search_action`
def validAction (value : Document) : Bool :=
  let action := value.fields
  let type := action.get (text "type")
  value.isMapping &&
    if type.isText "search" then action.keysWithin ["type","query","queries","sources"] &&
      contentString (action.get (text "query")) false &&
      absentOrEach (action.get (text "queries")) (contentString · false) &&
      absentOrEach (action.get (text "sources")) searchSource
    else if type.isText "open_page" then action.keysWithin ["type","url"] && contentString (action.get (text "url")) false
    else if type.isText "find_in_page" then action.keysAre ["type","url","pattern"] &&
      contentString (action.get (text "url")) true && contentString (action.get (text "pattern")) true
    else false

def Profile.webSearchEventLimit : ℤ :=
  min 256 (max 8 (((p.webSearchMaxToolCalls.filter (· ≠ 0)).getD 1) * 8 + 8))

def lastSegment (eventType : Text) : Text := (eventType.reverse.takeWhile fun c => c.val ≠ 46).reverse

def nonnegativeInt : Document → Bool
  | .int n => 0 ≤ n
  | _ => false

def webSearchCall (payload item : Fields) (eventType : Text) : Step Unit := do
  require ((item.get (text "type")).isText "web_search_call")
  require (isDone eventType)
  require ((item.get (text "id")).text?.any (· ≠ []) && nonnegativeInt (payload.get (text "output_index")))
  oneOf (item.get (text "status")) ["completed","in_progress","searching","failed"]
  require (validAction (item.get (text "action")))

def webSearchBody (payload : Fields) (eventType : Text) : Step Unit :=
  if eventType = text "response.completed" then do
    let response ← orRaise (payload.get (text "response")).mapping? .rejected
    require ((response.get (text "status")).isText "completed")
    require (response.get (text "usage")).isMapping
  else if (text "response.web_search_call.").isPrefixOf eventType then do
    let _ ← requiredIdentifier (payload.get (text "item_id"))
    let _ ← requiredIndex payload "output_index"
    require (among (lastSegment eventType) ["in_progress","searching","completed","failed"])
  else if among eventType outputItemEvents then do
    let item ← orRaise (payload.get (text "item")).mapping? .rejected
    if (item.get (text "type")).isText "message" then validateAssistantMessageItem item
    else webSearchCall payload item eventType
  else reject

def validateWebSearchEvent (payload : Fields) (eventType : Text) : Step Unit := do
  let s ← current
  require (s.webSearchEventCount < p.webSearchEventLimit)
  change fun s => { s with webSearchEventCount := s.webSearchEventCount + 1 }
  if among eventType textStreamEventTypes then validateExistingTextEvent payload eventType
  else do
    let sequence ← requiredIndex payload "sequence_number"
    require (sequence ∉ s.webSearchSeenSequences)
    change fun s => { s with webSearchSeenSequences := sequence :: s.webSearchSeenSequences }
    webSearchBody payload eventType

end WebSearch

section Validate
variable (p : Profile) (parseInt : Text → Option ℤ)

def partTexts (parts : Document) : List Text :=
  (parts.items?.getD []).filterMap fun part => part.mapping?.bind fun fields => (fields.get (text "text")).text?

def textsAt (fields : Fields) (keys : List String) : List Text := keys.filterMap fun key => (fields.get (text key)).text?

-- The generated texts of an event, in the order in which they are measured.
def generatedTexts (payload : Fields) : List Text :=
  textsAt payload ["delta","text"] ++
    match (payload.get (text "item")).mapping? with
    | some item => textsAt item ["arguments","input","encrypted_content"] ++ partTexts (item.get (text "content")) ++
        partTexts (item.get (text "summary"))
    | none => []

def sumBytes : List Text → Step ℕ
  | [] => pure 0
  | t :: rest => do
    let size ← utf8Length t
    let more ← sumBytes rest
    pure (size + more)

def recordEvent (payload : Fields) (eventType : Text) : Step Unit := do
  let size ← sumBytes (generatedTexts payload)
  change fun s => { s with safeEvents := (eventType,size) :: s.safeEvents }

def functionItemEvent (payload : Fields) (eventType : Text) : Bool :=
  among eventType outputItemEvents && (payload.get (text "item")).isMapping &&
    ((payload.get (text "item")).fields.get (text "type")).isText "function_call"

def argumentEvents : List String := ["response.function_call_arguments.delta","response.function_call_arguments.done"]

-- The exact Codex profile.
def validateStrictEvent (payload : Fields) (eventType : Text) : Step Unit :=
  if p.codex0149FunctionToolEvents && (functionItemEvent payload eventType || among eventType argumentEvents) then
    validateCodexFunctionEvent p payload eventType
  else if among eventType outputItemEvents then
    if ((payload.get (text "item")).fields.get (text "type")).isText "message" then
      validateCodexMessageOutputItem payload eventType
    else validateCodexReasoningOutputItem payload eventType
  else if among eventType ["response.reasoning_part.added","response.reasoning_part.done"] then
    validateReasoningPartEvent payload eventType
  else if isContentEvent eventType then validateReasoningEvent p parseInt payload eventType true
  else if among eventType ["response.content_part.added","response.content_part.done"] then
    validateCodexMessageContentPart payload eventType
  else if among eventType ["response.output_text.delta","response.output_text.done"] then
    validateCodexMessageTextEvent payload eventType
  else if among eventType ["response.created","response.in_progress","response.completed"] then
    validateCodexResponseEvent p payload eventType
  else reject

def validateTyped (payload : Fields) (eventType : Text) : Step Unit :=
  if p.webSearch then do
    validateWebSearchEvent p payload eventType
    recordEvent payload eventType
  else if p.codexReasoningEvents then do
    validateStrictEvent p parseInt payload eventType
    recordEvent payload eventType
  else if p.codexStreamingToolEvents then do
    require (among eventType codexStreamEventTypes)
    validateCodexEvent p parseInt payload eventType
    recordEvent payload eventType
  else validateExistingTextEvent payload eventType

def validate (payload : Document) : Step Unit := do
  let fields ← orRaise payload.mapping? .rejected
  let eventType ← orRaise (fields.get (text "type")).text? .rejected
  require (among eventType providerFailureEventTypes = false)
  validateTyped p parseInt fields eventType

-- One event after another; the answer of each and the state it leaves.
def validateAll (s : Validator) : List Document → List (Except Refusal Unit) × Validator
  | [] => ([],s)
  | payload :: rest =>
    let first := (validate p parseInt payload).exec s
    let later := validateAll first.2 rest
    (first.1 :: later.1,later.2)

end Validate

end SlaifGateway.Responses
