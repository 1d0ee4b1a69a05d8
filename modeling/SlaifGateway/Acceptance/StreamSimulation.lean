import SlaifGateway.Acceptance.Answers
import SlaifGateway.Acceptance.StreamLanguage

/-! The validator in the exact profile keeps to the machine of the stream's language: each event it takes is one
that the machine takes. -/
namespace SlaifGateway.Responses
open Library Library.Tx

section Hearing

def pointedItem (fields : Fields) (kind : ItemType) : Option Streamed := do
  let itemId ← (fields.get (text "item_id")).text?
  let outputIndex ← validIndex (fields.get (text "output_index"))
  some ⟨kind,itemId,outputIndex⟩

def contentText : Document → Option Text
  | .arr [part] => (part.fields.get (text "text")).text?
  | _ => none

-- The text of an item that is closed.
def closedText (item : Fields) (kind : ItemType) : Option Text :=
  if kind = .functionCall then (item.get (text "arguments")).text? else contentText (item.get (text "content"))

def heardItem (fields : Fields) (eventType : Text) : Option StreamEvent := do
  let item ← streamedItem (.obj fields)
  if isDone eventType then do
    let t ← closedText (fields.get (text "item")).fields item.kind
    some (.on item (.closed t))
  else some (.on item .opened)

def heardPart (fields : Fields) (kind : ItemType) (added : Bool) : Option StreamEvent := do
  let item ← pointedItem fields kind
  if added then some (.on item .partAdded)
  else do
    let t ← ((fields.get (text "part")).fields.get (text "text")).text?
    some (.on item (.partDone t))

def heardText (fields : Fields) (kind : ItemType) (done : Bool) (field : String) : Option StreamEvent := do
  let item ← pointedItem fields kind
  if done then do
    let t ← (fields.get (text field)).text?
    some (.on item (.textDone t))
  else do
    let t ← (fields.get (text "delta")).text?
    some (.on item (.delta t))

def heardResponse (fields : Fields) (eventType : Text) : Option StreamEvent := do
  let id ← ((fields.get (text "response")).fields.get (text "id")).text?
  if eventType = text "response.completed" then some (.completed id)
  else if eventType = text "response.created" then some (.created id)
  else some (.inProgress id)

def streamEvent (fields : Fields) (eventType : Text) : Option StreamEvent :=
  if among eventType outputItemEvents then heardItem fields eventType
  else if among eventType ["response.reasoning_part.added","response.reasoning_part.done"] then
    heardPart fields .reasoning (eventType = text "response.reasoning_part.added")
  else if isContentEvent eventType then heardText fields .reasoning (isTextEvent eventType) "text"
  else if among eventType ["response.content_part.added","response.content_part.done"] then
    heardPart fields .message (eventType = text "response.content_part.added")
  else if among eventType ["response.output_text.delta","response.output_text.done"] then
    heardText fields .message (eventType ≠ text "response.output_text.delta") "text"
  else if among eventType ["response.created","response.in_progress","response.completed"] then
    heardResponse fields eventType
  else if among eventType argumentEvents then
    heardText fields .functionCall (eventType ≠ text "response.function_call_arguments.delta") "arguments"
  else none

def heard (payload : Document) : Option (ℕ × StreamEvent) := do
  let sequence ← validIndex (payload.fields.get (text "sequence_number"))
  let eventType ← (payload.fields.get (text "type")).text?
  let event ← streamEvent payload.fields eventType
  some (sequence,event)

end Hearing

section Simulation

-- What the validator has noted of an item.
structure Marks where
  added : Bool := false
  seen : Bool := false
  done : Bool := false
  shown : Bool := false
  text : Text := []

theorem partLawful : LawfulBEq Part := inferInstance

attribute [local instance] partLawful in
def marks (s : Validator) : ItemType → Text → Marks
  | .message,id => {
      added := (id,0) ∈ s.messagePartsAdded, seen := (id,0) ∈ s.messageDeltaSeen, done := (id,0) ∈ s.messageTextDone
      shown := (id,0) ∈ s.messagePartsDone, text := (s.messageTextDeltas.lookup (id,0)).getD [] }
  | .reasoning,id => {
      added := (id,0) ∈ s.reasoningPartsAdded, seen := (id,0) ∈ s.reasoningDeltaSeen, done := (id,0) ∈ s.reasoningTextDone
      shown := (id,0) ∈ s.reasoningPartsDone, text := (s.reasoningDeltas.lookup (id,true,0)).getD [] }
  | .functionCall,id => {
      seen := id ∈ s.functionDeltaSeen, done := id ∈ s.functionArgumentsDone
      text := ((s.activeItems.lookup id).map ItemState.deltaText).getD [] }
  | .customToolCall,_ => {}

def Stage.marks (kind : ItemType) : Stage → Marks
  | .opened => {}
  | .parted => { added := true }
  | .telling t => { added := kind ≠ .functionCall, seen := true, text := t }
  | .told t => { added := kind ≠ .functionCall, seen := true, done := true, text := t }
  | .shown t | .closed t => { added := true, seen := true, done := true, shown := true, text := t }

structure Simulates (s : Validator) (a : StreamState) : Prop where
  last : s.strictLastSequence = a.last
  response : s.strictResponseId = a.response
  completed : s.strictResponseCompleted = a.completed
  count : s.codexOutputItemsStarted = a.items.length
  seen : ∀ item ∈ a.items, item.itemId ∈ s.seenItemIds
  functions : s.functionOutputIndices = [] → ∀ item ∈ a.items, item.kind ≠ .functionCall
  indexed : ∀ kind id index, (indicesOf s kind).lookup id = some index → ⟨kind,id,index⟩ ∈ a.items
  distinct : (a.items.map Streamed.itemId).Nodup
  staged : ∀ item, (a.stage item).isSome ↔ item ∈ a.items
  unclosed : ∀ item stage, a.stage item = some stage → stage.isClosed = false →
    marks s item.kind item.itemId = stage.marks item.kind ∧
      ∃ state, s.activeItems.lookup item.itemId = some state ∧ state.itemType = item.kind
  shut : ∀ item stage, a.stage item = some stage → stage.isClosed = true → s.activeItems.lookup item.itemId = none
  fresh : ∀ kind id, id ∉ s.seenItemIds → marks s kind id = {}
  some : s.reasoningOutputDone ≠ [] ∨ s.messageOutputDone ≠ [] ∨ s.functionOutputDone ≠ [] → a.items ≠ []

-- The event that a payload tells is one the machine takes, into a state of the machine for the state left.
def Follows (payload : Fields) (event : Option StreamEvent) (a : StreamState) (s' : Validator) : Prop :=
  ∃ n e a', validIndex (payload.get (text "sequence_number")) = some n ∧ event = some e ∧ a.hear (n,e) = some a' ∧
    Simulates s' a'

theorem simulatesInitial : Simulates {} {} := by
  constructor <;> simp [indicesOf,marks]
  · intro kind
    cases kind <;> simp
  · intro kind id
    cases kind <;> rfl

end Simulation

section Stages
variable (kind : ItemType) {stage : Stage} {t : Text} (unclosed : stage.isClosed = false)
include unclosed

theorem stagePartAdded (part : kind ≠ .functionCall) (new : (stage.marks kind).added = false) :
    stage.next kind .partAdded = some .parted ∧ Stage.parted.marks kind = { stage.marks kind with added := true } := by
  cases stage <;> simp_all [Stage.marks,Stage.next,Stage.isClosed]

theorem stageDelta (told : if kind = .functionCall then (stage.marks kind).added = false else (stage.marks kind).added = true)
    (going : (stage.marks kind).done = false) : ∃ later, stage.next kind (.delta t) = some later ∧ later.isClosed = false ∧
      later.marks kind = { stage.marks kind with seen := true, text := (stage.marks kind).text ++ t } := by
  by_cases function : kind = .functionCall <;> cases stage <;>
    simp_all [Stage.marks,Stage.next,Stage.isClosed]

theorem stageTextDone (seen : (stage.marks kind).seen = true) (new : (stage.marks kind).done = false)
    (whole : t = (stage.marks kind).text) : ∃ later, stage.next kind (.textDone t) = some later ∧ later.isClosed = false ∧
      later.marks kind = { stage.marks kind with done := true } := by
  cases stage <;> simp_all [Stage.marks,Stage.next,Stage.isClosed]

theorem stagePartDone (part : kind ≠ .functionCall) (done : (stage.marks kind).done = true)
    (new : (stage.marks kind).shown = false) (whole : t = (stage.marks kind).text) :
    ∃ later, stage.next kind (.partDone t) = some later ∧ later.isClosed = false ∧
      later.marks kind = { stage.marks kind with shown := true } := by
  cases stage <;> simp_all [Stage.marks,Stage.next,Stage.isClosed]

theorem stageClosed (part : kind ≠ .functionCall) (shown : (stage.marks kind).shown = true)
    (whole : t = (stage.marks kind).text) : stage.next kind (.closed t) = some (.closed t) := by
  cases stage <;> simp_all [Stage.marks,Stage.next,Stage.isClosed]

end Stages

section Moves
variable {s s' : Validator} {a : StreamState} {item : Streamed} {act : Act} {stage later : Stage} {n : ℕ}
  {payload : Fields} {event : Option StreamEvent}

-- All but the item of this id is kept.
structure Beside (s s' : Validator) (itemId : Text) : Prop where
  response : s'.strictResponseId = s.strictResponseId := by rfl
  completed : s'.strictResponseCompleted = s.strictResponseCompleted := by rfl
  count : s'.codexOutputItemsStarted = s.codexOutputItemsStarted := by rfl
  seen : s'.seenItemIds = s.seenItemIds := by rfl
  indices : ∀ kind, indicesOf s' kind = indicesOf s kind := by
    intro kind
    cases kind <;> rfl
  marks : ∀ kind id, id ≠ itemId → marks s' kind id = marks s kind id := by
    intro kind id other
    cases kind <;> simp [Responses.marks,lookupPut,lookupDrop,other]
  active : ∀ id, id ≠ itemId → s'.activeItems.lookup id = s.activeItems.lookup id := by
    intro id other
    rfl

theorem simulatesMoves (held : Simulates s a) (staged : a.stage item = some stage) (beside : Beside s s' item.itemId)
    (last : s'.strictLastSequence = some n)
    (told : later.isClosed = false → marks s' item.kind item.itemId = later.marks item.kind ∧
      ∃ state, s'.activeItems.lookup item.itemId = some state ∧ state.itemType = item.kind)
    (shut : later.isClosed = true → s'.activeItems.lookup item.itemId = none) :
    Simulates s' ({ a with last := some n }.put item later) := by
  have listed : item ∈ a.items := (held.staged item).mp (staged ▸ rfl)
  have differ : ∀ other old, a.stage other = some old → other ≠ item → other.itemId ≠ item.itemId := by
    intro other old known apart same
    exact apart (List.inj_on_of_nodup_map held.distinct ((held.staged other).mp (known ▸ rfl)) listed same)
  refine {
    last := last
    response := beside.response.trans held.response
    completed := beside.completed.trans held.completed
    count := beside.count.trans held.count
    seen := fun other known => beside.seen ▸ held.seen other known
    functions := fun none => held.functions ((beside.indices .functionCall).symm.trans none)
    indexed := fun kind id index known => held.indexed kind id index (beside.indices kind ▸ known)
    distinct := held.distinct
    staged := fun other => ?_
    unclosed := fun other old known going => ?_
    shut := fun other old known closed => ?_
    fresh := fun kind id unseen => ?_
    some := fun _ => List.ne_nil_of_mem listed }
  · by_cases same : other = item
    · simpa [same] using listed
    · rw [putOther same]
      exact held.staged other
  · by_cases same : other = item
    · subst same
      rw [putSelf] at known
      obtain rfl := Option.some.inj known
      exact told going
    · rw [putOther same] at known
      have apart := differ other old known same
      rw [beside.marks _ _ apart,beside.active _ apart]
      exact held.unclosed other old known going
  · by_cases same : other = item
    · subst same
      rw [putSelf] at known
      obtain rfl := Option.some.inj known
      exact shut closed
    · rw [putOther same] at known
      rw [beside.active _ (differ other old known same)]
      exact held.shut other old known closed
  · rw [beside.seen] at unseen
    have apart : id ≠ item.itemId := fun same => unseen (same ▸ held.seen item listed)
    rw [beside.marks _ _ apart]
    exact held.fresh kind id unseen

-- An active item of the given kind and index has a stage, and the marks of that stage.
theorem stagedItem (kind : ItemType) {itemId : Text} {outputIndex : ℕ} {state : ItemState} (held : Simulates s a)
    (known : s.activeItems.lookup itemId = some state) (index : (indicesOf s kind).lookup itemId = some outputIndex) :
    ∃ stage, a.stage ⟨kind,itemId,outputIndex⟩ = some stage ∧ stage.isClosed = false ∧
      marks s kind itemId = stage.marks kind := by
  obtain ⟨stage,staged⟩ := Option.isSome_iff_exists.mp ((held.staged _).mpr (held.indexed kind itemId outputIndex index))
  have unclosed : stage.isClosed = false := by
    by_contra closed
    rw [held.shut _ _ staged (by simpa using closed)] at known
    cases known
  exact ⟨stage,staged,unclosed,(held.unclosed _ _ staged unclosed).1⟩

theorem followsMove (held : Simulates s a) (sequence : validIndex (payload.get (text "sequence_number")) = some n)
    (above : s.strictLastSequence.all (· < n) = true) (told : event = some (.on item act)) (going : act ≠ .opened)
    (staged : a.stage item = some stage) (next : stage.next item.kind act = some later)
    (running : item.kind = .functionCall → a.running = true) (moved : Simulates s' ({ a with last := some n }.put item later)) : Follows payload event a s' := by
  refine ⟨n,.on item act,_,sequence,told,?_,moved⟩
  have step : ({ a with last := some n } : StreamState).step (.on item act) =
      ({ a with last := some n } : StreamState).moves item act := by
    cases act with
    | opened => exact absurd rfl going
    | _ => rfl
  rw [held.last] at above
  simp only [StreamState.hear,above,if_true,step,StreamState.moves,staged,next,Option.bind_eq_bind,Option.bind_some]
  exact if_pos running

end Moves

section Means
variable {s s' : Validator} {u : Unit} {payload : Fields} {value : Document} {t itemId : Text} {outputIndex : ℕ} {kind : ItemType}

theorem boundedMeans {maxBytes : ℕ} (ok : (boundedUtf8 t maxBytes : Step Unit).Returns s u s') : s' = s := by
  simp only [boundedUtf8,utf8Length,require,returnsBind,returnsOrRaise,returnsRaiseIf] at ok
  obtain ⟨_,_,⟨-,rfl⟩,-,rfl⟩ := ok
  rfl

theorem textMeans {maxBytes : ℕ} (ok : (boundedText value maxBytes : Step Text).Returns s t s') : value.text? = some t ∧ s' = s := by
  simp only [boundedText,returnsBind,returnsOrRaise,returnsPure] at ok
  obtain ⟨_,_,⟨told,rfl⟩,_,_,bounded,rfl,rfl⟩ := ok
  exact ⟨told,boundedMeans bounded⟩

theorem nameMeans (ok : (boundedName value : Step Text).Returns s t s') : value.text? = some t ∧ s' = s := by
  simp only [boundedName,require,returnsBind,returnsOrRaise,returnsRaiseIf,returnsPure] at ok
  obtain ⟨_,_,⟨told,rfl⟩,_,_,⟨-,rfl⟩,_,_,bounded,rfl,rfl⟩ := ok
  exact ⟨told,boundedMeans bounded⟩

theorem outputPartMeans {logprobs : Document → Bool} (ok : (validateOutputTextPart value logprobs : Step Text).Returns s t s') :
    (value.fields.get (text "text")).text? = some t ∧ s' = s := by
  simp only [validateOutputTextPart,require,returnsBind,returnsOrRaise,returnsRaiseIf,returnsPure] at ok
  obtain ⟨fields,_,⟨mapping,rfl⟩,_,_,⟨-,rfl⟩,_,_,⟨-,rfl⟩,shown,_,told,_,_,⟨-,rfl⟩,_,_,⟨-,rfl⟩,rfl,rfl⟩ := ok
  rw [fieldsOfMapping mapping]
  exact textMeans told

theorem reasoningPartMeans {part : Fields} {expected : String} (mapping : value.mapping? = some part)
    (ok : (validateReasoningTextPart part expected : Step Text).Returns s t s') :
    (value.fields.get (text "text")).text? = some t ∧ s' = s := by
  simp only [validateReasoningTextPart,onlyFields,require,returnsBind,returnsRaiseIf] at ok
  obtain ⟨_,_,⟨-,rfl⟩,_,_,⟨-,rfl⟩,told⟩ := ok
  rw [fieldsOfMapping mapping]
  exact textMeans told

theorem sequenceMeans (ok : (acceptStrictSequence payload).Returns s u s') :
    ∃ n, validIndex (payload.get (text "sequence_number")) = some n ∧ s.strictLastSequence.all (· < n) = true ∧
      s' = { s with strictLastSequence := some n } := by
  simp only [acceptStrictSequence,requiredIndex,require,current,returnsBind,returnsOrRaise,returnsRaiseIf,returnsReading,
    returnsChange] at ok
  obtain ⟨n,_,⟨told,rfl⟩,_,_,⟨rfl,rfl⟩,_,_,⟨above,rfl⟩,rfl⟩ := ok
  exact ⟨n,told,not_not.mp above,rfl⟩

variable (kind) in
theorem pointedMeans (id : identifierOf (payload.get (text "item_id")) = some itemId)
    (index : validIndex (payload.get (text "output_index")) = some outputIndex) :
    pointedItem payload kind = some ⟨kind,itemId,outputIndex⟩ := by
  simp [pointedItem,(Option.filter_eq_some_iff.mp id).1,index]

end Means

section Messages
variable {s s' : Validator} {u : Unit} {a : StreamState} {payload : Fields} {eventType : Text}

theorem followsContentPart (held : Simulates s a) (ok : (validateCodexMessageContentPart payload eventType).Returns s u s') :
    Follows payload (heardPart payload .message (eventType = text "response.content_part.added")) a s' := by
  simp only [validateCodexMessageContentPart,onlyFields,requiredIdentifier,requiredIndex,require,current,returnsBind,
    returnsRaiseIf,returnsOrRaise,returnsReading,returnsIte] at ok
  obtain ⟨_,_,⟨-,rfl⟩,itemId,_,⟨id,rfl⟩,outputIndex,_,⟨index,rfl⟩,contentIndex,_,⟨-,rfl⟩,_,_,⟨-,rfl⟩,state,_,active,
    _,_,⟨rfl,rfl⟩,_,_,⟨here,rfl⟩,shown,_,part,_,_,sequence,ok⟩ := ok
  obtain ⟨known,kind,rfl⟩ := activeMeans active
  obtain ⟨told,rfl⟩ := outputPartMeans part
  obtain ⟨n,counted,above,rfl⟩ := sequenceMeans sequence
  obtain ⟨opened,rfl⟩ := not_not.mp here
  obtain ⟨stage,staged,unclosed,same⟩ := stagedItem .message held known opened
  have item := pointedMeans .message id index
  rcases ok with ⟨added,ok⟩ | ⟨ended,ok⟩
  · simp only [addMessagePart,require,current,returnsBind,returnsRaiseIf,returnsReading,returnsChange] at ok
    obtain ⟨_,_,⟨rfl,rfl⟩,_,_,⟨new,rfl⟩,_,_,⟨-,rfl⟩,rfl⟩ := ok
    have unadded : (stage.marks .message).added = false := by
      rw [← same]
      exact decide_eq_false (not_not.mp new).1
    obtain ⟨next,now⟩ := stagePartAdded _ unclosed (by decide) unadded
    refine followsMove held counted above (by simp [heardPart,item,added]) (by simp) staged next (by simp)
      (simulatesMoves held staged {} rfl (fun _ => ⟨?_,state,known,kind⟩) (by simp [Stage.isClosed]))
    rw [now,← same]
    simp [marks]
  · simp only [endMessagePart,require,current,returnsBind,returnsRaiseIf,returnsReading,returnsChange] at ok
    obtain ⟨_,_,⟨rfl,rfl⟩,_,_,⟨new,rfl⟩,_,_,⟨done,rfl⟩,_,_,⟨whole,rfl⟩,rfl⟩ := ok
    obtain ⟨later,next,going,now⟩ := stagePartDone (t := shown) .message unclosed (by decide)
      (by rw [← same]; exact decide_eq_true (not_not.mp done)) (by rw [← same]; exact decide_eq_false (not_not.mp new).2)
      (by rw [← same]; exact not_not.mp whole)
    refine followsMove held counted above (by simp [heardPart,item,ended,told]) (by simp) staged next (by simp)
      (simulatesMoves held staged {} rfl (fun _ => ⟨?_,state,known,kind⟩) (by simp [going]))
    rw [now,← same]
    simp [marks]

theorem followsMessageText (held : Simulates s a) (ok : (validateCodexMessageTextEvent payload eventType).Returns s u s') :
    Follows payload (heardText payload .message (eventType ≠ text "response.output_text.delta") "text") a s' := by
  simp only [validateCodexMessageTextEvent,onlyFields,requiredIdentifier,requiredIndex,require,current,returnsBind,
    returnsRaiseIf,returnsOrRaise,returnsReading,returnsIte] at ok
  obtain ⟨_,_,⟨-,rfl⟩,itemId,_,⟨id,rfl⟩,outputIndex,_,⟨index,rfl⟩,contentIndex,_,⟨-,rfl⟩,_,_,⟨-,rfl⟩,_,_,⟨-,rfl⟩,
    state,_,active,_,_,⟨rfl,rfl⟩,_,_,⟨opened,rfl⟩,_,_,⟨-,rfl⟩,_,_,sequence,_,_,⟨part,rfl⟩,ok⟩ := ok
  obtain ⟨known,kind,rfl⟩ := activeMeans active
  obtain ⟨n,counted,above,rfl⟩ := sequenceMeans sequence
  obtain ⟨stage,staged,unclosed,same⟩ := stagedItem .message held known (not_not.mp opened)
  have item := pointedMeans .message id index
  rcases ok with ⟨streamed,ok⟩ | ⟨ended,ok⟩
  · simp only [addMessageText,require,current,returnsBind,returnsRaiseIf,returnsReading,returnsChange] at ok
    obtain ⟨_,_,⟨rfl,rfl⟩,_,_,⟨new,rfl⟩,delta,_,shown,_,_,bounded,rfl⟩ := ok
    obtain ⟨told,rfl⟩ := textMeans shown
    obtain rfl := boundedMeans bounded
    obtain ⟨later,next,going,now⟩ := stageDelta (t := delta) .message unclosed
      (by rw [← same]; exact decide_eq_true (not_not.mp part)) (by rw [← same]; exact decide_eq_false (not_not.mp new).1)
    refine followsMove held counted above (by simp [heardText,item,streamed,told]) (by simp) staged next (by simp)
      (simulatesMoves held staged {} rfl (fun _ => ⟨?_,state,known,kind⟩) (by simp [going]))
    rw [now,← same]
    simp [marks,lookupPut]
  · simp only [endMessageText,require,current,returnsBind,returnsRaiseIf,returnsReading,returnsChange] at ok
    obtain ⟨_,_,⟨rfl,rfl⟩,_,_,⟨new,rfl⟩,whole,_,shown,_,_,⟨seen,rfl⟩,_,_,⟨all,rfl⟩,rfl⟩ := ok
    obtain ⟨told,rfl⟩ := textMeans shown
    obtain ⟨later,next,going,now⟩ := stageTextDone (t := whole) .message unclosed
      (by rw [← same]; exact decide_eq_true (not_not.mp seen)) (by rw [← same]; exact decide_eq_false (not_not.mp new).1)
      (by rw [← same]; exact not_not.mp all)
    refine followsMove held counted above (by simp [heardText,item,ended,told]) (by simp) staged next (by simp)
      (simulatesMoves held staged {} rfl (fun _ => ⟨?_,state,known,kind⟩) (by simp [going]))
    rw [now,← same]
    simp [marks]

end Messages

section Reasoning
variable {s s' : Validator} {u : Unit} {a : StreamState} {payload : Fields} {eventType : Text}

theorem followsReasoningPart (held : Simulates s a) (ok : (validateReasoningPartEvent payload eventType).Returns s u s') :
    Follows payload (heardPart payload .reasoning (eventType = text "response.reasoning_part.added")) a s' := by
  simp only [validateReasoningPartEvent,onlyFields,requiredIdentifier,requiredIndex,require,current,returnsBind,
    returnsRaiseIf,returnsOrRaise,returnsReading,returnsIte] at ok
  obtain ⟨_,_,⟨-,rfl⟩,itemId,_,⟨id,rfl⟩,outputIndex,_,⟨index,rfl⟩,contentIndex,_,⟨-,rfl⟩,_,_,sequence,state,_,active,
    _,_,⟨rfl,rfl⟩,_,_,⟨here,rfl⟩,part,_,⟨mapping,rfl⟩,shown,_,checked,ok⟩ := ok
  obtain ⟨known,kind,rfl⟩ := activeMeans active
  obtain ⟨told,rfl⟩ := reasoningPartMeans mapping checked
  obtain ⟨n,counted,above,rfl⟩ := sequenceMeans sequence
  obtain ⟨opened,rfl⟩ := not_not.mp here
  obtain ⟨stage,staged,unclosed,same⟩ := stagedItem .reasoning held known opened
  have item := pointedMeans .reasoning id index
  rcases ok with ⟨added,ok⟩ | ⟨ended,ok⟩
  · simp only [addReasoningPart,require,current,returnsBind,returnsRaiseIf,returnsReading,returnsChange] at ok
    obtain ⟨_,_,⟨rfl,rfl⟩,_,_,⟨new,rfl⟩,_,_,⟨-,rfl⟩,rfl⟩ := ok
    have unadded : (stage.marks .reasoning).added = false := by
      rw [← same]
      exact decide_eq_false (not_not.mp new).1
    obtain ⟨next,now⟩ := stagePartAdded _ unclosed (by decide) unadded
    refine followsMove held counted above (by simp [heardPart,item,added]) (by simp) staged next (by simp)
      (simulatesMoves held staged {} rfl (fun _ => ⟨?_,state,known,kind⟩) (by simp [Stage.isClosed]))
    rw [now,← same]
    simp [marks]
  · simp only [endReasoningPart,require,current,returnsBind,returnsRaiseIf,returnsReading,returnsChange] at ok
    obtain ⟨_,_,⟨rfl,rfl⟩,_,_,⟨new,rfl⟩,_,_,⟨done,rfl⟩,_,_,⟨whole,rfl⟩,rfl⟩ := ok
    obtain ⟨later,next,going,now⟩ := stagePartDone (t := shown) .reasoning unclosed (by decide)
      (by rw [← same]; exact decide_eq_true (not_not.mp done)) (by rw [← same]; exact decide_eq_false (not_not.mp new).2)
      (by rw [← same]; exact not_not.mp whole)
    refine followsMove held counted above (by simp [heardPart,item,ended,told]) (by simp) staged next (by simp)
      (simulatesMoves held staged {} rfl (fun _ => ⟨?_,state,known,kind⟩) (by simp [going]))
    rw [now,← same]
    simp [marks]

-- The content index is converted before it is read, and only the first part has text.
theorem contentIndexMeans {parseInt : Text → Option ℤ} {index : ℕ} {converted : ℤ}
    (read : toInt parseInt (payload.get? (text "content_index")) = some converted) (first : converted = 0)
    (valid : validIndex (payload.get (text "content_index")) = some index) : index = 0 := by
  unfold Fields.get at valid
  cases shown : payload.get? (text "content_index") with
  | none => rw [shown] at valid; cases valid
  | some value =>
    rw [shown] at read valid
    cases value with
    | int number =>
      obtain rfl := Option.some.inj read
      subst first
      exact (Option.some.inj valid).symm
    | _ => cases valid

theorem followsReasoningText {p : Profile} {parseInt : Text → Option ℤ} (content : isContentEvent eventType = true)
    (held : Simulates s a) (ok : (validateReasoningEvent p parseInt payload eventType true).Returns s u s') :
    Follows payload (heardText payload .reasoning (isTextEvent eventType) "text") a s' := by
  simp only [validateReasoningEvent,reasoningText,strictContentIndex,content,onlyFields,requiredIdentifier,requiredIndex,
    require,current,returnsBind,returnsRaiseIf,returnsOrRaise,returnsReading,returnsIte,if_true,Bool.not_true,
    Bool.and_false,Bool.false_and,or_true,true_implies] at ok
  obtain ⟨_,_,⟨-,rfl⟩,itemId,_,⟨id,rfl⟩,_,_,⟨shown,rfl⟩,_,_,sequence,state,_,active,_,_,⟨rfl,rfl⟩,_,_,⟨opened,rfl⟩,ok⟩ := ok
  obtain ⟨known,kind,rfl⟩ := activeMeans active
  obtain ⟨n,counted,above,rfl⟩ := sequenceMeans sequence
  obtain ⟨outputIndex,index⟩ := Option.isSome_iff_exists.mp (not_not.mp shown)
  rw [index] at opened
  obtain ⟨stage,staged,unclosed,same⟩ := stagedItem .reasoning held known (not_not.mp opened)
  have item := pointedMeans .reasoning id index
  rcases ok with ⟨summary,-⟩ | ⟨-,_,_,⟨converted,_,⟨read,rfl⟩,first,rfl⟩,position,_,⟨valid,rfl⟩,ok⟩
  · simp [summary,isContentEvent,among,textInj] at content
  obtain rfl := contentIndexMeans read (not_not.mp first) valid
  rcases ok with ⟨ended,whole,_,told,ok⟩ | ⟨streamed,delta,_,told,ok⟩
  · simp only [endReasoningText,require,current,returnsBind,returnsRaiseIf,returnsReading,returnsChange,if_true] at ok
    obtain ⟨said,rfl⟩ := textMeans told
    obtain ⟨_,_,⟨rfl,rfl⟩,_,_,⟨seen,rfl⟩,_,_,⟨new,rfl⟩,_,_,⟨all,rfl⟩,rfl⟩ := ok
    obtain ⟨later,next,going,now⟩ := stageTextDone (t := whole) .reasoning unclosed
      (by rw [← same]; exact decide_eq_true (not_not.mp seen).2) (by rw [← same]; exact decide_eq_false (not_not.mp new).1)
      (by rw [← same]; exact not_not.mp all)
    refine followsMove held counted above (by simp [heardText,item,ended,said]) (by simp) staged next (by simp)
      (simulatesMoves held staged {} rfl (fun _ => ⟨?_,state,known,kind⟩) (by simp [going]))
    rw [now,← same]
    simp [marks]
  · simp only [addReasoningText,require,current,returnsBind,returnsRaiseIf,returnsReading,returnsChange,if_true] at ok
    obtain ⟨said,rfl⟩ := textMeans told
    obtain ⟨_,_,⟨rfl,rfl⟩,_,_,⟨part,rfl⟩,_,_,bounded,rfl⟩ := ok
    obtain rfl := boundedMeans bounded
    obtain ⟨added,new,-⟩ := not_not.mp part trivial
    obtain ⟨later,next,going,now⟩ := stageDelta (t := delta) .reasoning unclosed
      (by rw [← same]; exact decide_eq_true added) (by rw [← same]; exact decide_eq_false new)
    refine followsMove held counted above (by simp [heardText,item,streamed,said]) (by simp) staged next (by simp)
      (simulatesMoves held staged {} rfl (fun _ => ⟨?_,state,known,kind⟩) (by simp [going]))
    rw [now,← same]
    simp [marks,lookupPut]

end Reasoning

section Functions
variable {p : Profile} {s s' : Validator} {u : Unit} {a : StreamState} {payload : Fields} {eventType : Text}

theorem runningOf (held : Simulates s a) (started : s.strictResponseId.isSome = true)
    (going : s.strictResponseCompleted = false) : a.running = true := by
  rw [held.response] at started
  rw [held.completed] at going
  simp [StreamState.running,started,going]

theorem followsArgumentsDelta (held : Simulates s a) (running : a.running = true)
    (ok : (functionArgumentsDelta payload).Returns s u s') :
    Follows payload (heardText payload .functionCall false "arguments") a s' := by
  simp only [functionArgumentsDelta,tellingFunction,onlyFields,requiredIdentifier,requiredIndex,require,current,
    returnsBind,returnsRaiseIf,returnsReading,returnsOrRaise,returnsPure,returnsChange] at ok
  obtain ⟨_,_,⟨-,rfl⟩,itemId,_,⟨id,rfl⟩,outputIndex,_,⟨index,rfl⟩,state,_,telling,delta,_,⟨told,rfl⟩,_,_,⟨-,rfl⟩,
    _,_,small,_,_,bounded,_,_,sequence,rfl⟩ := ok
  obtain ⟨before,_,active,_,_,⟨rfl,rfl⟩,_,_,⟨opened,rfl⟩,_,_,⟨new,rfl⟩,rfl,rfl⟩ := telling
  obtain ⟨known,kind,rfl⟩ := activeMeans active
  obtain rfl := boundedMeans small
  obtain rfl := boundedMeans bounded
  obtain ⟨n,counted,above,rfl⟩ := sequenceMeans sequence
  obtain ⟨stage,staged,unclosed,same⟩ := stagedItem .functionCall held known (not_not.mp opened)
  have item := pointedMeans .functionCall id index
  obtain ⟨later,next,going,now⟩ := stageDelta (t := delta) .functionCall unclosed
    (by rw [← same]; rfl) (by rw [← same]; exact decide_eq_false (not_not.mp new).1)
  refine followsMove held counted above (by simp [heardText,item,told]) (by simp) staged next (fun _ => running)
    (simulatesMoves held staged { active := fun id other => by simp [lookupPut,other] } rfl
      (fun _ => ⟨?_,{ before with deltaText := before.deltaText ++ delta },by simp [lookupPut],kind⟩) (by simp [going]))
  rw [now,← same]
  simp [marks,lookupPut,known]

theorem followsArgumentsDone (held : Simulates s a) (running : a.running = true)
    (ok : (functionArgumentsDone payload).Returns s u s') :
    Follows payload (heardText payload .functionCall true "arguments") a s' := by
  simp only [functionArgumentsDone,onlyFields,requiredIdentifier,requiredIndex,require,current,
    returnsBind,returnsRaiseIf,returnsReading,returnsOrRaise,returnsChange] at ok
  obtain ⟨_,_,⟨-,rfl⟩,itemId,_,⟨id,rfl⟩,outputIndex,_,⟨index,rfl⟩,name,_,named,arguments,_,told,state,_,active,
    _,_,⟨rfl,rfl⟩,_,_,⟨opened,rfl⟩,_,_,⟨new,rfl⟩,_,_,⟨all,rfl⟩,_,_,sequence,rfl⟩ := ok
  obtain ⟨-,rfl⟩ := nameMeans named
  obtain ⟨said,rfl⟩ := textMeans told
  obtain ⟨known,kind,rfl⟩ := activeMeans active
  obtain ⟨n,counted,above,rfl⟩ := sequenceMeans sequence
  obtain ⟨stage,staged,unclosed,same⟩ := stagedItem .functionCall held known (not_not.mp opened).1
  have item := pointedMeans .functionCall id index
  obtain ⟨later,next,going,now⟩ := stageTextDone (t := arguments) .functionCall unclosed
    (by rw [← same]; exact decide_eq_true (not_not.mp new).2.2) (by rw [← same]; exact decide_eq_false (not_not.mp new).1)
    (by rw [← same]; simpa [marks,known] using not_not.mp all)
  refine followsMove held counted above (by simp [heardText,item,said]) (by simp) staged next (fun _ => running)
    (simulatesMoves held staged {} rfl (fun _ => ⟨?_,state,known,kind⟩) (by simp [going]))
  rw [now,← same]
  simp [marks]

end Functions

section Opening
variable {s s' : Validator} {a : StreamState} {item : Streamed} {state : ItemState} {n : ℕ} {payload : Fields}
  {event : Option StreamEvent}

structure Opening (s s' : Validator) (item : Streamed) (state : ItemState) : Prop where
  response : s'.strictResponseId = s.strictResponseId := by rfl
  completed : s'.strictResponseCompleted = s.strictResponseCompleted := by rfl
  count : s'.codexOutputItemsStarted = s.codexOutputItemsStarted + 1 := by rfl
  seen : s'.seenItemIds = item.itemId :: s.seenItemIds := by rfl
  active : s'.activeItems = s.activeItems.put item.itemId state := by rfl
  indices : ∀ kind, indicesOf s' kind =
      if kind = item.kind then (indicesOf s kind).put item.itemId item.outputIndex else indicesOf s kind := by
    intro kind
    cases kind <;> rfl
  marks : ∀ kind id, id ≠ item.itemId → marks s' kind id = marks s kind id := by
    intro kind id other
    cases kind <;> simp [Responses.marks,lookupPut,other]

variable (state) in
theorem simulatesOpens (held : Simulates s a) (new : item.itemId ∉ s.seenItemIds) (opening : Opening s s' item state)
    (kind : state.itemType = item.kind) (unmarked : marks s' item.kind item.itemId = {}) (last : s'.strictLastSequence = some n) :
    Simulates s' ({ a with last := some n, items := a.items ++ [item] }.put item .opened) := by
  have apart : ∀ other ∈ a.items, other.itemId ≠ item.itemId := fun other known same => new (same ▸ held.seen other known)
  have differ : ∀ other stage, a.stage other = some stage → other ≠ item := by
    intro other stage known same
    exact apart other ((held.staged other).mp (known ▸ rfl)) (congrArg Streamed.itemId same)
  refine {
    last := last
    response := opening.response.trans held.response
    completed := opening.completed.trans held.completed
    count := by rw [opening.count,held.count,putItems,List.length_append]; rfl
    seen := List.forall_mem_append.mpr ⟨fun other known => ?_,?_⟩
    functions := fun none => List.forall_mem_append.mpr ⟨?_,?_⟩
    indexed := fun kind id index known => ?_
    distinct := ?_
    staged := fun other => ?_
    unclosed := fun other stage known going => ?_
    shut := fun other stage known closed => ?_
    fresh := fun kind id unseen => ?_
    some := fun _ => by simp }
  · rw [opening.seen]
    exact List.mem_cons_of_mem _ (held.seen other known)
  · simp [opening.seen]
  · have calls := (opening.indices .functionCall).symm.trans none
    split at calls
    · cases calls
    · exact held.functions calls
  · have calls := (opening.indices .functionCall).symm.trans none
    split at calls
    · cases calls
    · next other => simpa using Ne.symm other
  · rw [opening.indices] at known
    split at known
    · next same =>
      rw [lookupPut] at known
      split at known
      · next here =>
        obtain rfl := Option.some.inj known
        exact List.mem_append_right _ (by rw [same,here]; exact List.mem_cons_self)
      · exact List.mem_append_left _ (held.indexed kind id index known)
    · exact List.mem_append_left _ (held.indexed kind id index known)
  · rw [putItems,List.map_append,List.map_singleton]
    refine List.nodup_append.mpr ⟨held.distinct,List.nodup_singleton _,fun id listed other one => ?_⟩
    obtain ⟨old,known,rfl⟩ := List.mem_map.mp listed
    exact List.mem_singleton.mp one ▸ apart old known
  · by_cases same : other = item
    · simp [same]
    · rw [putOther same,putItems,List.mem_append,List.mem_singleton,or_iff_left same]
      exact held.staged other
  · by_cases same : other = item
    · subst same
      rw [putSelf] at known
      obtain rfl := Option.some.inj known
      exact ⟨unmarked,state,by rw [opening.active,lookupPut,if_pos rfl],kind⟩
    · rw [putOther same] at known
      have other := apart other ((held.staged other).mp (known ▸ rfl))
      rw [opening.marks _ _ other,opening.active,lookupPut,if_neg other]
      exact held.unclosed _ stage known going
  · by_cases same : other = item
    · subst same
      rw [putSelf] at known
      obtain rfl := Option.some.inj known
      cases closed
    · rw [putOther same] at known
      have other := apart other ((held.staged other).mp (known ▸ rfl))
      rw [opening.active,lookupPut,if_neg other]
      exact held.shut _ stage known closed
  · rw [opening.seen,List.mem_cons,not_or] at unseen
    rw [opening.marks _ _ unseen.1]
    exact held.fresh kind id unseen.2

variable (item) in
theorem followsOpens (held : Simulates s a) (sequence : validIndex (payload.get (text "sequence_number")) = some n)
    (above : s.strictLastSequence.all (· < n) = true) (told : event = some (.on item .opened)) (new : item.itemId ∉ s.seenItemIds)
    (room : s.codexOutputItemsStarted < maxResponseOutputItems)
    (call : item.kind = .functionCall → a.running = true ∧ s.functionOutputIndices = [])
    (opened : Simulates s' ({ a with last := some n, items := a.items ++ [item] }.put item .opened)) :
    Follows payload event a s' := by
  refine ⟨n,.on item .opened,_,sequence,told,?_,opened⟩
  rw [held.last] at above
  simp only [StreamState.hear,above,if_true,StreamState.step,StreamState.opens]
  refine if_pos ⟨fun listed => ?_,held.count ▸ room,fun function => ⟨(call function).1,held.functions (call function).2⟩⟩
  obtain ⟨old,known,same⟩ := List.mem_map.mp listed
  exact new (same ▸ held.seen old known)

end Opening

section Items
variable {p : Profile} {s s' : Validator} {u : Unit} {a : StreamState} {payload : Fields} {eventType : Text}

theorem reasoningContent {content : Document} {expected : Text} (shown : isReasoningContent content expected = true) :
    contentText content = some expected := by
  unfold isReasoningContent at shown
  split at shown
  · simp only [Bool.and_eq_true,decide_eq_true_eq] at shown
    exact shown.2
  · cases shown

theorem messageContent {content : Document} {expected : Text} (shown : isMessageContent content expected = true) :
    contentText content = some expected := by
  unfold isMessageContent at shown
  split at shown
  · simp only [Bool.and_eq_true,decide_eq_true_eq] at shown
    exact shown.1.1.2
  · cases shown

theorem followsReasoningItem (held : Simulates s a) (ok : (validateCodexReasoningOutputItem payload eventType).Returns s u s') :
    Follows payload (heardItem payload eventType) a s' := by
  simp only [validateCodexReasoningOutputItem,onlyFields,requiredIdentifier,requiredIndex,require,returnsBind,
    returnsRaiseIf,returnsOrRaise,returnsIte] at ok
  obtain ⟨_,_,⟨-,rfl⟩,outputIndex,_,⟨index,rfl⟩,_,_,⟨-,rfl⟩,item,_,⟨mapping,rfl⟩,_,_,⟨-,rfl⟩,itemId,_,⟨id,rfl⟩,
    _,_,⟨named,rfl⟩,_,_,⟨-,rfl⟩,_,_,sequence,ok⟩ := ok
  obtain ⟨n,counted,above,rfl⟩ := sequenceMeans sequence
  have kind : itemKind item = some .reasoning := if_pos (not_not.mp named).1
  have streamed := streamedMeans mapping kind id index
  rcases ok with ⟨done,ok⟩ | ⟨undone,ok⟩
  · simp only [closeReasoningItem,require,current,returnsBind,returnsRaiseIf,returnsReading,returnsChange] at ok
    obtain ⟨_,_,⟨rfl,rfl⟩,_,_,⟨-,rfl⟩,_,_,⟨opened,rfl⟩,_,_,⟨shown,rfl⟩,_,_,⟨active,rfl⟩,_,_,⟨content,rfl⟩,rfl⟩ := ok
    obtain ⟨state,known⟩ := Option.isSome_iff_exists.mp (not_not.mp active)
    obtain ⟨stage,staged,unclosed,same⟩ := stagedItem .reasoning held known (not_not.mp opened)
    have whole := reasoningContent (not_not.mp content)
    have next := stageClosed (t := (marks s .reasoning itemId).text) .reasoning unclosed (by decide)
      (by rw [← same]; exact decide_eq_true (not_not.mp shown)) (by rw [← same])
    refine followsMove held counted above ?_ (by simp) staged next (by simp)
      (simulatesMoves held staged { active := fun id other => by simp [lookupDrop,other] } rfl (by simp [Stage.isClosed])
        (by simp [lookupDrop]))
    simp [heardItem,streamed,done,closedText,fieldsOfMapping mapping,whole,marks]
  · simp only [openReasoningItem,require,current,returnsBind,returnsRaiseIf,returnsReading,returnsChange] at ok
    obtain ⟨_,_,⟨-,rfl⟩,_,_,⟨-,rfl⟩,_,_,⟨rfl,rfl⟩,_,_,⟨new,rfl⟩,rfl⟩ := ok
    obtain ⟨unseen,-,room⟩ := not_not.mp new
    exact followsOpens ⟨.reasoning,itemId,outputIndex⟩ held counted above (by simp [heardItem,streamed,undone])
      unseen room (by simp) (simulatesOpens { itemType := .reasoning } held unseen {} rfl
        (held.fresh .reasoning itemId unseen) rfl)

theorem followsMessageItem (held : Simulates s a) (ok : (validateCodexMessageOutputItem payload eventType).Returns s u s') :
    Follows payload (heardItem payload eventType) a s' := by
  simp only [validateCodexMessageOutputItem,onlyFields,requiredIdentifier,requiredIndex,require,returnsBind,
    returnsRaiseIf,returnsOrRaise,returnsIte] at ok
  obtain ⟨_,_,⟨-,rfl⟩,outputIndex,_,⟨index,rfl⟩,_,_,⟨-,rfl⟩,item,_,⟨mapping,rfl⟩,_,_,⟨-,rfl⟩,itemId,_,⟨id,rfl⟩,
    _,_,⟨named,rfl⟩,_,_,sequence,ok⟩ := ok
  obtain ⟨n,counted,above,rfl⟩ := sequenceMeans sequence
  have streamed := streamedMeans mapping (kindMessage (not_not.mp named).1) id index
  rcases ok with ⟨done,ok⟩ | ⟨undone,ok⟩
  · simp only [closeMessageItem,require,current,returnsBind,returnsRaiseIf,returnsReading,returnsChange] at ok
    obtain ⟨_,_,⟨rfl,rfl⟩,_,_,⟨-,rfl⟩,_,_,⟨opened,rfl⟩,_,_,⟨active,rfl⟩,_,_,⟨shown,rfl⟩,_,_,⟨content,rfl⟩,rfl⟩ := ok
    obtain ⟨state,known⟩ := Option.isSome_iff_exists.mp (not_not.mp active)
    obtain ⟨stage,staged,unclosed,same⟩ := stagedItem .message held known (not_not.mp opened)
    have whole := messageContent (not_not.mp content)
    have next := stageClosed (t := (marks s .message itemId).text) .message unclosed (by decide)
      (by rw [← same]; exact decide_eq_true (not_not.mp shown)) (by rw [← same])
    refine followsMove held counted above ?_ (by simp) staged next (by simp)
      (simulatesMoves held staged { active := fun id other => by simp [lookupDrop,other] } rfl (by simp [Stage.isClosed])
        (by simp [lookupDrop]))
    simp [heardItem,streamed,done,closedText,fieldsOfMapping mapping,whole,marks]
  · simp only [openMessageItem,require,current,returnsBind,returnsRaiseIf,returnsReading,returnsChange] at ok
    obtain ⟨_,_,⟨-,rfl⟩,_,_,⟨-,rfl⟩,_,_,⟨rfl,rfl⟩,_,_,⟨new,rfl⟩,rfl⟩ := ok
    obtain ⟨unseen,-,room⟩ := not_not.mp new
    exact followsOpens ⟨.message,itemId,outputIndex⟩ held counted above (by simp [heardItem,streamed,undone])
      unseen room (by simp) (simulatesOpens { itemType := .message } held unseen {} rfl
        (held.fresh .message itemId unseen) rfl)

theorem captureMeans {itemId : Text} {state : ItemState} (ok : (captureReplayCandidate p itemId state).Returns s u s') :
    ∃ candidates, s' = { s with replayReferenceCandidates := candidates } := by
  simp only [captureReplayCandidate,returnsIte,returnsPure,returnsChange] at ok
  rcases ok with ⟨-,-,rfl⟩ | ⟨-,rfl⟩
  · exact ⟨s.replayReferenceCandidates,rfl⟩
  · exact ⟨_,rfl⟩

theorem functionItemSame {item : Fields} {f : FunctionItem} (ok : (functionItem item).Returns s f s') : s' = s := by
  simp only [functionItem,requiredIdentifier,require,returnsBind,returnsRaiseIf,returnsOrRaise,returnsPure] at ok
  obtain ⟨_,_,⟨-,rfl⟩,_,_,⟨-,rfl⟩,_,_,⟨-,rfl⟩,_,_,named,_,_,⟨-,rfl⟩,_,_,told,-,rfl⟩ := ok
  exact (textMeans told).2.trans (nameMeans named).2

-- The arguments of a function call that is closed are those told, or there are none and none were told.
theorem stageCalled {stage : Stage} {t : Text} (unclosed : stage.isClosed = false)
    (part : (stage.marks .functionCall).added = false) (shown : (stage.marks .functionCall).shown = false)
    (whole : (stage.marks .functionCall).done = true ∧ t = (stage.marks .functionCall).text ∨
      (stage.marks .functionCall).seen = false ∧ t = []) : stage.next .functionCall (.closed t) = some (.closed t) := by
  cases stage <;> simp_all [Stage.marks,Stage.next,Stage.isClosed]

theorem followsFunctionItem (held : Simulates s a) (running : a.running = true)
    (ok : (validateCodexFunctionOutputItem p payload eventType).Returns s u s') :
    Follows payload (heardItem payload eventType) a s' := by
  simp only [validateCodexFunctionOutputItem,onlyFields,requiredIndex,require,returnsBind,returnsRaiseIf,returnsOrRaise,
    returnsIte] at ok
  obtain ⟨_,_,⟨-,rfl⟩,outputIndex,_,⟨index,rfl⟩,_,_,⟨-,rfl⟩,item,_,⟨mapping,rfl⟩,f,_,function,_,_,sequence,ok⟩ := ok
  obtain ⟨id,-,kinds,arguments,-⟩ := functionItemMeans function
  obtain rfl := functionItemSame function
  obtain ⟨n,counted,above,rfl⟩ := sequenceMeans sequence
  have streamed := streamedMeans mapping (kindFunction kinds) id index
  rcases ok with ⟨done,ok⟩ | ⟨undone,ok⟩
  · simp only [closeFunctionItem,require,current,returnsBind,returnsRaiseIf,returnsReading,returnsChange] at ok
    obtain ⟨_,_,⟨-,rfl⟩,state,_,active,_,_,⟨rfl,rfl⟩,_,_,⟨opened,rfl⟩,_,_,⟨-,rfl⟩,_,_,⟨completed,rfl⟩,_,_,rfl,captured⟩ := ok
    obtain ⟨known,-,rfl⟩ := activeMeans active
    obtain ⟨candidates,rfl⟩ := captureMeans captured
    obtain ⟨stage,staged,unclosed,same⟩ := stagedItem .functionCall held known (not_not.mp opened)
    have whole : (stage.marks .functionCall).done = true ∧ f.arguments = (stage.marks .functionCall).text ∨
        (stage.marks .functionCall).seen = false ∧ f.arguments = [] := by
      rw [← same]
      rcases Bool.or_eq_true_iff.mp (not_not.mp completed) with omitted | ordinary
      · obtain ⟨-,unseen,-,empty⟩ := of_decide_eq_true omitted
        exact .inr ⟨decide_eq_false unseen,empty⟩
      · obtain ⟨told,all⟩ := of_decide_eq_true ordinary
        exact .inl ⟨decide_eq_true told,by simpa [marks,known] using all⟩
    have next := stageCalled unclosed (by rw [← same]; rfl) (by rw [← same]; rfl) whole
    refine followsMove held counted above ?_ (by simp) staged next (fun _ => running)
      (simulatesMoves held staged { active := fun id other => by simp [lookupDrop,other] } rfl (by simp [Stage.isClosed])
        (by simp [lookupDrop]))
    simp [heardItem,streamed,done,closedText,fieldsOfMapping mapping,arguments]
  · simp only [openFunctionItem,require,current,returnsBind,returnsRaiseIf,returnsReading,returnsChange] at ok
    obtain ⟨_,_,⟨rfl,rfl⟩,_,_,⟨-,rfl⟩,_,_,⟨new,rfl⟩,_,_,⟨room,rfl⟩,_,_,⟨-,rfl⟩,rfl⟩ := ok
    obtain ⟨unseen,-,single⟩ := not_not.mp new
    have unmarked := held.fresh .functionCall f.itemId unseen
    simp only [marks,Marks.mk.injEq,true_and] at unmarked
    refine followsOpens ⟨.functionCall,f.itemId,outputIndex⟩ held counted above (by simp [heardItem,streamed,undone])
      unseen (not_not.mp room) (fun _ => ⟨running,single⟩) (simulatesOpens _ held unseen {} rfl ?_ rfl)
    simp [marks,lookupPut,unmarked.1,unmarked.2.1]

end Items

section Still
variable {α β : Type} {payload fields : Fields} {value : Document} {eventType : Text}

-- A check that leaves the state as it is.
def Still (x : Step α) : Prop := ∀ s a s', x.Returns s a s' → s' = s

theorem stillBind {x : Step α} {f : α → Step β} (first : Still x) (next : ∀ a, Still (f a)) : Still (x >>= f) := by
  intro s b s' ok
  obtain ⟨a,middle,here,later⟩ := returnsBind.mp ok
  exact (next a _ _ _ later).trans (first _ _ _ here)

theorem stillPure {a : α} : Still (pure a : Step α) := fun _ _ _ ok => (returnsPure.mp ok).2.symm

theorem stillOr {o : Option α} {e : Refusal} : Still (orRaise o e) := fun _ _ _ ok => (returnsOrRaise.mp ok).2.symm

theorem stillRequire {c : Prop} {_ : Decidable c} : Still (require c) := fun _ _ _ ok => (returnsRaiseIf.mp ok).2.symm

theorem stillThrow {e : Refusal} : Still (throw e : Step α) := fun _ _ _ ok => absurd ok returnsThrow

theorem stillCurrent : Still current := fun _ _ _ ok => (returnsReading.mp ok).2.symm

theorem stillIte {c : Prop} {_ : Decidable c} {x y : Step α} (yes : Still x) (no : Still y) : Still (if c then x else y) := by
  split
  · exact yes
  · exact no

theorem stillText {maxBytes : ℕ} : Still (boundedText value maxBytes) := fun _ _ _ ok => (textMeans ok).2

theorem stillName : Still (boundedName value) := fun _ _ _ ok => (nameMeans ok).2

theorem stillOneOf {names : List String} : Still (oneOf value names) := by
  cases value with
  | str t => exact stillRequire
  | _ => exact stillThrow

theorem stillStatus {names : List String} : Still (absentOrOneOf value names) := stillIte stillPure stillOneOf

theorem stillOptionalIndex {name : String} : Still (optionalIndex fields name) :=
  stillIte (stillBind stillOr fun _ => stillPure) stillPure

theorem stillProgress : Still (validateResponseProgressEvent payload) := by
  refine stillBind stillRequire fun _ => stillBind stillOptionalIndex fun _ => stillBind stillOr fun _ => ?_
  refine stillBind stillOr fun _ => stillBind stillRequire fun _ => stillBind stillStatus fun _ => ?_
  exact stillBind stillRequire fun _ => stillIte stillPure (stillBind stillName fun _ => stillPure)

theorem stillEnvelope : Still (validateResponseEnvelope fields) :=
  stillBind stillRequire fun _ => stillBind stillRequire fun _ => stillBind stillOr fun _ => stillRequire

theorem stillUsage : Still (validateCompletedUsage fields) := by
  refine stillBind stillRequire fun _ => stillBind stillOr fun _ => stillBind stillOr fun _ => stillBind stillOr fun _ => ?_
  refine stillBind stillOr fun _ => stillBind stillRequire fun _ => stillBind stillRequire fun _ => ?_
  refine stillBind stillRequire fun _ => stillBind stillOr fun _ => stillBind stillRequire fun _ => ?_
  exact stillBind stillRequire fun _ => stillBind stillRequire fun _ => stillBind stillRequire fun _ => stillRequire

theorem stillSumParts {check : Document → Step ℕ} (each : ∀ part, Still (check part)) {parts : List Document} :
    Still (sumParts check parts) := by
  induction parts with
  | nil => exact stillPure
  | cons part rest ih => exact stillBind (each part) fun _ => stillBind ih fun _ => stillPure

theorem stillList : Still (boundedList value) := stillBind stillOr fun _ => stillBind stillRequire fun _ => stillPure

theorem stillOutputItem {p : Profile} : Still (validateCodexCompletedOutputItem p value) := by
  refine stillBind stillOr fun _ => stillBind stillOr fun _ => stillIte ?_ (stillIte ?_ ?_)
  · refine stillBind stillRequire fun _ => stillBind stillRequire fun _ => stillBind stillList fun _ => ?_
    refine stillSumParts fun _ => stillBind stillOr fun _ => stillBind stillRequire fun _ => ?_
    exact stillBind stillRequire fun _ => stillBind stillText fun _ => stillOr
  · refine stillBind stillRequire fun _ => stillBind stillRequire fun _ => stillBind stillRequire fun _ => ?_
    refine stillBind stillName fun _ => stillBind stillOr fun _ => stillBind stillText fun _ => ?_
    exact stillBind stillCurrent fun _ => stillBind stillRequire fun _ => stillOr
  · refine stillBind stillRequire fun _ => stillBind stillRequire fun _ => stillBind stillList fun _ => ?_
    refine stillBind stillRequire fun _ => stillSumParts fun _ => stillBind ?_ fun _ => stillOr
    exact fun _ _ _ ok => (outputPartMeans ok).2

theorem stillOutput {p : Profile} : Still (validateCodexCompletedOutput p value) := by
  have items : ∀ items total, Still (completedOutputItems p total items) := by
    intro items
    induction items with
    | nil => exact fun _ => stillPure
    | cons item rest ih => exact fun _ => stillBind stillOutputItem fun _ => stillBind stillRequire fun _ => ih _
  exact stillBind stillOr fun _ => stillBind stillRequire fun _ => items _ _

end Still

section Responses
variable {p : Profile} {s s' : Validator} {u : Unit} {a : StreamState} {payload : Fields} {eventType : Text} {n : ℕ}

theorem followsResponse {e : StreamEvent} {b : StreamState} (held : Simulates s a)
    (sequence : validIndex (payload.get (text "sequence_number")) = some n)
    (above : s.strictLastSequence.all (· < n) = true) (told : heardResponse payload eventType = some e)
    (taken : ({ a with last := some n } : StreamState).step e = some b) (left : Simulates s' b) :
    Follows payload (heardResponse payload eventType) a s' := by
  rw [held.last] at above
  exact ⟨n,e,b,sequence,told,by simp only [StreamState.hear,above,if_true,taken],left⟩

theorem followsProgress (open_ : eventType ≠ text "response.completed") (held : Simulates s a)
    (ok : (progressResponse payload eventType).Returns s u s') : Follows payload (heardResponse payload eventType) a s' := by
  simp only [progressResponse,requiredIndex,require,startResponse,current,returnsBind,returnsOrRaise,returnsRaiseIf,
    returnsReading,returnsIte,returnsChange] at ok
  obtain ⟨id,_,progress,_,_,⟨-,rfl⟩,_,_,envelope,_,_,⟨-,rfl⟩,_,_,⟨-,rfl⟩,_,_,start,sequence⟩ := ok
  have told := progressMeans progress
  obtain rfl := stillProgress _ _ _ progress
  obtain rfl := stillEnvelope _ _ _ envelope
  obtain ⟨n,counted,above,rfl⟩ := sequenceMeans sequence
  obtain ⟨_,_,⟨rfl,rfl⟩,⟨created,_,_,⟨unset,rfl⟩,_,_,status,rfl⟩ | ⟨going,same,rfl⟩⟩ := start
  · obtain rfl := stillOneOf _ _ _ status
    have unset : a.response = none := held.response.symm.trans (Option.isNone_iff_eq_none.mp (not_not.mp unset))
    have event : heardResponse payload eventType = some (.created id) := by
      rw [heardResponse,told]
      exact (if_neg open_).trans (if_pos created)
    exact followsResponse (b := { a with last := some n, response := some id }) held counted above event
      (by simp [StreamState.step,unset]) { held with last := rfl, response := rfl }
  · have event : heardResponse payload eventType = some (.inProgress id) := by
      rw [heardResponse,told]
      exact (if_neg open_).trans (if_neg going)
    exact followsResponse (b := { a with last := some n }) held counted above event
      (if_pos (held.response.symm.trans (not_not.mp same).1)) { held with last := rfl }

theorem followsCompleted (held : Simulates s a) (ok : (completeResponse p payload).Returns s u s') :
    Follows payload (heardResponse payload (text "response.completed")) a s' := by
  simp only [completeResponse,requiredIndex,require,current,returnsBind,returnsOrRaise,returnsRaiseIf,returnsReading,
    returnsChange] at ok
  obtain ⟨response,_,completed,_,_,⟨-,rfl⟩,_,_,⟨rfl,rfl⟩,_,_,⟨ready,rfl⟩,_,_,⟨idle,rfl⟩,_,_,envelope,usage,_,⟨-,rfl⟩,
    _,_,usages,_,_,output,_,_,sequence,rfl⟩ := ok
  have shown := completedMeans completed
  have same := (stillBind stillOr fun _ => stillBind stillRequire fun _ => stillBind stillStatus fun _ => stillPure :
    Still (validateResponseCompletedEvent payload)) _ _ _ completed
  subst same
  obtain rfl := stillEnvelope _ _ _ envelope
  obtain rfl := stillUsage _ _ _ usages
  obtain rfl := stillOutput _ _ _ output
  obtain ⟨n,counted,above,rfl⟩ := sequenceMeans sequence
  obtain ⟨started,sameId,-,going⟩ := not_not.mp ready
  obtain ⟨empty,done⟩ := not_not.mp idle
  obtain ⟨id,created⟩ := Option.isSome_iff_exists.mp started
  have told : ((payload.get (text "response")).fields.get (text "id")).text? = some id := by
    rw [shown]
    exact sameId.trans created
  have closed : ∀ item ∈ a.items, (a.stage item).any Stage.isClosed = true := by
    intro item listed
    obtain ⟨stage,staged⟩ := Option.isSome_iff_exists.mp ((held.staged item).mpr listed)
    rw [staged,Option.any_some]
    by_contra unclosed
    obtain ⟨-,state,active,-⟩ := held.unclosed item stage staged (by simpa using unclosed)
    cases active.symm.trans (congrArg (List.lookup item.itemId) empty)
  have event : heardResponse payload (text "response.completed") = some (.completed id) := by
    simp [heardResponse,told]
  exact followsResponse (b := { a with last := some n, completed := true }) held counted above event
    (if_pos ⟨held.response.symm.trans created,held.completed.symm.trans going,held.some done,closed⟩)
    { held with last := rfl, completed := rfl }

end Responses

section Dispatch
variable {p : Profile} {parseInt : Text → Option ℤ} {s s' : Validator} {u : Unit} {a : StreamState} {payload : Fields}
  {eventType : Text}

def otherEvents : List String :=
  outputItemEvents ++ ["response.reasoning_part.added","response.reasoning_part.done","response.reasoning_text.delta",
    "response.reasoning_text.done","response.content_part.added","response.content_part.done","response.output_text.delta",
    "response.output_text.done","response.created","response.in_progress","response.completed"]

theorem amongMeans {names : List String} : among eventType names = true ↔ ∃ name ∈ names, text name = eventType := by
  simp [among]

theorem argumentsApart (sent : among eventType argumentEvents = true) : ¬among eventType otherEvents = true := by
  intro found
  obtain ⟨name,listed,rfl⟩ := amongMeans.mp sent
  obtain ⟨other,among,same⟩ := amongMeans.mp found
  obtain rfl := textInj.mp same
  have apart : ∀ name ∈ argumentEvents, name ∉ otherEvents := by simp [argumentEvents,otherEvents,outputItemEvents]
  exact apart _ listed among

theorem streamArguments (sent : among eventType argumentEvents = true) : streamEvent payload eventType =
    heardText payload .functionCall (eventType ≠ text "response.function_call_arguments.delta") "arguments" := by
  have apart : ∀ names, names ⊆ otherEvents → ¬among eventType names = true := by
    intro names part found
    obtain ⟨name,listed,same⟩ := amongMeans.mp found
    exact argumentsApart sent (amongMeans.mpr ⟨name,part listed,same⟩)
  unfold streamEvent isContentEvent
  rw [if_neg (apart _ (by simp [otherEvents])),if_neg (apart _ (by simp [otherEvents])),
    if_neg (apart _ (by simp [otherEvents])),if_neg (apart _ (by simp [otherEvents])),
    if_neg (apart _ (by simp [otherEvents])),if_neg (apart _ (by simp [otherEvents])),if_pos sent]

theorem followsFunction (called : (functionItemEvent payload eventType || among eventType argumentEvents) = true)
    (held : Simulates s a) (ok : (validateCodexFunctionEvent p payload eventType).Returns s u s') :
    Follows payload (streamEvent payload eventType) a s' := by
  simp only [validateCodexFunctionEvent,require,current,returnsBind,returnsReading,returnsRaiseIf,returnsIte] at ok
  obtain ⟨_,_,⟨rfl,rfl⟩,_,_,⟨live,rfl⟩,ok⟩ := ok
  obtain ⟨started,going⟩ := not_not.mp live
  have running := runningOf held started going
  rcases ok with ⟨sent,ok⟩ | ⟨unlisted,ok⟩
  · rw [streamEvent,if_pos sent]
    exact followsFunctionItem held running ok
  have sent : among eventType argumentEvents = true := by simpa [functionItemEvent,unlisted] using called
  rw [streamArguments sent]
  rcases ok with ⟨delta,ok⟩ | ⟨done,ok⟩
  · rw [decide_eq_false (not_not.mpr delta)]
    exact followsArgumentsDelta held running ok
  · rw [decide_eq_true done]
    exact followsArgumentsDone held running ok

theorem followsStrict (held : Simulates s a) (ok : (validateStrictEvent p parseInt payload eventType).Returns s u s') :
    Follows payload (streamEvent payload eventType) a s' := by
  simp only [validateStrictEvent,returnsIte] at ok
  rcases ok with ⟨function,ok⟩ | ⟨-,⟨sent,ok⟩ | ⟨unlisted,rest⟩⟩
  · exact followsFunction (Bool.and_eq_true_iff.mp function).2 held ok
  · rw [streamEvent,if_pos sent]
    rcases ok with ⟨-,ok⟩ | ⟨-,ok⟩
    · exact followsMessageItem held ok
    · exact followsReasoningItem held ok
  rw [streamEvent,if_neg unlisted]
  rcases rest with ⟨sent,ok⟩ | ⟨other,rest⟩
  · rw [if_pos sent]
    exact followsReasoningPart held ok
  rw [if_neg other]
  rcases rest with ⟨sent,ok⟩ | ⟨other,rest⟩
  · rw [if_pos sent]
    exact followsReasoningText sent held ok
  rw [if_neg other]
  rcases rest with ⟨sent,ok⟩ | ⟨other,rest⟩
  · rw [if_pos sent]
    exact followsContentPart held ok
  rw [if_neg other]
  rcases rest with ⟨sent,ok⟩ | ⟨other,rest⟩
  · rw [if_pos sent]
    exact followsMessageText held ok
  rw [if_neg other]
  rcases rest with ⟨sent,ok⟩ | ⟨-,ok⟩
  · rw [if_pos sent]
    simp only [validateCodexResponseEvent,onlyFields,require,returnsBind,returnsRaiseIf,returnsIte] at ok
    obtain ⟨_,_,⟨-,rfl⟩,⟨completed,ok⟩ | ⟨going,ok⟩⟩ := ok
    · rw [completed]
      exact followsCompleted held ok
    · exact followsProgress going held ok
  · exact absurd ok returnsThrow

theorem recordMeans (ok : (recordEvent payload eventType).Returns s u s') : ∃ events, s' = { s with safeEvents := events } := by
  have summed : ∀ texts, Still (sumBytes texts) := by
    intro texts
    induction texts with
    | nil => exact stillPure
    | cons t rest ih => exact stillBind stillOr fun _ => stillBind ih fun _ => stillPure
  simp only [recordEvent,returnsBind,returnsChange] at ok
  obtain ⟨size,_,sized,rfl⟩ := ok
  obtain rfl := summed _ _ _ _ sized
  exact ⟨_,rfl⟩

end Dispatch

section Runs
variable {p : Profile} {parseInt : Text → Option ℤ} {s s' : Validator} {u : Unit} {a : StreamState}

theorem followsValidate {payload : Document} (search : p.webSearch = false) (exact : p.codexReasoningEvents = true)
    (held : Simulates s a) (ok : (validate p parseInt payload).Returns s u s') :
    ∃ e a', heard payload = some e ∧ a.hear e = some a' ∧ Simulates s' a' := by
  simp only [validate,validateTyped,require,returnsBind,returnsOrRaise,returnsRaiseIf,search,exact,returnsIte] at ok
  obtain ⟨fields,_,⟨mapping,rfl⟩,eventType,_,⟨shown,rfl⟩,_,_,⟨-,rfl⟩,ok⟩ := ok
  rcases ok with ⟨never,-⟩ | ⟨-,⟨-,_,after,ok,recorded⟩ | ⟨never,-⟩⟩
  · cases never
  · obtain ⟨events,rfl⟩ := recordMeans recorded
    obtain ⟨n,e,a',counted,told,taken,left⟩ := followsStrict held ok
    exact ⟨(n,e),a',by simp [heard,fieldsOfMapping mapping,counted,shown,told],taken,{ left with }⟩
  · exact absurd trivial never

theorem followsRun {payloads : List Document} (search : p.webSearch = false) (exact : p.codexReasoningEvents = true)
    (held : Simulates s a) (accepted : Accepted p parseInt s payloads) :
    ∃ events a', payloads.map heard = events.map some ∧ a.run events = some a' ∧
      Simulates (validateAll p parseInt s payloads).2 a' := by
  induction payloads generalizing s a with
  | nil => exact ⟨[],a,rfl,rfl,held⟩
  | cons payload rest ih =>
    obtain ⟨middle,here,later⟩ := acceptedCons.mp accepted
    obtain ⟨e,b,told,taken,next⟩ := followsValidate search exact held here
    obtain ⟨events,a',tells,run,left⟩ := ih next later
    refine ⟨e :: events,a',by simp [told,tells],?_,?_⟩
    · exact (congrArg (· >>= fun b => events.foldlM StreamState.hear b) taken).trans run
    · simp only [validateAll]
      rw [show (validate p parseInt payload).exec s = (.ok (),middle) from here]
      exact left

theorem functionEventsAccepted : Accepted functionProfile (fun _ => none) {} functionEvents :=
  List.forall_iff_forall_mem.mp (by decide +kernel)

-- What the exact profile takes is taken by the machine, up to the state of the validator.
theorem strictStreamFollowsMachine (p : Profile) (parseInt : Text → Option ℤ) (search : p.webSearch = false)
    (exact : p.codexReasoningEvents = true) (payloads : List Document) (accepted : Accepted p parseInt {} payloads) :
    ∃ events a, payloads.map heard = events.map some ∧ ({} : StreamState).run events = some a ∧
      Simulates (validateAll p parseInt {} payloads).2 a :=
  followsRun search exact simulatesInitial accepted

theorem strictStreamFollowsMachineDemo : ∃ events a, functionEvents.map heard = events.map some ∧
    ({} : StreamState).run events = some a ∧ Simulates (validateAll functionProfile (fun _ => none) {} functionEvents).2 a :=
  strictStreamFollowsMachine functionProfile (fun _ => none) rfl rfl functionEvents functionEventsAccepted

-- At every point of the stream: what was sent so far is told in order, each item once, and no text but what its deltas say.
theorem strictStreamSpoken (p : Profile) (parseInt : Text → Option ℤ) (search : p.webSearch = false)
    (exact : p.codexReasoningEvents = true) (sent later : List Document) (accepted : Accepted p parseInt {} (sent ++ later)) :
    ∃ events, sent.map heard = events.map some ∧ Spoken events := by
  obtain ⟨events,a,told,run,-⟩ := followsRun search exact simulatesInitial (acceptedAppend accepted).1
  exact ⟨events,told,spokenRun run⟩

theorem strictStreamSpokenDemo : ∃ events, functionEvents.map heard = events.map some ∧ Spoken events :=
  strictStreamSpoken functionProfile (fun _ => none) rfl rfl functionEvents [] functionEventsAccepted

end Runs

end SlaifGateway.Responses
