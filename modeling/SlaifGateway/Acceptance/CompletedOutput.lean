import SlaifGateway.Acceptance.EventValidator

/-! What a completed response of the exact profile shares with the events before it: every item that was opened
was closed, and a function call in its output is the one that was told. -/
namespace SlaifGateway.Responses
open Library Library.Tx
open LocalCoding (identifier)

section Stream

structure Streamed where
  kind : ItemType
  itemId : Text
  outputIndex : ℕ
  deriving DecidableEq

structure Told where
  opened : List Streamed := []
  closed : List Streamed := []
  calls : List (Text × Text) := []
  responses : List Text := []

def itemKind (item : Fields) : Option ItemType :=
  if (item.get (text "type")).isText "reasoning" then some .reasoning
  else if (item.get (text "type")).isText "message" then some .message
  else if (item.get (text "type")).isText "function_call" then some .functionCall
  else none

def typed (payload : Document) (eventType : String) : Bool := (payload.fields.get (text "type")).isText eventType

def eventItem (payload : Document) : Fields := (payload.fields.get (text "item")).fields

def streamedItem (payload : Document) : Option Streamed := do
  let kind ← itemKind (eventItem payload)
  let itemId ← ((eventItem payload).get (text "id")).text?
  let outputIndex ← validIndex (payload.fields.get (text "output_index"))
  some ⟨kind,itemId,outputIndex⟩

def openedBy (payload : Document) : Option Streamed :=
  if typed payload "response.output_item.added" then streamedItem payload else none

def closedBy (payload : Document) : Option Streamed :=
  if typed payload "response.output_item.done" then streamedItem payload else none

-- The name and the arguments of a function call that is closed.
def calledBy (payload : Document) : Option (Text × Text) :=
  if typed payload "response.output_item.done" && itemKind (eventItem payload) = some .functionCall then do
    let name ← ((eventItem payload).get (text "name")).text?
    let arguments ← ((eventItem payload).get (text "arguments")).text?
    some (name,arguments)
  else none

def createdBy (payload : Document) : Option Text :=
  if typed payload "response.created" then ((payload.fields.get (text "response")).fields.get (text "id")).text? else none

def told (payloads : List Document) : Told where
  opened := payloads.filterMap openedBy
  closed := payloads.filterMap closedBy
  calls := payloads.filterMap calledBy
  responses := payloads.filterMap createdBy

def Told.next (t : Told) (payload : Document) : Told where
  opened := t.opened ++ (openedBy payload).toList
  closed := t.closed ++ (closedBy payload).toList
  calls := t.calls ++ (calledBy payload).toList
  responses := t.responses ++ (createdBy payload).toList

theorem toldNext {payloads : List Document} {payload : Document} :
    told (payloads ++ [payload]) = (told payloads).next payload := by
  have one : ∀ {β : Type} (f : Document → Option β), [payload].filterMap f = (f payload).toList := by
    intro β f
    cases found : f payload <;> simp [found]
  simp only [told,Told.next,List.filterMap_append,one]

end Stream

section Dicts
variable {κ υ : Type} [DecidableEq κ] [BEq κ] [LawfulBEq κ] {d : Dict κ υ} {key other : κ} {value : υ}

theorem lookupDrop : (d.drop key).lookup other = if other = key then none else d.lookup other := by
  unfold Dict.drop
  induction d with
  | nil => simp
  | cons entry rest ih =>
    by_cases dropped : entry.1 = key
    · rw [List.filter_cons_of_neg (by simpa using dropped),ih,List.lookup_cons]
      by_cases same : other = key
      · rw [if_pos same,if_pos same]
      · rw [if_neg same,if_neg same,dropped,beq_false_of_ne same]
    · rw [List.filter_cons_of_pos (by simpa using dropped),List.lookup_cons,List.lookup_cons,ih]
      by_cases here : other = entry.1
      · simp [here,dropped]
      · rw [beq_false_of_ne here]

theorem lookupPut : (d.put key value).lookup other = if other = key then some value else d.lookup other := by
  change ((key,value) :: d.drop key).lookup other = _
  rw [List.lookup_cons,lookupDrop]
  by_cases same : other = key
  · simp [same]
  · rw [beq_false_of_ne same,if_neg same,if_neg same]

omit [BEq κ] [LawfulBEq κ] in
theorem dropAbsent (absent : key ∉ d.map Prod.fst) : d.drop key = d := by
  refine List.filter_eq_self.mpr fun entry listed => ?_
  simp only [ne_eq,decide_not,Bool.not_eq_true',decide_eq_false_iff_not]
  exact fun same => absent (same ▸ List.mem_map_of_mem listed)

end Dicts

section Tracking

-- The part of the state that the output items change.
structure View where
  activeItems : Dict Text ItemState
  seenItemIds : List Text
  indices : ItemType → Dict Text ℕ
  functionDeltaSeen : List Text
  functionDoneStates : Dict Text ItemState
  functionOutputDone : List Text
  anyDone : Bool
  strictResponseId : Option Text

def indicesOf (s : Validator) : ItemType → Dict Text ℕ
  | .reasoning => s.reasoningOutputIndices
  | .message => s.messageOutputIndices
  | .functionCall => s.functionOutputIndices
  | .customToolCall => []

def view (s : Validator) : View where
  activeItems := s.activeItems
  seenItemIds := s.seenItemIds
  indices := indicesOf s
  functionDeltaSeen := s.functionDeltaSeen
  functionDoneStates := s.functionDoneStates
  functionOutputDone := s.functionOutputDone
  anyDone := s.reasoningOutputDone ≠ [] ∨ s.messageOutputDone ≠ [] ∨ s.functionOutputDone ≠ []
  strictResponseId := s.strictResponseId

def View.opens (v : View) (item : Streamed) (state : ItemState) : View := { v with
  activeItems := v.activeItems.put item.itemId state
  seenItemIds := item.itemId :: v.seenItemIds
  indices := fun kind => if kind = item.kind then (v.indices kind).put item.itemId item.outputIndex else v.indices kind }

def View.tells (v : View) (itemId : Text) (state : ItemState) : View := { v with
  activeItems := v.activeItems.put itemId state
  functionDeltaSeen := itemId :: v.functionDeltaSeen }

def View.closes (v : View) (itemId : Text) : View := { v with
  activeItems := v.activeItems.drop itemId
  anyDone := true }

def View.calls (v : View) (itemId : Text) (state : ItemState) : View := { v with
  functionDoneStates := v.functionDoneStates.put itemId state
  functionOutputDone := itemId :: v.functionOutputDone }

structure Tracks (v : View) (t : Told) : Prop where
  seen : ∀ item ∈ t.opened, item.itemId ∈ v.seenItemIds
  distinct : (t.opened.map Streamed.itemId).Nodup
  within : ∀ item ∈ t.closed, item ∈ t.opened
  once : t.closed.Nodup
  active : ∀ item ∈ t.opened, item ∉ t.closed → (v.activeItems.lookup item.itemId).isSome
  pending : ∀ id state, v.activeItems.lookup id = some state →
    ∃ item ∈ t.opened, item.itemId = id ∧ item.kind = state.itemType ∧ item ∉ t.closed
  indexed : ∀ kind id index, (v.indices kind).lookup id = some index → ⟨kind,id,index⟩ ∈ t.opened
  silent : ∀ id state, v.activeItems.lookup id = some state → id ∉ v.functionDeltaSeen → state.deltaText = []
  done : v.anyDone = true → t.closed ≠ []
  calls : v.functionDoneStates.map (fun entry => (entry.2.name,entry.2.deltaText)) =
    (t.calls.map fun call => (some call.1,call.2)).reverse
  doneKeys : v.functionDoneStates.map Prod.fst = v.functionOutputDone
  responses : v.strictResponseId.toList = t.responses

theorem tracksInitial : Tracks (view {}) {} := by
  constructor <;> simp [view,indicesOf]
  intro kind
  cases kind <;> simp

variable {v : View} {t : Told} {item : Streamed} {state : ItemState} {itemId : Text}

theorem tracksOpens (held : Tracks v t) (new : item.itemId ∉ v.seenItemIds) (kind : state.itemType = item.kind)
    (fresh : state.deltaText = []) : Tracks (v.opens item state) { t with opened := t.opened ++ [item] } := by
  have unknown : ∀ old ∈ t.opened, old.itemId ≠ item.itemId := fun old listed same => new (same ▸ held.seen old listed)
  refine { held with
    seen := List.forall_mem_append.mpr ⟨fun old listed => List.mem_cons_of_mem _ (held.seen old listed),by simp [View.opens]⟩
    distinct := ?_
    within := fun old listed => List.mem_append_left _ (held.within old listed)
    active := List.forall_mem_append.mpr ⟨fun old listed unclosed => ?_,by simp [View.opens,lookupPut]⟩
    pending := fun id found known => ?_
    indexed := fun other id index known => ?_
    silent := fun id found known unseen => ?_ }
  · rw [List.map_append,List.nodup_append]
    refine ⟨held.distinct,List.nodup_singleton _,fun id listed other one => ?_⟩
    obtain ⟨old,known,rfl⟩ := List.mem_map.mp listed
    rw [List.map_singleton,List.mem_singleton] at one
    exact one ▸ unknown old known
  · simp only [View.opens,lookupPut,if_neg (unknown old listed)]
    exact held.active old listed unclosed
  · simp only [View.opens,lookupPut] at known
    split at known
    · next same =>
      obtain rfl := Option.some.inj known
      exact ⟨item,by simp,same.symm,kind.symm,fun closed => unknown item (held.within item closed) rfl⟩
    · obtain ⟨old,listed,rest⟩ := held.pending id found known
      exact ⟨old,List.mem_append_left _ listed,rest⟩
  · simp only [View.opens] at known
    split at known
    · next same =>
      rw [lookupPut] at known
      split at known
      · next here =>
        obtain rfl := Option.some.inj known
        exact List.mem_append_right _ (by rw [same,here]; exact List.mem_cons_self)
      · exact List.mem_append_left _ (held.indexed other id index known)
    · exact List.mem_append_left _ (held.indexed other id index known)
  · simp only [View.opens,lookupPut] at known
    split at known
    · exact Option.some.inj known ▸ fresh
    · exact held.silent id found known unseen

theorem tracksTells (held : Tracks v t) {before : ItemState} (known : v.activeItems.lookup itemId = some before)
    (kind : state.itemType = before.itemType) : Tracks (v.tells itemId state) t := by
  refine { held with
    active := fun old listed unclosed => ?_
    pending := fun id found shown => ?_
    silent := fun id found shown unseen => ?_ }
  · simp only [View.tells,lookupPut]
    split
    · rfl
    · exact held.active old listed unclosed
  · simp only [View.tells,lookupPut] at shown
    split at shown
    · next same =>
      obtain rfl := Option.some.inj shown
      rw [kind,same]
      exact held.pending itemId before known
    · exact held.pending id found shown
  · simp only [View.tells,List.mem_cons,not_or,lookupPut] at shown unseen
    rw [if_neg unseen.1] at shown
    exact held.silent id found shown unseen.2

-- An active item of the given kind and index is opened and not yet closed.
theorem openItem (item : Streamed) (held : Tracks v t) (known : v.activeItems.lookup item.itemId = some state)
    (index : (v.indices item.kind).lookup item.itemId = some item.outputIndex) : item ∈ t.opened ∧ item ∉ t.closed := by
  have listed := held.indexed item.kind item.itemId item.outputIndex index
  obtain ⟨other,there,same,-,unclosed⟩ := held.pending item.itemId state known
  obtain rfl := List.inj_on_of_nodup_map held.distinct there listed same
  exact ⟨listed,unclosed⟩

theorem tracksCloses (held : Tracks v t) (listed : item ∈ t.opened) (unclosed : item ∉ t.closed) :
    Tracks (v.closes item.itemId) { t with closed := t.closed ++ [item] } := by
  refine { held with
    within := List.forall_mem_append.mpr ⟨held.within,by simpa using listed⟩
    once := List.nodup_append.mpr ⟨held.once,List.nodup_singleton _,
      fun old closed other one same => unclosed (List.mem_singleton.mp one ▸ same ▸ closed)⟩
    active := fun old known other => ?_
    pending := fun id found known => ?_
    silent := fun id found known unseen => ?_
    done := fun _ => by simp }
  · simp only [List.mem_append,List.mem_singleton,not_or] at other
    have differ : old.itemId ≠ item.itemId := fun same =>
      other.2 (List.inj_on_of_nodup_map held.distinct known listed same)
    simp only [View.closes,lookupDrop,if_neg differ]
    exact held.active old known other.1
  · simp only [View.closes,lookupDrop] at known
    split at known
    · cases known
    · next differ =>
      obtain ⟨old,there,same,kind,still⟩ := held.pending id found known
      refine ⟨old,there,same,kind,fun closed => ?_⟩
      rcases List.mem_append.mp closed with before | now
      · exact still before
      · exact differ (same ▸ congrArg Streamed.itemId (List.mem_singleton.mp now))
  · simp only [View.closes,lookupDrop] at known
    split at known
    · cases known
    · exact held.silent id found known unseen

theorem tracksCalls (held : Tracks v t) (new : itemId ∉ v.functionOutputDone) {name : Text} (named : state.name = some name) :
    Tracks (v.calls itemId state) { t with calls := t.calls ++ [(name,state.deltaText)] } := by
  have absent : v.functionDoneStates.drop itemId = v.functionDoneStates := dropAbsent (held.doneKeys ▸ new)
  have put : v.functionDoneStates.put itemId state = (itemId,state) :: v.functionDoneStates :=
    congrArg (List.cons _) absent
  refine { held with
    calls := ?_
    doneKeys := ?_ }
  · simp [View.calls,put,held.calls,named]
  · simp [View.calls,put,held.doneKeys]

theorem tracksCreated (held : Tracks v t) (unset : v.strictResponseId = none) {id : Text} :
    Tracks { v with strictResponseId := some id } { t with responses := t.responses ++ [id] } := by
  have none : t.responses = [] := by rw [← held.responses,unset]; rfl
  exact { held with responses := by rw [none]; rfl }

end Tracking

section Frames
variable {α β : Type} {payload fields : Fields} {value : Document} {eventType itemId : Text} {key : Part}

-- A check or an event that leaves the output items alone.
def Frame (x : Step α) : Prop := ∀ s a s', x.Returns s a s' → view s' = view s

theorem frameBind {x : Step α} {f : α → Step β} (first : Frame x) (next : ∀ a, Frame (f a)) : Frame (x >>= f) := by
  intro s b s' ok
  obtain ⟨a,middle,here,later⟩ := returnsBind.mp ok
  rw [next a _ _ _ later,first _ _ _ here]

theorem framePure {a : α} : Frame (pure a : Step α) := by
  intro s b s' ok
  rw [(returnsPure.mp ok).2]

theorem frameOr {o : Option α} {e : Refusal} : Frame (orRaise o e) := by
  intro s a s' ok
  rw [(returnsOrRaise.mp ok).2]

theorem frameRequire {c : Prop} {_ : Decidable c} : Frame (require c) := by
  intro s a s' ok
  rw [(returnsRaiseIf.mp ok).2]

theorem frameReject : Frame (reject : Step α) := fun _ _ _ ok => absurd ok returnsThrow

theorem frameCurrent : Frame current := by
  intro s a s' ok
  rw [(returnsReading.mp ok).2]

theorem frameIte {c : Prop} {_ : Decidable c} {x y : Step α} (yes : Frame x) (no : Frame y) :
    Frame (if c then x else y) := by
  split
  · exact yes
  · exact no

theorem returnsChange {f : Validator → Validator} {s s' : Validator} {u : Unit} :
    (change f).Returns s u s' ↔ f s = s' := by
  change (Except.ok (),f s) = (Except.ok u,s') ↔ _
  simp

theorem frameChange {f : Validator → Validator} (same : ∀ s, view (f s) = view s) : Frame (change f) := by
  intro s a s' ok
  rw [← returnsChange.mp ok,same s]

theorem frameBounded {t : Text} {maxBytes : ℕ} : Frame (boundedUtf8 t maxBytes) := frameBind frameOr fun _ => frameRequire

theorem frameText {maxBytes : ℕ} : Frame (boundedText value maxBytes) :=
  frameBind frameOr fun _ => frameBind frameBounded fun _ => framePure

theorem frameName : Frame (boundedName value) :=
  frameBind frameOr fun _ => frameBind frameRequire fun _ => frameBind frameBounded fun _ => framePure

theorem frameSequence : Frame (acceptStrictSequence payload) :=
  frameBind frameOr fun _ => frameBind frameCurrent fun _ => frameBind frameRequire fun _ => frameChange fun _ => rfl

theorem frameActive {itemType : ItemType} : Frame (activeItem itemId itemType) :=
  frameBind frameCurrent fun _ => frameBind frameOr fun _ => frameBind frameRequire fun _ => framePure

theorem frameCapture {p : Profile} {state : ItemState} : Frame (captureReplayCandidate p itemId state) :=
  frameIte framePure (frameChange fun _ => rfl)

theorem frameOutputPart {logprobs : Document → Bool} : Frame (validateOutputTextPart value logprobs) :=
  frameBind frameOr fun _ => frameBind frameRequire fun _ => frameBind frameRequire fun _ => frameBind frameText fun _ =>
    frameBind frameRequire fun _ => frameBind frameRequire fun _ => framePure

theorem frameContentPart : Frame (validateCodexMessageContentPart payload eventType) := by
  refine frameBind frameRequire fun _ => frameBind frameOr fun _ => frameBind frameOr fun _ => frameBind frameOr fun _ => ?_
  refine frameBind frameOr fun _ => frameBind frameActive fun _ => frameBind frameCurrent fun _ => ?_
  refine frameBind frameRequire fun _ => frameBind frameOutputPart fun _ => frameBind frameSequence fun _ => ?_
  refine frameIte ?_ ?_
  · exact frameBind frameCurrent fun _ => frameBind frameRequire fun _ => frameBind frameRequire fun _ =>
      frameChange fun _ => rfl
  · refine frameBind frameCurrent fun _ => frameBind frameRequire fun _ => frameBind frameRequire fun _ => ?_
    exact frameBind frameRequire fun _ => frameChange fun _ => rfl

theorem frameMessageText : Frame (validateCodexMessageTextEvent payload eventType) := by
  refine frameBind frameRequire fun _ => frameBind frameOr fun _ => frameBind frameOr fun _ => frameBind frameOr fun _ => ?_
  refine frameBind frameOr fun _ => frameBind frameRequire fun _ => frameBind frameActive fun _ => ?_
  refine frameBind frameCurrent fun _ => frameBind frameRequire fun _ => frameBind frameRequire fun _ => ?_
  refine frameBind frameSequence fun _ => frameBind frameRequire fun _ => frameIte ?_ ?_
  · refine frameBind frameCurrent fun _ => frameBind frameRequire fun _ => frameBind frameText fun _ => ?_
    exact frameBind frameBounded fun _ => frameChange fun _ => rfl
  · refine frameBind frameCurrent fun _ => frameBind frameRequire fun _ => frameBind frameText fun _ => ?_
    exact frameBind frameRequire fun _ => frameBind frameRequire fun _ => frameChange fun _ => rfl

theorem frameReasoningPart : Frame (validateReasoningPartEvent payload eventType) := by
  refine frameBind frameRequire fun _ => frameBind frameOr fun _ => frameBind frameOr fun _ => frameBind frameOr fun _ => ?_
  refine frameBind frameSequence fun _ => frameBind frameActive fun _ => frameBind frameCurrent fun _ => ?_
  refine frameBind frameRequire fun _ => frameBind frameOr fun _ => ?_
  refine frameBind (frameBind frameRequire fun _ => frameBind frameRequire fun _ => frameText) fun _ => frameIte ?_ ?_
  · exact frameBind frameCurrent fun _ => frameBind frameRequire fun _ => frameBind frameRequire fun _ =>
      frameChange fun _ => rfl
  · refine frameBind frameCurrent fun _ => frameBind frameRequire fun _ => frameBind frameRequire fun _ => ?_
    exact frameBind frameRequire fun _ => frameChange fun _ => rfl

theorem frameReasoningText {parseInt : Text → Option ℤ} {strictCodex : Bool} :
    Frame (reasoningText parseInt payload eventType itemId strictCodex) := by
  refine frameIte (frameBind (frameBind frameOr fun _ => frameRequire) fun _ => ?_) ?_
  all_goals
    refine frameBind frameOr fun _ => frameIte (frameBind frameText fun _ => ?_) (frameBind frameText fun _ => ?_)
    · refine frameBind frameCurrent fun _ => frameIte ?_ frameRequire
      exact frameBind frameRequire fun _ => frameBind frameRequire fun _ => frameBind frameRequire fun _ =>
        frameChange fun _ => rfl
    · refine frameBind frameCurrent fun _ => frameBind frameRequire fun _ => ?_
      exact frameBind frameBounded fun _ => frameChange fun _ => rfl

theorem frameReasoningEvent {p : Profile} {parseInt : Text → Option ℤ} :
    Frame (validateReasoningEvent p parseInt payload eventType true) := by
  refine frameBind frameRequire fun _ => frameBind frameOr fun _ => frameBind frameRequire fun _ => ?_
  refine frameBind frameSequence fun _ => frameBind frameActive fun _ => frameBind frameCurrent fun _ => ?_
  refine frameBind frameRequire fun _ => frameIte ?_ frameReasoningText
  refine frameBind frameOr fun _ => frameBind frameOr fun _ => ?_
  exact frameBind (frameBind frameRequire fun _ => frameBind frameRequire fun _ => frameText) fun _ => framePure

theorem frameArgumentsDone : Frame (functionArgumentsDone payload) := by
  refine frameBind frameRequire fun _ => frameBind frameOr fun _ => frameBind frameOr fun _ => ?_
  refine frameBind frameName fun _ => frameBind frameText fun _ => frameBind frameActive fun _ => ?_
  refine frameBind frameCurrent fun _ => frameBind frameRequire fun _ => frameBind frameRequire fun _ => ?_
  exact frameBind frameRequire fun _ => frameBind frameSequence fun _ => frameChange fun _ => rfl

theorem frameOneOf {names : List String} : Frame (oneOf value names) := by
  cases value with
  | str t => exact frameRequire
  | arr items => exact fun _ _ _ ok => absurd ok returnsThrow
  | obj fields => exact fun _ _ _ ok => absurd ok returnsThrow
  | _ => exact frameReject

theorem frameStatus {names : List String} : Frame (absentOrOneOf value names) := frameIte framePure frameOneOf

theorem frameOptionalIndex {name : String} : Frame (optionalIndex fields name) :=
  frameIte (frameBind frameOr fun _ => framePure) framePure

theorem frameProgress : Frame (validateResponseProgressEvent payload) := by
  refine frameBind frameRequire fun _ => frameBind frameOptionalIndex fun _ => frameBind frameOr fun _ => ?_
  refine frameBind frameOr fun _ => frameBind frameRequire fun _ => frameBind frameStatus fun _ => ?_
  exact frameBind frameRequire fun _ => frameIte framePure (frameBind frameName fun _ => framePure)

theorem frameEnvelope : Frame (validateResponseEnvelope fields) :=
  frameBind frameRequire fun _ => frameBind frameRequire fun _ => frameBind frameOr fun _ => frameRequire

theorem frameUsage : Frame (validateCompletedUsage fields) := by
  refine frameBind frameRequire fun _ => frameBind frameOr fun _ => frameBind frameOr fun _ => frameBind frameOr fun _ => ?_
  refine frameBind frameOr fun _ => frameBind frameRequire fun _ => frameBind frameRequire fun _ => ?_
  refine frameBind frameRequire fun _ => frameBind frameOr fun _ => frameBind frameRequire fun _ => ?_
  exact frameBind frameRequire fun _ => frameBind frameRequire fun _ => frameBind frameRequire fun _ => frameRequire

theorem frameSumParts {check : Document → Step ℕ} (each : ∀ part, Frame (check part)) {parts : List Document} :
    Frame (sumParts check parts) := by
  induction parts with
  | nil => exact framePure
  | cons part rest ih => exact frameBind (each part) fun _ => frameBind ih fun _ => framePure

theorem frameList : Frame (boundedList value) := frameBind frameOr fun _ => frameBind frameRequire fun _ => framePure

theorem frameOutputItem {p : Profile} : Frame (validateCodexCompletedOutputItem p value) := by
  refine frameBind frameOr fun _ => frameBind frameOr fun _ => frameIte ?_ (frameIte ?_ ?_)
  · refine frameBind frameRequire fun _ => frameBind frameRequire fun _ => frameBind frameList fun _ => ?_
    refine frameSumParts fun _ => frameBind frameOr fun _ => frameBind frameRequire fun _ => ?_
    exact frameBind frameRequire fun _ => frameBind frameText fun _ => frameOr
  · refine frameBind frameRequire fun _ => frameBind frameRequire fun _ => frameBind frameRequire fun _ => ?_
    refine frameBind frameName fun _ => frameBind frameOr fun _ => frameBind frameText fun _ => ?_
    exact frameBind frameCurrent fun _ => frameBind frameRequire fun _ => frameOr
  · refine frameBind frameRequire fun _ => frameBind frameRequire fun _ => frameBind frameList fun _ => ?_
    exact frameBind frameRequire fun _ => frameSumParts fun _ => frameBind frameOutputPart fun _ => frameOr

theorem frameCompleted : Frame (validateResponseCompletedEvent payload) :=
  frameBind frameOr fun _ => frameBind frameRequire fun _ => frameBind frameStatus fun _ => framePure

theorem frameRecord : Frame (recordEvent payload eventType) := by
  have summed : ∀ texts, Frame (sumBytes texts) := by
    intro texts
    induction texts with
    | nil => exact framePure
    | cons t rest ih => exact frameBind frameOr fun _ => frameBind ih fun _ => framePure
  exact frameBind (summed _) fun _ => frameChange fun _ => rfl

end Frames

section Telling
variable {payload : Fields} {eventType : Text} {t : Told} {item : Streamed}
  (shown : (payload.get (text "type")).text? = some eventType)
include shown

theorem typedBy (name : String) : typed (.obj payload) name = decide (eventType = text name) := by
  unfold typed
  rw [Document.fields]
  cases kind : payload.get (text "type") with
  | str u =>
    rw [kind] at shown
    obtain rfl := Option.some.inj shown
    rfl
  | _ => rw [kind] at shown; cases shown

theorem nextOpened (sent : eventType = text "response.output_item.added")
    (told : streamedItem (.obj payload) = some item) :
    t.next (.obj payload) = { t with opened := t.opened ++ [item] } := by
  have here := typedBy shown
  rw [sent] at here
  have later : text "response.output_item.added" ≠ text "response.output_item.done" := by decide
  have first : text "response.output_item.added" ≠ text "response.created" := by decide
  simp [Told.next,openedBy,closedBy,calledBy,createdBy,here,told,later,first]

theorem nextClosed (sent : eventType = text "response.output_item.done")
    (told : streamedItem (.obj payload) = some item) :
    t.next (.obj payload) = { t with
      closed := t.closed ++ [item], calls := t.calls ++ (calledBy (.obj payload)).toList } := by
  have here := typedBy shown
  rw [sent] at here
  have later : text "response.output_item.done" ≠ text "response.output_item.added" := by decide
  have first : text "response.output_item.done" ≠ text "response.created" := by decide
  simp [Told.next,openedBy,closedBy,createdBy,here,told,later,first]

theorem nextCreated (sent : eventType = text "response.created") {id : Text}
    (told : ((payload.get (text "response")).fields.get (text "id")).text? = some id) :
    t.next (.obj payload) = { t with responses := t.responses ++ [id] } := by
  have here := typedBy shown
  rw [sent] at here
  have later : text "response.created" ≠ text "response.output_item.added" := by decide
  have last : text "response.created" ≠ text "response.output_item.done" := by decide
  have created : createdBy (.obj payload) = some id := by
    rw [createdBy,here,if_pos (by decide)]
    exact told
  simp [Told.next,openedBy,closedBy,calledBy,created,here,later,last]

theorem nextOther (unlisted : ¬among eventType outputItemEvents = true) (going : eventType ≠ text "response.created") :
    t.next (.obj payload) = t := by
  have here := typedBy shown
  simp only [among,outputItemEvents,List.map_cons,List.map_nil,List.contains_eq_mem,List.mem_cons,List.not_mem_nil,
    or_false,decide_eq_true_eq,not_or] at unlisted
  simp [Told.next,openedBy,closedBy,calledBy,createdBy,here,unlisted,going]

end Telling

section Items
variable {p : Profile} {payload item : Fields} {eventType itemId : Text} {outputIndex : ℕ} {s s' : Validator} {u : Unit}

theorem eventItemMeans (mapping : (payload.get (text "item")).mapping? = some item) : eventItem (.obj payload) = item := by
  unfold eventItem
  rw [Document.fields]
  cases shown : payload.get (text "item") with
  | obj fields => rw [shown] at mapping; exact Option.some.inj mapping
  | _ => rw [shown] at mapping; cases mapping

theorem streamedMeans (mapping : (payload.get (text "item")).mapping? = some item) {kind : ItemType}
    (kindOf : itemKind item = some kind) (id : identifierOf (item.get (text "id")) = some itemId)
    (index : validIndex (payload.get (text "output_index")) = some outputIndex) :
    streamedItem (.obj payload) = some ⟨kind,itemId,outputIndex⟩ := by
  have named : (item.get (text "id")).text? = some itemId := (Option.filter_eq_some_iff.mp id).1
  simp [streamedItem,eventItemMeans mapping,kindOf,named,Document.fields,index]

theorem opensReasoning (ok : (openReasoningItem item itemId outputIndex).Returns s u s') :
    itemId ∉ s.seenItemIds ∧ view s' = (view s).opens ⟨.reasoning,itemId,outputIndex⟩ { itemType := .reasoning } := by
  simp only [openReasoningItem,require,current,returnsBind,returnsRaiseIf,returnsReading,returnsChange] at ok
  obtain ⟨_,_,⟨-,rfl⟩,_,_,⟨-,rfl⟩,_,_,⟨rfl,rfl⟩,_,_,⟨new,rfl⟩,rfl⟩ := ok
  refine ⟨(not_not.mp new).1,?_⟩
  simp only [view,View.opens]
  congr 1
  funext kind
  cases kind <;> rfl

theorem closesReasoning (ok : (closeReasoningItem item itemId outputIndex).Returns s u s') :
    (∃ state, s.activeItems.lookup itemId = some state) ∧ s.reasoningOutputIndices.lookup itemId = some outputIndex ∧
      view s' = (view s).closes itemId := by
  simp only [closeReasoningItem,require,current,returnsBind,returnsRaiseIf,returnsReading,returnsChange] at ok
  obtain ⟨_,_,⟨rfl,rfl⟩,_,_,⟨-,rfl⟩,_,_,⟨index,rfl⟩,_,_,⟨-,rfl⟩,_,_,⟨known,rfl⟩,_,_,⟨-,rfl⟩,rfl⟩ := ok
  refine ⟨Option.isSome_iff_exists.mp (not_not.mp known),not_not.mp index,?_⟩
  simp only [view,View.closes]
  congr 1

theorem opensMessage (ok : (openMessageItem item itemId outputIndex).Returns s u s') :
    itemId ∉ s.seenItemIds ∧ view s' = (view s).opens ⟨.message,itemId,outputIndex⟩ { itemType := .message } := by
  simp only [openMessageItem,require,current,returnsBind,returnsRaiseIf,returnsReading,returnsChange] at ok
  obtain ⟨_,_,⟨-,rfl⟩,_,_,⟨-,rfl⟩,_,_,⟨rfl,rfl⟩,_,_,⟨new,rfl⟩,rfl⟩ := ok
  refine ⟨(not_not.mp new).1,?_⟩
  simp only [view,View.opens]
  congr 1
  funext kind
  cases kind <;> rfl

theorem closesMessage (ok : (closeMessageItem item itemId outputIndex).Returns s u s') :
    (∃ state, s.activeItems.lookup itemId = some state) ∧ s.messageOutputIndices.lookup itemId = some outputIndex ∧
      view s' = (view s).closes itemId := by
  simp only [closeMessageItem,require,current,returnsBind,returnsRaiseIf,returnsReading,returnsChange] at ok
  obtain ⟨_,_,⟨rfl,rfl⟩,_,_,⟨-,rfl⟩,_,_,⟨index,rfl⟩,_,_,⟨known,rfl⟩,_,_,⟨-,rfl⟩,_,_,⟨-,rfl⟩,rfl⟩ := ok
  refine ⟨Option.isSome_iff_exists.mp (not_not.mp known),not_not.mp index,?_⟩
  simp only [view,View.closes]
  congr 1
  simp

theorem opensFunction {f : FunctionItem} (ok : (openFunctionItem p item f outputIndex).Returns s u s') :
    f.itemId ∉ s.seenItemIds ∧ ∃ state : ItemState, state.itemType = .functionCall ∧ state.deltaText = [] ∧
      view s' = (view s).opens ⟨.functionCall,f.itemId,outputIndex⟩ state := by
  simp only [openFunctionItem,require,current,returnsBind,returnsRaiseIf,returnsReading,returnsChange] at ok
  obtain ⟨_,_,⟨rfl,rfl⟩,_,_,⟨-,rfl⟩,_,_,⟨new,rfl⟩,_,_,⟨-,rfl⟩,_,_,⟨-,rfl⟩,rfl⟩ := ok
  refine ⟨(not_not.mp new).1,{
    itemType := .functionCall, toolNamespace := some (text "functions"), name := some f.name
    callId := some f.callId },rfl,rfl,?_⟩
  simp only [view,View.opens]
  congr 1
  funext kind
  cases kind <;> rfl

theorem activeMeans {itemType : ItemType} {state : ItemState} (ok : (activeItem itemId itemType).Returns s state s') :
    s.activeItems.lookup itemId = some state ∧ state.itemType = itemType ∧ s' = s := by
  simp only [activeItem,require,current,returnsBind,returnsRaiseIf,returnsReading,returnsOrRaise,returnsPure] at ok
  obtain ⟨_,_,⟨rfl,rfl⟩,_,_,⟨known,rfl⟩,_,_,⟨kind,rfl⟩,rfl,rfl⟩ := ok
  exact ⟨known,not_not.mp kind,rfl⟩

-- The arguments of a function call that is closed are those its deltas have told.
theorem closesFunction {f : FunctionItem} (silent : ∀ id state, s.activeItems.lookup id = some state →
    id ∉ s.functionDeltaSeen → state.deltaText = []) (ok : (closeFunctionItem p item f outputIndex).Returns s u s') :
    ∃ state, s.activeItems.lookup f.itemId = some state ∧ state.name = some f.name ∧ state.deltaText = f.arguments ∧
      s.functionOutputIndices.lookup f.itemId = some outputIndex ∧ f.itemId ∉ s.functionOutputDone ∧
      view s' = ((view s).closes f.itemId).calls f.itemId state := by
  simp only [closeFunctionItem,require,current,returnsBind,returnsRaiseIf,returnsReading,returnsChange] at ok
  obtain ⟨_,_,⟨-,rfl⟩,state,_,active,_,_,⟨rfl,rfl⟩,_,_,⟨index,rfl⟩,_,_,⟨same,rfl⟩,_,_,⟨completed,rfl⟩,_,_,rfl,captured⟩ := ok
  obtain ⟨known,-,rfl⟩ := activeMeans active
  obtain ⟨-,named,new⟩ := not_not.mp same
  refine ⟨state,known,named,?_,not_not.mp index,new,?_⟩
  · rcases Bool.or_eq_true_iff.mp (not_not.mp completed) with omitted | ordinary
    · obtain ⟨-,unseen,-,empty⟩ := of_decide_eq_true omitted
      rw [silent _ _ known unseen,empty]
    · exact (of_decide_eq_true ordinary).2.symm
  · rw [frameCapture _ _ _ captured]
    simp only [view,View.closes,View.calls]
    congr 1
    simp

theorem extendsFunction (ok : (functionArgumentsDelta payload).Returns s u s') :
    ∃ id before state, s.activeItems.lookup id = some before ∧ state.itemType = before.itemType ∧
      view s' = (view s).tells id state := by
  simp only [functionArgumentsDelta,tellingFunction,onlyFields,requiredIdentifier,requiredIndex,require,current,
    returnsBind,returnsRaiseIf,returnsReading,returnsOrRaise,returnsPure,returnsChange] at ok
  obtain ⟨_,_,⟨-,rfl⟩,id,_,⟨-,rfl⟩,index,_,⟨-,rfl⟩,state,_,telling,delta,_,⟨-,rfl⟩,_,_,⟨-,rfl⟩,_,small,bounded,
    _,whole,cumulative,_,sequenced,sequence,rfl⟩ := ok
  obtain ⟨before,after,active,_,_,⟨rfl,rfl⟩,_,_,⟨-,rfl⟩,_,_,⟨-,rfl⟩,rfl,rfl⟩ := telling
  obtain ⟨known,-,rfl⟩ := activeMeans active
  have kept : view sequenced = view after := by
    rw [frameSequence _ _ _ sequence,frameBounded _ _ _ cumulative,frameBounded _ _ _ bounded]
  refine ⟨id,before,{ before with deltaText := before.deltaText ++ delta },known,rfl,?_⟩
  rw [← kept]
  rfl

end Items

section Steps
variable {p : Profile} {parseInt : Text → Option ℤ} {payload : Fields} {eventType : Text} {s s' : Validator} {t : Told}
  {u : Unit} (held : Tracks (view s) t) (shown : (payload.get (text "type")).text? = some eventType)

theorem doneMeans (done : isDone eventType = true) : eventType = text "response.output_item.done" := of_decide_eq_true done

theorem addedMeans (sent : among eventType outputItemEvents = true) (undone : ¬isDone eventType = true) :
    eventType = text "response.output_item.added" := by
  have other : eventType ≠ text "response.output_item.done" := fun done => undone (decide_eq_true done)
  simpa [among,outputItemEvents,other] using sent

theorem notCalled {item : Fields} (mapping : (payload.get (text "item")).mapping? = some item) {kind : ItemType}
    (kindOf : itemKind item = some kind) (other : kind ≠ .functionCall) : calledBy (.obj payload) = none := by
  simp [calledBy,eventItemMeans mapping,kindOf,other]

theorem textOf {d : Document} {word : String} (said : d.isText word = true) : d = .str (text word) := by
  cases d with
  | str u => exact congrArg _ (of_decide_eq_true said)
  | _ => cases said

theorem kindMessage {item : Fields} (said : (item.get (text "type")).isText "message" = true) :
    itemKind item = some .message := by
  rw [itemKind,textOf said]
  rfl

theorem kindFunction {item : Fields} (said : (item.get (text "type")).isText "function_call" = true) :
    itemKind item = some .functionCall := by
  rw [itemKind,textOf said]
  rfl

include held shown

theorem stepReasoningItem (sent : among eventType outputItemEvents = true)
    (ok : (validateCodexReasoningOutputItem payload eventType).Returns s u s') :
    Tracks (view s') (t.next (.obj payload)) := by
  simp only [validateCodexReasoningOutputItem,onlyFields,requiredIdentifier,requiredIndex,require,returnsBind,
    returnsRaiseIf,returnsOrRaise,returnsIte] at ok
  obtain ⟨_,_,⟨-,rfl⟩,outputIndex,_,⟨index,rfl⟩,_,_,⟨-,rfl⟩,item,_,⟨mapping,rfl⟩,_,_,⟨-,rfl⟩,itemId,_,⟨id,rfl⟩,
    _,_,⟨named,rfl⟩,_,_,⟨-,rfl⟩,_,sequenced,sequence,ok⟩ := ok
  rw [← frameSequence _ _ _ sequence] at held
  have kind : itemKind item = some .reasoning := if_pos (not_not.mp named).1
  have streamed := streamedMeans mapping kind id index
  rcases ok with ⟨done,ok⟩ | ⟨undone,ok⟩
  · obtain ⟨⟨state,known⟩,opened,same⟩ := closesReasoning ok
    obtain ⟨listed,unclosed⟩ := openItem ⟨.reasoning,itemId,outputIndex⟩ held known opened
    rw [same,nextClosed shown (doneMeans done) streamed,notCalled mapping kind (by decide),Option.toList_none,List.append_nil]
    exact tracksCloses held listed unclosed
  · obtain ⟨new,same⟩ := opensReasoning ok
    rw [same,nextOpened shown (addedMeans sent undone) streamed]
    exact tracksOpens held new rfl rfl

theorem stepMessageItem (sent : among eventType outputItemEvents = true)
    (ok : (validateCodexMessageOutputItem payload eventType).Returns s u s') :
    Tracks (view s') (t.next (.obj payload)) := by
  simp only [validateCodexMessageOutputItem,onlyFields,requiredIdentifier,requiredIndex,require,returnsBind,
    returnsRaiseIf,returnsOrRaise,returnsIte] at ok
  obtain ⟨_,_,⟨-,rfl⟩,outputIndex,_,⟨index,rfl⟩,_,_,⟨-,rfl⟩,item,_,⟨mapping,rfl⟩,_,_,⟨-,rfl⟩,itemId,_,⟨id,rfl⟩,
    _,_,⟨named,rfl⟩,_,sequenced,sequence,ok⟩ := ok
  rw [← frameSequence _ _ _ sequence] at held
  have kind : itemKind item = some .message := kindMessage (not_not.mp named).1
  have streamed := streamedMeans mapping kind id index
  rcases ok with ⟨done,ok⟩ | ⟨undone,ok⟩
  · obtain ⟨⟨state,known⟩,opened,same⟩ := closesMessage ok
    obtain ⟨listed,unclosed⟩ := openItem ⟨.message,itemId,outputIndex⟩ held known opened
    rw [same,nextClosed shown (doneMeans done) streamed,notCalled mapping kind (by decide),Option.toList_none,List.append_nil]
    exact tracksCloses held listed unclosed
  · obtain ⟨new,same⟩ := opensMessage ok
    rw [same,nextOpened shown (addedMeans sent undone) streamed]
    exact tracksOpens held new rfl rfl

omit held shown in
theorem functionItemMeans {item : Fields} {f : FunctionItem} (ok : (functionItem item).Returns s f s') :
    identifierOf (item.get (text "id")) = some f.itemId ∧ (item.get (text "name")).text? = some f.name ∧
      (item.get (text "type")).isText "function_call" = true ∧ (item.get (text "arguments")).text? = some f.arguments ∧
      view s' = view s := by
  simp only [functionItem,requiredIdentifier,boundedName,boundedText,require,returnsBind,returnsRaiseIf,returnsOrRaise,
    returnsPure] at ok
  obtain ⟨_,_,⟨-,rfl⟩,itemId,_,⟨id,rfl⟩,callId,_,⟨-,rfl⟩,name,_,⟨_,_,⟨named,rfl⟩,_,_,⟨-,rfl⟩,_,_,short,rfl,rfl⟩,
    _,_,⟨kind,rfl⟩,arguments,_,⟨_,_,⟨told,rfl⟩,_,_,small,rfl,rfl⟩,rfl,rfl⟩ := ok
  exact ⟨id,named,(not_not.mp kind).1,told,by rw [frameBounded _ _ _ small,frameBounded _ _ _ short]⟩

theorem stepFunctionItem (sent : among eventType outputItemEvents = true)
    (ok : (validateCodexFunctionOutputItem p payload eventType).Returns s u s') :
    Tracks (view s') (t.next (.obj payload)) := by
  simp only [validateCodexFunctionOutputItem,onlyFields,requiredIndex,require,returnsBind,returnsRaiseIf,returnsOrRaise,
    returnsIte] at ok
  obtain ⟨_,_,⟨-,rfl⟩,outputIndex,_,⟨index,rfl⟩,_,_,⟨-,rfl⟩,item,_,⟨mapping,rfl⟩,f,_,function,_,sequenced,sequence,ok⟩ := ok
  obtain ⟨id,named,kinds,arguments,same⟩ := functionItemMeans function
  rw [← same,← frameSequence _ _ _ sequence] at held
  have kind : itemKind item = some .functionCall := kindFunction kinds
  have streamed := streamedMeans mapping kind id index
  rcases ok with ⟨done,ok⟩ | ⟨undone,ok⟩
  · obtain ⟨state,known,called,gathered,opened,new,same⟩ := closesFunction held.silent ok
    obtain ⟨listed,unclosed⟩ := openItem ⟨.functionCall,f.itemId,outputIndex⟩ held known opened
    have call : calledBy (.obj payload) = some (f.name,state.deltaText) := by
      have sent : typed (.obj payload) "response.output_item.done" = true := by simp [typedBy shown,doneMeans done]
      simp [calledBy,sent,eventItemMeans mapping,kind,named,arguments,gathered]
    rw [same,nextClosed shown (doneMeans done) streamed,call,Option.toList_some]
    exact tracksCalls (tracksCloses held listed unclosed) new called
  · obtain ⟨new,state,kind,fresh,same⟩ := opensFunction ok
    rw [same,nextOpened shown (addedMeans sent undone) streamed]
    exact tracksOpens held new kind fresh

omit held shown in
theorem progressMeans {id : Text} (ok : (validateResponseProgressEvent payload).Returns s id s') :
    ((payload.get (text "response")).fields.get (text "id")).text? = some id := by
  simp only [validateResponseProgressEvent,requiredIdentifier,onlyFields,require,returnsBind,returnsRaiseIf,
    returnsOrRaise,returnsPure,returnsIte] at ok
  obtain ⟨_,_,-,_,_,-,response,_,⟨mapping,rfl⟩,told,_,⟨identified,rfl⟩,_,_,-,_,_,-,_,_,-,ending⟩ := ok
  have same : told = id := by
    rcases ending with ⟨-,same,-⟩ | ⟨-,_,_,-,same,-⟩
    · exact same
    · exact same
  rw [← same]
  cases shown : payload.get (text "response") with
  | obj fields =>
    rw [shown] at mapping
    obtain rfl := Option.some.inj mapping
    exact (Option.filter_eq_some_iff.mp identified).1
  | _ => rw [shown] at mapping; cases mapping

-- The response is created once.
theorem stepProgress (sent : ¬among eventType outputItemEvents = true)
    (ok : (progressResponse payload eventType).Returns s u s') : Tracks (view s') (t.next (.obj payload)) := by
  simp only [progressResponse,returnsBind] at ok
  obtain ⟨id,progressed,progress,_,_,index,_,_,envelope,_,_,output,_,_,usage,_,started,start,last⟩ := ok
  rw [frameSequence _ _ _ last]
  obtain ⟨-,rfl⟩ := returnsOrRaise.mp index
  obtain ⟨-,rfl⟩ := returnsRaiseIf.mp output
  obtain ⟨-,rfl⟩ := returnsRaiseIf.mp usage
  rw [← frameProgress _ _ _ progress,← frameEnvelope _ _ _ envelope] at held
  simp only [startResponse,require,current,returnsBind,returnsIte,returnsReading,returnsRaiseIf,returnsChange] at start
  obtain ⟨_,_,⟨rfl,rfl⟩,⟨created,_,_,⟨unset,rfl⟩,_,after,status,rfl⟩ | ⟨going,-,rfl⟩⟩ := start
  · have kept := frameOneOf _ _ _ status
    have none : (view after).strictResponseId = none := by
      rw [kept]
      exact Option.isNone_iff_eq_none.mp (not_not.mp unset)
    rw [nextCreated shown created (progressMeans progress)]
    exact tracksCreated (kept ▸ held) none
  · rw [nextOther shown sent going]
    exact held

end Steps

section Completed
variable {p : Profile} {payload : Fields} {s s' : Validator} {u : Unit}

-- What the states of the closed function calls say of an item of the output.
def Reviewed (p : Profile) (calls : List (Option Text × Text)) (item : Document) : Prop :=
  ∃ (fields : Fields) (id : Text), item = .obj fields ∧ identifierOf (fields.get (text "id")) = some id ∧
    ((fields.get (text "type")).isText "reasoning" = true ∨ (fields.get (text "type")).isText "message" = true ∨
      (fields.get (text "type")).isText "function_call" = true ∧ p.codex0149FunctionToolEvents = true ∧
        ∃ name arguments, (fields.get (text "name")).text? = some name ∧
          (fields.get (text "arguments")).text? = some arguments ∧ calls = [(some name,arguments)])

def doneCalls (v : View) : List (Option Text × Text) := v.functionDoneStates.map fun entry => (entry.2.name,entry.2.deltaText)

theorem functionOutputMeans {item : Fields} {size : ℕ} (ok : (functionOutputItem p item).Returns s size s') :
    p.codex0149FunctionToolEvents = true ∧ ∃ name arguments, (item.get (text "name")).text? = some name ∧
      (item.get (text "arguments")).text? = some arguments ∧ doneCalls (view s) = [(some name,arguments)] := by
  simp only [functionOutputItem,requiredIdentifier,boundedName,boundedText,require,current,returnsBind,returnsRaiseIf,
    returnsOrRaise,returnsPure,returnsReading] at ok
  obtain ⟨_,_,⟨allowed,rfl⟩,_,_,⟨-,rfl⟩,_,_,⟨-,rfl⟩,_,_,⟨name,_,⟨named,rfl⟩,_,_,⟨-,rfl⟩,_,_,short,rfl,rfl⟩,
    _,_,⟨-,rfl⟩,_,_,⟨arguments,_,⟨told,rfl⟩,_,_,small,rfl,rfl⟩,_,_,⟨rfl,rfl⟩,_,_,⟨calls,rfl⟩,-⟩ := ok
  refine ⟨not_not.mp allowed,name,arguments,named,told,?_⟩
  rw [← frameBounded _ _ _ short,← frameBounded _ _ _ small]
  exact not_not.mp calls

theorem outputItemMeans {item : Document} {size : ℕ} (ok : (validateCodexCompletedOutputItem p item).Returns s size s') :
    Reviewed p (doneCalls (view s)) item := by
  simp only [validateCodexCompletedOutputItem,requiredIdentifier,returnsBind,returnsOrRaise,returnsIte] at ok
  obtain ⟨fields,_,⟨mapping,rfl⟩,id,_,⟨identified,rfl⟩,kinds⟩ := ok
  have shape : item = .obj fields := by
    cases item with
    | obj shown => exact congrArg _ (Option.some.inj mapping)
    | _ => cases mapping
  refine ⟨fields,id,shape,identified,?_⟩
  rcases kinds with ⟨reasoning,-⟩ | ⟨-,⟨function,ok⟩ | ⟨-,ok⟩⟩
  · exact .inl reasoning
  · exact .inr (.inr ⟨function,functionOutputMeans ok⟩)
  · simp only [messageOutputItem,require,returnsBind,returnsRaiseIf] at ok
    obtain ⟨_,_,⟨message,-⟩,-⟩ := ok
    exact .inr (.inl (Bool.and_eq_true_iff.mp (not_not.mp message)).1)

theorem outputItemsMean {items : List Document} {total : ℕ} (ok : (completedOutputItems p total items).Returns s u s') :
    view s' = view s ∧ ∀ item ∈ items, Reviewed p (doneCalls (view s)) item := by
  induction items generalizing total s with
  | nil => exact ⟨framePure _ _ _ ok,by simp⟩
  | cons item rest ih =>
    simp only [completedOutputItems,require,returnsBind,returnsRaiseIf] at ok
    obtain ⟨size,middle,here,_,_,⟨-,rfl⟩,later⟩ := ok
    have same := frameOutputItem _ _ _ here
    have known := ih later
    rw [same] at known
    exact ⟨known.1,List.forall_mem_cons.mpr ⟨outputItemMeans here,known.2⟩⟩

structure Completion (p : Profile) (v : View) (response : Fields) : Prop where
  id : ∃ id, v.strictResponseId = some id ∧ (response.get (text "id")).text? = some id
  status : (response.get (text "status")).isText "completed" = true
  idle : v.activeItems = []
  closed : v.anyDone = true
  output : ∃ items, response.get (text "output") = .arr items ∧ items ≠ [] ∧ items.length ≤ 3 ∧
    ∀ item ∈ items, Reviewed p (doneCalls v) item

theorem completedMeans {response : Fields} (ok : (validateResponseCompletedEvent payload).Returns s response s') :
    (payload.get (text "response")).fields = response := by
  simp only [validateResponseCompletedEvent,require,returnsBind,returnsOrRaise,returnsRaiseIf,returnsPure] at ok
  obtain ⟨fields,_,⟨mapping,rfl⟩,_,_,-,_,_,-,rfl,-⟩ := ok
  cases shown : payload.get (text "response") with
  | obj found => rw [shown] at mapping; exact Option.some.inj mapping
  | _ => rw [shown] at mapping; cases mapping

theorem completionMeans (ok : (completeResponse p payload).Returns s u s') :
    view s' = view s ∧ Completion p (view s) (payload.get (text "response")).fields := by
  simp only [completeResponse,requiredIndex,require,current,returnsBind,returnsOrRaise,returnsRaiseIf,returnsReading,
    returnsChange] at ok
  obtain ⟨response,after,completed,_,_,⟨-,rfl⟩,_,_,⟨rfl,rfl⟩,_,_,⟨ready,rfl⟩,_,_,⟨idle,rfl⟩,_,sized,envelope,
    usage,_,⟨-,rfl⟩,_,counted,usages,_,reviewed,output,_,sequenced,sequence,rfl⟩ := ok
  obtain ⟨started,sameId,status,-⟩ := not_not.mp ready
  obtain ⟨empty,done⟩ := not_not.mp idle
  rw [completedMeans completed,← frameCompleted _ _ _ completed]
  have kept : view counted = view after := by rw [frameUsage _ _ _ usages,frameEnvelope _ _ _ envelope]
  simp only [validateCodexCompletedOutput,require,returnsBind,returnsOrRaise,returnsRaiseIf] at output
  obtain ⟨items,_,⟨listed,rfl⟩,_,_,⟨bounds,rfl⟩,output⟩ := output
  obtain ⟨same,each⟩ := outputItemsMean output
  rw [kept] at same each
  refine ⟨?_,?_,status,empty,decide_eq_true done,items,?_,(not_not.mp bounds).1,(not_not.mp bounds).2,each⟩
  · rw [← same,← frameSequence _ _ _ sequence]
    rfl
  · obtain ⟨id,known⟩ := Option.isSome_iff_exists.mp started
    exact ⟨id,known,sameId.trans known⟩
  · cases shown : response.get (text "output") with
    | arr found => rw [shown] at listed; exact congrArg _ (Option.some.inj listed)
    | _ => rw [shown] at listed; cases listed

end Completed

section Events
variable {p : Profile} {parseInt : Text → Option ℤ} {payload : Fields} {eventType : Text} {s s' : Validator} {t : Told}
  {u : Unit} (held : Tracks (view s) t) (shown : (payload.get (text "type")).text? = some eventType)
include held shown

-- An event that leaves the items alone is none of those that are told.
theorem stepFrame {x : Step Unit} {names : List String} (frame : Frame x) (sent : among eventType names = true)
    (unlisted : ¬among eventType outputItemEvents = true) (others : among (text "response.created") names = false)
    (ok : x.Returns s u s') : Tracks (view s') (t.next (.obj payload)) := by
  have going : eventType ≠ text "response.created" := by
    rintro rfl
    rw [sent] at others
    cases others
  rw [frame _ _ _ ok,nextOther shown unlisted going]
  exact held

theorem stepFunction (called : (functionItemEvent payload eventType || among eventType argumentEvents) = true)
    (ok : (validateCodexFunctionEvent p payload eventType).Returns s u s') :
    Tracks (view s') (t.next (.obj payload)) := by
  simp only [validateCodexFunctionEvent,require,current,returnsBind,returnsReading,returnsRaiseIf,returnsIte] at ok
  obtain ⟨_,_,⟨rfl,rfl⟩,_,_,⟨-,rfl⟩,⟨sent,ok⟩ | ⟨unlisted,ok⟩⟩ := ok
  · exact stepFunctionItem held shown sent ok
  have sent : among eventType argumentEvents = true := by simpa [functionItemEvent,unlisted] using called
  rcases ok with ⟨delta,ok⟩ | ⟨-,ok⟩
  · obtain ⟨id,before,state,known,kind,same⟩ := extendsFunction ok
    have going : eventType ≠ text "response.created" := by rw [delta]; decide
    rw [same,nextOther shown unlisted going]
    exact tracksTells held known kind
  · exact stepFrame held shown frameArgumentsDone sent unlisted (by decide) ok

theorem stepResponse (sent : ¬among eventType outputItemEvents = true)
    (ok : (validateCodexResponseEvent p payload eventType).Returns s u s') :
    Tracks (view s') (t.next (.obj payload)) := by
  simp only [validateCodexResponseEvent,onlyFields,require,returnsBind,returnsRaiseIf,returnsIte] at ok
  obtain ⟨_,_,⟨-,rfl⟩,⟨completed,ok⟩ | ⟨-,ok⟩⟩ := ok
  · have going : eventType ≠ text "response.created" := by rw [completed]; decide
    rw [(completionMeans ok).1,nextOther shown sent going]
    exact held
  · exact stepProgress held shown sent ok

theorem stepStrict (ok : (validateStrictEvent p parseInt payload eventType).Returns s u s') :
    Tracks (view s') (t.next (.obj payload)) := by
  simp only [validateStrictEvent,returnsIte] at ok
  rcases ok with ⟨function,ok⟩ | ⟨-,⟨sent,ok⟩ | ⟨unlisted,rest⟩⟩
  · exact stepFunction held shown (Bool.and_eq_true_iff.mp function).2 ok
  · rcases ok with ⟨-,ok⟩ | ⟨-,ok⟩
    · exact stepMessageItem held shown sent ok
    · exact stepReasoningItem held shown sent ok
  rcases rest with ⟨sent,ok⟩ | ⟨-,⟨sent,ok⟩ | ⟨-,⟨sent,ok⟩ | ⟨-,⟨sent,ok⟩ | ⟨-,⟨-,ok⟩ | ⟨-,ok⟩⟩⟩⟩⟩
  · exact stepFrame held shown frameReasoningPart sent unlisted (by decide) ok
  · exact stepFrame held shown frameReasoningEvent sent unlisted (by decide) ok
  · exact stepFrame held shown frameContentPart sent unlisted (by decide) ok
  · exact stepFrame held shown frameMessageText sent unlisted (by decide) ok
  · exact stepResponse held shown unlisted ok
  · exact absurd ok returnsThrow

omit held shown in
theorem strictMeans {payload : Document} (search : p.webSearch = false) (exact : p.codexReasoningEvents = true)
    (ok : (validate p parseInt payload).Returns s u s') : ∃ (fields : Fields) (eventType : Text) (after : Validator), payload = .obj fields ∧
      (fields.get (text "type")).text? = some eventType ∧
      (validateStrictEvent p parseInt fields eventType).Returns s () after ∧ view s' = view after := by
  simp only [validate,validateTyped,require,returnsBind,returnsOrRaise,returnsRaiseIf,search,exact,returnsIte] at ok
  obtain ⟨fields,_,⟨mapping,rfl⟩,eventType,_,⟨shown,rfl⟩,_,_,⟨-,rfl⟩,ok⟩ := ok
  have shape : payload = .obj fields := by
    cases payload with
    | obj found => exact congrArg _ (Option.some.inj mapping)
    | _ => cases mapping
  rcases ok with ⟨never,-⟩ | ⟨-,⟨-,_,after,ok,recorded⟩ | ⟨never,-⟩⟩
  · cases never
  · exact ⟨fields,eventType,after,shape,shown,ok,frameRecord _ _ _ recorded⟩
  · exact absurd trivial never

omit shown in
theorem stepValidate {payload : Document} (search : p.webSearch = false) (exact : p.codexReasoningEvents = true)
    (ok : (validate p parseInt payload).Returns s u s') : Tracks (view s') (t.next payload) := by
  obtain ⟨fields,eventType,after,rfl,shown,ok,same⟩ := strictMeans search exact ok
  rw [same]
  exact stepStrict held shown ok

end Events

section Runs
variable {p : Profile} {parseInt : Text → Option ℤ} {s : Validator}

-- Every event is taken.
def Accepted (p : Profile) (parseInt : Text → Option ℤ) (s : Validator) (payloads : List Document) : Prop :=
  ∀ answer ∈ (validateAll p parseInt s payloads).1, answer = .ok ()

theorem acceptedCons {payload : Document} {rest : List Document} : Accepted p parseInt s (payload :: rest) ↔
    ∃ s', (validate p parseInt payload).Returns s () s' ∧ Accepted p parseInt s' rest := by
  unfold Accepted Returns
  simp only [validateAll,List.forall_mem_cons]
  rcases out : (validate p parseInt payload).exec s with ⟨answer,after⟩
  simp

theorem acceptedAppend {before after : List Document} (accepted : Accepted p parseInt s (before ++ after)) :
    Accepted p parseInt s before ∧ Accepted p parseInt (validateAll p parseInt s before).2 after := by
  induction before generalizing s with
  | nil => exact ⟨by simp [Accepted,validateAll],accepted⟩
  | cons payload rest ih =>
    obtain ⟨s',here,later⟩ := acceptedCons.mp accepted
    obtain ⟨first,last⟩ := ih later
    refine ⟨acceptedCons.mpr ⟨s',here,first⟩,?_⟩
    have same : (validateAll p parseInt s (payload :: rest)).2 = (validateAll p parseInt s' rest).2 := by
      simp only [validateAll]
      rw [show (validate p parseInt payload).exec s = (.ok (),s') from here]
    rw [same]
    exact last

theorem tracksRun (search : p.webSearch = false) (exact : p.codexReasoningEvents = true) {earlier payloads : List Document}
    (held : Tracks (view s) (told earlier)) (accepted : Accepted p parseInt s payloads) :
    Tracks (view (validateAll p parseInt s payloads).2) (told (earlier ++ payloads)) := by
  induction payloads generalizing s earlier with
  | nil => simpa [validateAll] using held
  | cons payload rest ih =>
    obtain ⟨s',here,later⟩ := acceptedCons.mp accepted
    have next := stepValidate held search exact here
    rw [← toldNext] at next
    have last := ih next later
    rw [List.append_assoc] at last
    simp only [validateAll]
    rw [show (validate p parseInt payload).exec s = (.ok (),s') from here]
    exact last

-- An item of the completed output: a reasoning item, a message, or the one function call that was told.
def Reported (p : Profile) (calls : List (Text × Text)) (item : Document) : Prop :=
  ∃ (fields : Fields) (id : Text), item = .obj fields ∧ identifierOf (fields.get (text "id")) = some id ∧
    ((fields.get (text "type")).isText "reasoning" = true ∨ (fields.get (text "type")).isText "message" = true ∨
      (fields.get (text "type")).isText "function_call" = true ∧ p.codex0149FunctionToolEvents = true ∧
        ∃ name arguments, (fields.get (text "name")).text? = some name ∧
          (fields.get (text "arguments")).text? = some arguments ∧ calls = [(name,arguments)])

theorem reportedOf {v : View} {t : Told} (held : Tracks v t) {item : Document} (reviewed : Reviewed p (doneCalls v) item) :
    Reported p t.calls item := by
  obtain ⟨fields,id,shape,identified,reasoning | message | ⟨function,allowed,name,arguments,named,given,calls⟩⟩ := reviewed
  · exact ⟨fields,id,shape,identified,.inl reasoning⟩
  · exact ⟨fields,id,shape,identified,.inr (.inl message)⟩
  refine ⟨fields,id,shape,identified,.inr (.inr ⟨function,allowed,name,arguments,named,given,?_⟩)⟩
  have known : t.calls.map (fun call => (some call.1,call.2)) = [(some name,arguments)] := by
    rw [← List.reverse_reverse (t.calls.map _),← held.calls]
    exact congrArg List.reverse calls
  obtain ⟨call,only,same⟩ := List.map_eq_singleton_iff.mp known
  obtain ⟨here,there⟩ := Prod.mk.inj same
  rw [only,← Option.some.inj here,← there]

structure Agrees (p : Profile) (payloads : List Document) (response : Fields) : Prop where
  everyItemClosed : ∀ item, item ∈ (told payloads).opened ↔ item ∈ (told payloads).closed
  openedOnce : ((told payloads).opened.map Streamed.itemId).Nodup
  closedOnce : (told payloads).closed.Nodup
  someClosed : (told payloads).closed ≠ []
  created : ∃ id, (told payloads).responses = [id] ∧ (response.get (text "id")).text? = some id
  completed : (response.get (text "status")).isText "completed" = true
  output : ∃ items, response.get (text "output") = .arr items ∧ items ≠ [] ∧ items.length ≤ 3 ∧
    ∀ item ∈ items, Reported p (told payloads).calls item

theorem agreesOf {payloads : List Document} {response : Fields} (held : Tracks (view s) (told payloads))
    (done : Completion p (view s) response) : Agrees p payloads response := by
  refine {
    everyItemClosed := fun item => ⟨fun opened => ?_,held.within item⟩
    openedOnce := held.distinct
    closedOnce := held.once
    someClosed := held.done done.closed
    created := ?_
    completed := done.status
    output := ?_ }
  · by_contra unclosed
    have active := held.active item opened unclosed
    rw [done.idle] at active
    cases active
  · obtain ⟨id,known,same⟩ := done.id
    exact ⟨id,by rw [← held.responses,known]; rfl,same⟩
  · obtain ⟨items,shape,some,few,each⟩ := done.output
    exact ⟨items,shape,some,few,fun item listed => reportedOf held (each item listed)⟩

theorem strictCompleted {fields : Fields} : validateStrictEvent p parseInt fields (text "response.completed") =
    validateCodexResponseEvent p fields (text "response.completed") := by
  have items : among (text "response.completed") outputItemEvents = false := by decide
  have arguments : among (text "response.completed") argumentEvents = false := by decide
  have parts : among (text "response.completed") ["response.reasoning_part.added","response.reasoning_part.done"] = false := by
    decide
  have reasoning : isContentEvent (text "response.completed") = false := by decide
  have contents : among (text "response.completed") ["response.content_part.added","response.content_part.done"] = false := by
    decide
  have texts : among (text "response.completed") ["response.output_text.delta","response.output_text.done"] = false := by
    decide
  have responses : among (text "response.completed") ["response.created","response.in_progress","response.completed"] = true := by
    decide
  simp only [validateStrictEvent,functionItemEvent,items,arguments,parts,reasoning,contents,texts,responses,Bool.false_and,
    Bool.or_false,Bool.and_false,Bool.false_eq_true,if_false,if_true]

-- The exact profile, for any accepted run that ends with the completed response.
theorem completedAgrees (p : Profile) (parseInt : Text → Option ℤ) (search : p.webSearch = false)
    (exact : p.codexReasoningEvents = true) (payloads : List Document) (final : Document)
    (accepted : Accepted p parseInt {} (payloads ++ [final])) (completed : typed final "response.completed" = true) :
    Agrees p payloads (final.fields.get (text "response")).fields := by
  obtain ⟨before,last⟩ := acceptedAppend accepted
  have begun : Tracks (view {}) (told []) := tracksInitial
  have held := tracksRun search exact begun before
  obtain ⟨s',ok,-⟩ := acceptedCons.mp last
  obtain ⟨fields,eventType,after,rfl,shown,ok,-⟩ := strictMeans search exact ok
  have sent : eventType = text "response.completed" := of_decide_eq_true (typedBy shown _ ▸ completed)
  rw [sent,strictCompleted] at ok
  simp only [validateCodexResponseEvent,onlyFields,require,returnsBind,returnsRaiseIf,returnsIte] at ok
  obtain ⟨_,_,⟨-,rfl⟩,⟨-,ok⟩ | ⟨never,-⟩⟩ := ok
  · exact agreesOf held (completionMeans ok).2
  · exact absurd trivial never

def responseEvent (eventType : String) (sequence : ℤ) (response : List (String × Document)) : Document :=
  mapping [("type",word eventType),("sequence_number",.int sequence),
    ("response",mapping (("id",word "resp_1") :: response))]

def itemEvent (eventType : String) (sequence : ℤ) (item : List (String × Document)) : Document :=
  mapping [("type",word eventType),("sequence_number",.int sequence),("output_index",.int 0),("item",mapping item)]

def partEvent (eventType : String) (sequence : ℤ) (itemId : String) (rest : List (String × Document)) : Document :=
  mapping ([("type",word eventType),("sequence_number",.int sequence),("output_index",.int 0),("item_id",word itemId)] ++ rest)

def outputText (s : String) (logprobs : Document) : Document :=
  mapping [("type",word "output_text"),("text",word s),("annotations",.arr []),("logprobs",logprobs)]

def message (id status : String) (content : List Document) : List (String × Document) :=
  [("type",word "message"),("id",word id),("status",word status),("role",word "assistant"),("content",.arr content),
    ("phase",.null)]

def functionCall (id callId status arguments : String) : List (String × Document) :=
  [("type",word "function_call"),("id",word id),("status",word status),("namespace",.null),("name",word "exec"),
    ("arguments",word arguments),("call_id",word callId)]

def created : Document := responseEvent "response.created" 0 [("status",word "in_progress")]

def messageEvents (s : String) : List Document :=
  [created,itemEvent "response.output_item.added" 1 (message "msg_1" "in_progress" []),
    partEvent "response.content_part.added" 2 "msg_1" [("content_index",.int 0),("part",outputText "" (.arr []))],
    partEvent "response.output_text.delta" 3 "msg_1" [("content_index",.int 0),("delta",word s),("logprobs",.arr [])],
    partEvent "response.output_text.done" 4 "msg_1" [("content_index",.int 0),("text",word s),("logprobs",.arr [])],
    partEvent "response.content_part.done" 5 "msg_1" [("content_index",.int 0),("part",outputText s .null)],
    itemEvent "response.output_item.done" 6 (message "msg_1" "completed" [outputText s .null] ++ [("summary",.arr [])])]

def functionEvents : List Document :=
  [created,itemEvent "response.output_item.added" 1 (functionCall "fc_1" "call_1" "in_progress" ""),
    partEvent "response.function_call_arguments.delta" 2 "fc_1" [("delta",word "ab")],
    partEvent "response.function_call_arguments.done" 3 "fc_1" [("name",word "exec"),("arguments",word "ab")],
    itemEvent "response.output_item.done" 4 (functionCall "fc_1" "call_1" "completed" "ab")]

def usage : Document :=
  mapping [("input_tokens",.int 1),("output_tokens",.int 1),("total_tokens",.int 2),
    ("input_tokens_details",mapping [("cached_tokens",.int 0),("input_tokens_per_turn",.arr []),
      ("cached_tokens_per_turn",.arr [])]),
    ("output_tokens_details",mapping [("reasoning_tokens",.int 0),("tool_output_tokens",.int 0),
      ("output_tokens_per_turn",.arr []),("tool_output_tokens_per_turn",.arr [])])]

def completedWith (output : List Document) : Document :=
  responseEvent "response.completed" 7 [("status",word "completed"),("usage",usage),("output",.arr output)]

def functionProfile : Profile where
  codexReasoningEvents := true
  codex0149FunctionToolEvents := true
  declaredClientTools := [(text "functions",text "exec",text "function")]

theorem completedAgreesDemo : Agrees functionProfile functionEvents
    ((completedWith [mapping (functionCall "fc_9" "call_9" "completed" "ab")]).fields.get (text "response")).fields :=
  completedAgrees functionProfile (fun _ => none) rfl rfl functionEvents _
    (List.forall_iff_forall_mem.mp (by decide +kernel)) (by decide +kernel)

-- One message "a" is told; the completed output has another message with another text, before an item never told.
theorem outputDiffersFromStream :
    Accepted { codexReasoningEvents := true } (fun _ => none) {} (messageEvents "a" ++
      [completedWith [mapping (message "msg_9" "completed" [outputText "b" .null]),
        mapping [("type",word "reasoning"),("id",word "rs_9"),("summary",.arr []),("content",.arr []),
          ("encrypted_content",.null),("status",.null)]]]) ∧
    (told (messageEvents "a")).closed = [⟨.message,text "msg_1",0⟩] := by
  refine ⟨List.forall_iff_forall_mem.mp ?_,?_⟩ <;> decide +kernel

end Runs

end SlaifGateway.Responses
