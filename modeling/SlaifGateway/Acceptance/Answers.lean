import SlaifGateway.Library.Keeps
import SlaifGateway.Acceptance.EventValidator

/-! Where the validator does not crash: the texts it measures have no lone surrogate, what it looks up in a set
is no array or object, and the content index it converts is a number. -/
namespace SlaifGateway.Responses
open Library Library.Tx
open Document (hashable)

section Primitives
variable {σ : Type} {inv : σ → Prop} {value : Document} {fields : Fields} {t : Text}

def PlainValue (value : Document) : Prop := ∀ u ∈ value.text?, plainText u = true

abbrev Crashed (e : Refusal) : Prop := e = .crashed

abbrev Calm (inv : σ → Prop) {α : Type} (x : Check σ α) (known : α → Prop) : Prop := Keeps inv Crashed x known

abbrev Quiet (inv : σ → Prop) {α : Type} (x : Check σ α) : Prop := Calm inv x fun _ => True

theorem fieldsOfMapping (mapping : value.mapping? = some fields) : value.fields = fields := by
  cases value with
  | obj _ => exact Option.some.inj mapping
  | _ => cases mapping

theorem calmOr {α : Type} {o : Option α} : Calm inv (orRaise o .rejected) fun a => o = some a :=
  keepsOrRaise (by decide)

theorem calmReject {α : Type} {known : α → Prop} : Calm inv (reject : Check σ α) known := keepsThrow (by decide)

theorem quietRequire {c : Prop} {_ : Decidable c} : Quiet inv (require c) :=
  keepsMono (keepsRaiseIf (by decide)) fun _ _ => trivial

theorem quietPure {α : Type} {a : α} : Quiet inv (pure a : Check σ α) := keepsPure trivial

theorem quietOf {α : Type} {x : Check σ α} {known : α → Prop} (calm : Calm inv x known) : Quiet inv x :=
  keepsMono calm fun _ _ => trivial

theorem quietLength (plain : plainText t = true) : Quiet inv (utf8Length t) := quietOf (keepsFound (plainEncodes plain))

theorem quietBounded (plain : plainText t = true) {maxBytes : ℕ} : Quiet inv (boundedUtf8 t maxBytes) :=
  keepsThen (quietLength plain) fun _ => quietRequire

theorem calmText (plain : PlainValue value) {maxBytes : ℕ} :
    Calm inv (boundedText value maxBytes) fun u => plainText u = true :=
  keepsBind calmOr fun u shown => keepsThen (quietBounded (plain u shown)) fun _ => keepsPure (plain u shown)

theorem quietName (plain : PlainValue value) : Quiet inv (boundedName value) :=
  keepsBind calmOr fun u shown => keepsThen quietRequire fun _ => keepsThen (quietBounded (plain u shown)) fun _ =>
    quietPure

theorem quietOneOf (fine : hashable value = true) {names : List String} : Quiet inv (oneOf value names) := by
  unfold oneOf
  cases value with
  | arr _ => cases fine
  | obj _ => cases fine
  | str t => exact quietRequire
  | _ => exact calmReject

theorem quietAbsentOrOneOf (fine : hashable value = true) {names : List String} :
    Quiet inv (absentOrOneOf value names) :=
  keepsIte (fun _ => quietPure) fun _ => quietOneOf fine

theorem quietOptionalIdentifier : Quiet inv (optionalIdentifier value) :=
  keepsIte (fun _ => quietPure) fun _ => keepsMap calmOr fun _ _ => trivial

theorem quietOptionalIndex {name : String} : Quiet inv (optionalIndex fields name) :=
  keepsIte (fun _ => keepsThen calmOr fun _ => quietPure) fun _ => quietPure

theorem calmList : Calm inv (boundedList value) fun items => value.items? = some items :=
  keepsBind calmOr fun _ shown => keepsThen quietRequire fun _ => keepsPure shown

end Primitives

section Items
variable {σ : Type} {inv : σ → Prop} {item : Fields}

def PlainParts (value : Document) : Prop := ∀ t ∈ partTexts value, plainText t = true

theorem plainPart {part : Document} {parts : List Document} {value : Document} (plain : PlainParts value)
    (shown : value.items? = some parts) (listed : part ∈ parts) : PlainValue (part.fields.get (text "text")) := by
  intro t found
  refine plain t (List.mem_filterMap.mpr ⟨part,by simpa [shown] using listed,?_⟩)
  cases part with
  | obj fields => exact found
  | _ => cases found

theorem quietTextParts {allowed : List String} {expectedType : String} {parts : List Document}
    (plain : ∀ part ∈ parts, PlainValue (part.fields.get (text "text"))) :
    Quiet inv (textParts allowed expectedType parts) := by
  induction parts with
  | nil => exact quietPure
  | cons part rest ih =>
    have later := ih fun other listed => plain other (List.mem_cons_of_mem _ listed)
    have here := plain part List.mem_cons_self
    refine keepsBind calmOr fun fields mapping => keepsThen quietRequire fun _ => keepsThen quietRequire fun _ => ?_
    rw [fieldsOfMapping mapping] at here
    refine keepsBind (calmText here) fun t plainT => ?_
    exact keepsThen (quietLength plainT) fun _ => keepsThen later fun _ => quietPure

theorem quietAssistantMessage (status : hashable (item.get (text "status")) = true)
    (phase : hashable (item.get (text "phase")) = true) (content : PlainParts (item.get (text "content"))) :
    Quiet inv (validateAssistantMessageItem item) := by
  refine keepsThen quietRequire fun _ => keepsThen quietRequire fun _ => keepsThen (quietAbsentOrOneOf status) fun _ => ?_
  refine keepsThen (quietAbsentOrOneOf phase) fun _ => keepsBind calmList fun parts shown => ?_
  exact keepsThen (quietTextParts fun part listed => plainPart content shown listed) fun _ => quietRequire

theorem calmReasoningPart {part : Fields} {expectedType : String} (plain : PlainValue (part.get (text "text"))) :
    Calm inv (validateReasoningTextPart part expectedType) fun u => plainText u = true :=
  keepsThen quietRequire fun _ => keepsThen quietRequire fun _ => calmText plain

theorem calmOutputPart {part : Document} {logprobs : Document → Bool}
    (plain : PlainValue (part.fields.get (text "text"))) :
    Calm inv (validateOutputTextPart part logprobs) fun u => plainText u = true := by
  refine keepsBind calmOr fun fields mapping => keepsThen quietRequire fun _ => keepsThen quietRequire fun _ => ?_
  rw [fieldsOfMapping mapping] at plain
  refine keepsBind (calmText plain) fun t plainT => ?_
  exact keepsThen quietRequire fun _ => keepsThen quietRequire fun _ => keepsPure plainT

theorem quietReasoningTexts (summary : PlainParts (item.get (text "summary")))
    (content : PlainParts (item.get (text "content"))) : Quiet inv (reasoningTexts item) := by
  refine keepsBind calmList fun parts shown => ?_
  refine keepsThen (quietTextParts fun part listed => plainPart summary shown listed) fun _ => ?_
  refine keepsIte (fun _ => quietRequire) fun _ => keepsBind calmList fun parts shown => ?_
  exact keepsThen (quietTextParts fun part listed => plainPart content shown listed) fun _ => quietRequire

variable (status : hashable (item.get (text "status")) = true) (summary : PlainParts (item.get (text "summary")))
  (content : PlainParts (item.get (text "content"))) (encrypted : PlainValue (item.get (text "encrypted_content")))
include status summary content

theorem quietVisibleReasoning : Quiet inv (validateVisibleReasoningItem item) :=
  keepsThen quietRequire fun _ => keepsThen (quietAbsentOrOneOf status) fun _ => keepsThen quietRequire fun _ =>
    quietReasoningTexts summary content

include encrypted
omit status in
theorem quietEncryptedReasoning : Quiet inv (validateEncryptedReasoningItem item) := by
  refine keepsThen quietRequire fun _ => keepsThen calmOr fun _ => keepsBind calmOr fun t shown => ?_
  have plain := encrypted t shown
  refine keepsThen quietRequire fun _ => keepsThen (quietBounded plain) fun _ => keepsThen (quietLength plain) fun _ => ?_
  exact keepsThen (quietReasoningTexts summary content) fun _ => quietPure

theorem quietReasoningItem {done encryptedReplay allowVisibleReasoning : Bool} :
    Quiet inv (validateReasoningItem item done encryptedReplay allowVisibleReasoning) := by
  refine keepsIte (fun _ => ?_) fun _ => keepsIte (fun _ => quietEncryptedReasoning summary content encrypted) fun _ => ?_
  · exact keepsThen quietRequire fun _ => keepsThen quietRequire fun _ =>
      keepsThen (quietVisibleReasoning status summary content) fun _ => quietPure
  · exact keepsThen (quietVisibleReasoning status summary content) fun _ => quietPure

end Items

section Progress
variable {σ : Type} {inv : σ → Prop} {payload response usage : Fields}

theorem quietProgress (status : hashable ((payload.get (text "response")).fields.get (text "status")) = true)
    (model : PlainValue ((payload.get (text "response")).fields.get (text "model"))) :
    Quiet inv (validateResponseProgressEvent payload) := by
  refine keepsThen quietRequire fun _ => keepsThen quietOptionalIndex fun _ => keepsBind calmOr fun fields mapping => ?_
  rw [fieldsOfMapping mapping] at status model
  refine keepsThen calmOr fun _ => keepsThen quietRequire fun _ => keepsThen (quietAbsentOrOneOf status) fun _ => ?_
  refine keepsThen quietRequire fun _ => keepsIte (fun _ => quietPure) fun _ => ?_
  exact keepsThen (quietName model) fun _ => quietPure

theorem calmCompleted (status : hashable ((payload.get (text "response")).fields.get (text "status")) = true) :
    Calm inv (validateResponseCompletedEvent payload) fun r => (payload.get (text "response")).fields = r := by
  refine keepsBind calmOr fun fields mapping => ?_
  rw [fieldsOfMapping mapping] at status ⊢
  exact keepsThen quietRequire fun _ => keepsThen (quietAbsentOrOneOf status) fun _ => keepsPure rfl

theorem quietUsage : Quiet inv (validateCompletedUsage usage) := by
  refine keepsThen quietRequire fun _ => keepsThen calmOr fun _ => keepsThen calmOr fun _ => keepsThen calmOr fun _ => ?_
  refine keepsThen calmOr fun _ => keepsThen quietRequire fun _ => keepsThen quietRequire fun _ => ?_
  refine keepsThen quietRequire fun _ => keepsThen calmOr fun _ => keepsThen quietRequire fun _ => ?_
  exact keepsThen quietRequire fun _ => keepsThen quietRequire fun _ => keepsThen quietRequire fun _ => quietRequire

theorem quietEnvelope : Quiet inv (validateResponseEnvelope response) :=
  keepsThen quietRequire fun _ => keepsThen quietRequire fun _ => keepsThen calmOr fun _ => quietRequire

end Progress

section Steps
variable {p : Profile} {payload item : Fields} {eventType itemId : Text} {outputIndex : ℕ} {key : Part}

-- Every text that the validator has gathered.
structure PlainState (s : Validator) : Prop where
  items : ∀ entry ∈ s.activeItems, plainText entry.2.deltaText = true
  reasoning : ∀ entry ∈ s.reasoningDeltas, plainText entry.2 = true
  messages : ∀ entry ∈ s.messageTextDeltas, plainText entry.2 = true

abbrev CalmStep {α : Type} (x : Step α) (known : α → Prop) : Prop := Calm PlainState x known

abbrev QuietStep {α : Type} (x : Step α) : Prop := Quiet PlainState x

theorem putKeeps {κ υ : Type} [DecidableEq κ] {d : Dict κ υ} {k : κ} {v : υ} (good : υ → Prop) (new : good v)
    (held : ∀ entry ∈ d, good entry.2) : ∀ entry ∈ d.put k v, good entry.2 := by
  intro entry listed
  rcases List.mem_cons.mp listed with rfl | old
  · exact new
  · exact held entry (List.mem_filter.mp old).1

theorem dropKeeps {κ υ : Type} [DecidableEq κ] {d : Dict κ υ} {k : κ} (good : υ → Prop)
    (held : ∀ entry ∈ d, good entry.2) : ∀ entry ∈ d.drop k, good entry.2 :=
  fun entry listed => held entry (List.mem_filter.mp listed).1

theorem lookupListed {κ υ : Type} [BEq κ] [LawfulBEq κ] {d : Dict κ υ} {k : κ} {v : υ} (found : d.lookup k = some v) :
    (k,v) ∈ d := by
  induction d with
  | nil => cases found
  | cons entry rest ih =>
    rw [List.lookup_cons] at found
    split at found
    · next same =>
      obtain rfl := Option.some.inj found
      obtain rfl := eq_of_beq same
      exact List.mem_cons_self
    · exact List.mem_cons_of_mem _ (ih found)

theorem plainLookup {κ : Type} [BEq κ] [LawfulBEq κ] {d : Dict κ Text} {k : κ}
    (held : ∀ entry ∈ d, plainText entry.2 = true) : plainText ((d.lookup k).getD []) = true := by
  cases found : d.lookup k with
  | none => rfl
  | some t => exact held (k,t) (lookupListed found)

theorem calmCurrent : CalmStep current PlainState :=
  keepsMono keepsReading fun _ ⟨_,held,same⟩ => same ▸ held

theorem quietChange {f : Validator → Validator} (keeps : ∀ s, PlainState s → PlainState (f s)) :
    QuietStep (change f) := fun s held => ⟨keeps s held,trivial⟩

-- A change that leaves the gathered texts alone.
theorem quietMark {f : Validator → Validator} (items : ∀ s, (f s).activeItems = s.activeItems)
    (others : ∀ s, (f s).reasoningDeltas = s.reasoningDeltas ∧ (f s).messageTextDeltas = s.messageTextDeltas) :
    QuietStep (change f) :=
  quietChange fun s held => by
    constructor
    · exact items s ▸ held.items
    · exact (others s).left ▸ held.reasoning
    · exact (others s).right ▸ held.messages

theorem quietSequence : QuietStep (acceptStrictSequence payload) :=
  keepsThen calmOr fun _ => keepsThen calmCurrent fun _ => keepsThen quietRequire fun _ => quietMark (fun _ => rfl) fun _ => ⟨rfl,rfl⟩

theorem calmActive {itemType : ItemType} :
    CalmStep (activeItem itemId itemType) fun state => plainText state.deltaText = true :=
  keepsBind calmCurrent fun _ held => keepsBind calmOr fun _ found => keepsThen quietRequire fun _ =>
    keepsPure (held.items _ (lookupListed found))

theorem quietCapture {state : ItemState} : QuietStep (captureReplayCandidate p itemId state) :=
  keepsIte (fun _ => quietPure) fun _ => quietMark (fun _ => rfl) fun _ => ⟨rfl,rfl⟩

-- The item is put in with a plain text.
theorem quietHeld {f : Validator → Validator} {state : ItemState} (plain : plainText state.deltaText = true)
    (items : ∀ s, (f s).activeItems = s.activeItems.put itemId state)
    (others : ∀ s, (f s).reasoningDeltas = s.reasoningDeltas ∧ (f s).messageTextDeltas = s.messageTextDeltas) :
    QuietStep (change f) :=
  quietChange fun s held => by
    constructor
    · rw [items s]
      exact putKeeps (fun state : ItemState => plainText state.deltaText = true) plain held.items
    · exact (others s).left ▸ held.reasoning
    · exact (others s).right ▸ held.messages

theorem quietOpened {f : Validator → Validator} {state : ItemState}
    (items : ∀ s, (f s).activeItems = s.activeItems.put itemId state) (fresh : state.deltaText = [])
    (others : ∀ s, (f s).reasoningDeltas = s.reasoningDeltas ∧ (f s).messageTextDeltas = s.messageTextDeltas) :
    QuietStep (change f) :=
  quietHeld (by rw [fresh]; rfl) items others

theorem quietClosed {f : Validator → Validator} (items : ∀ s, (f s).activeItems = s.activeItems.drop itemId)
    (others : ∀ s, (f s).reasoningDeltas = s.reasoningDeltas ∧ (f s).messageTextDeltas = s.messageTextDeltas) :
    QuietStep (change f) :=
  quietChange fun s held => by
    constructor
    · rw [items s]
      exact dropKeeps (fun state : ItemState => plainText state.deltaText = true) held.items
    · exact (others s).left ▸ held.reasoning
    · exact (others s).right ▸ held.messages

end Steps

section Items
variable {p : Profile} {payload item : Fields} {eventType itemId : Text} {outputIndex : ℕ} {key : Part} {shown : Text}

theorem quietReasoningOutput : QuietStep (validateCodexReasoningOutputItem payload eventType) := by
  refine keepsThen quietRequire fun _ => keepsThen calmOr fun _ => keepsThen calmOr fun _ => keepsThen calmOr fun _ => ?_
  refine keepsThen quietRequire fun _ => keepsThen calmOr fun _ => keepsThen quietRequire fun _ => ?_
  refine keepsThen quietRequire fun _ => keepsThen quietSequence fun _ => keepsIte (fun _ => ?_) fun _ => ?_
  · refine keepsThen calmCurrent fun _ => keepsThen quietRequire fun _ => keepsThen quietRequire fun _ => ?_
    refine keepsThen quietRequire fun _ => keepsThen quietRequire fun _ => keepsThen quietRequire fun _ => ?_
    exact quietClosed (fun _ => rfl) fun _ => ⟨rfl,rfl⟩
  · refine keepsThen quietRequire fun _ => keepsThen quietRequire fun _ => keepsThen calmCurrent fun _ => ?_
    exact keepsThen quietRequire fun _ => quietOpened (fun _ => rfl) rfl fun _ => ⟨rfl,rfl⟩

theorem quietMessageOutput : QuietStep (validateCodexMessageOutputItem payload eventType) := by
  refine keepsThen quietRequire fun _ => keepsThen calmOr fun _ => keepsThen calmOr fun _ => keepsThen calmOr fun _ => ?_
  refine keepsThen quietRequire fun _ => keepsThen calmOr fun _ => keepsThen quietRequire fun _ => ?_
  refine keepsThen quietSequence fun _ => keepsIte (fun _ => ?_) fun _ => ?_
  · refine keepsThen calmCurrent fun _ => keepsThen quietRequire fun _ => keepsThen quietRequire fun _ => ?_
    refine keepsThen quietRequire fun _ => keepsThen quietRequire fun _ => keepsThen quietRequire fun _ => ?_
    exact quietClosed (fun _ => rfl) fun _ => ⟨rfl,rfl⟩
  · refine keepsThen quietRequire fun _ => keepsThen quietRequire fun _ => keepsThen calmCurrent fun _ => ?_
    exact keepsThen quietRequire fun _ => quietOpened (fun _ => rfl) rfl fun _ => ⟨rfl,rfl⟩

theorem quietContentPart (part : PlainValue ((payload.get (text "part")).fields.get (text "text"))) :
    QuietStep (validateCodexMessageContentPart payload eventType) := by
  refine keepsThen quietRequire fun _ => keepsThen calmOr fun _ => keepsThen calmOr fun _ => keepsThen calmOr fun _ => ?_
  refine keepsThen calmOr fun _ => keepsThen calmActive fun _ => keepsThen calmCurrent fun _ => ?_
  refine keepsThen quietRequire fun _ => keepsThen (calmOutputPart part) fun _ => keepsThen quietSequence fun _ => ?_
  refine keepsIte (fun _ => ?_) fun _ => ?_
  · exact keepsThen calmCurrent fun _ => keepsThen quietRequire fun _ => keepsThen quietRequire fun _ => quietMark (fun _ => rfl) fun _ => ⟨rfl,rfl⟩
  · refine keepsThen calmCurrent fun _ => keepsThen quietRequire fun _ => keepsThen quietRequire fun _ => ?_
    exact keepsThen quietRequire fun _ => quietMark (fun _ => rfl) fun _ => ⟨rfl,rfl⟩

theorem quietAddMessageText (delta : PlainValue (payload.get (text "delta"))) : QuietStep (addMessageText payload key) := by
  refine keepsBind calmCurrent fun s held => keepsThen quietRequire fun _ => keepsBind (calmText delta) fun t plain => ?_
  have joined := plainAppend (plainLookup (k := key) held.messages) plain
  refine keepsThen (quietBounded joined) fun _ => quietChange fun after kept => ?_
  exact ⟨kept.items,kept.reasoning,putKeeps (fun t => plainText t = true) joined kept.messages⟩

theorem quietMessageText (delta : PlainValue (payload.get (text "delta"))) (shown : PlainValue (payload.get (text "text"))) :
    QuietStep (validateCodexMessageTextEvent payload eventType) := by
  refine keepsThen quietRequire fun _ => keepsThen calmOr fun _ => keepsThen calmOr fun _ => keepsThen calmOr fun _ => ?_
  refine keepsThen calmOr fun _ => keepsThen quietRequire fun _ => keepsThen calmActive fun _ => ?_
  refine keepsThen calmCurrent fun _ => keepsThen quietRequire fun _ => keepsThen quietRequire fun _ => ?_
  refine keepsThen quietSequence fun _ => keepsThen quietRequire fun _ => ?_
  refine keepsIte (fun _ => quietAddMessageText delta) fun _ => keepsThen calmCurrent fun _ => ?_
  refine keepsThen quietRequire fun _ => keepsThen (calmText shown) fun _ => keepsThen quietRequire fun _ => ?_
  exact keepsThen quietRequire fun _ => quietMark (fun _ => rfl) fun _ => ⟨rfl,rfl⟩

theorem quietReasoningPartEvent (part : PlainValue ((payload.get (text "part")).fields.get (text "text"))) :
    QuietStep (validateReasoningPartEvent payload eventType) := by
  refine keepsThen quietRequire fun _ => keepsThen calmOr fun _ => keepsThen calmOr fun _ => keepsThen calmOr fun _ => ?_
  refine keepsThen quietSequence fun _ => keepsThen calmActive fun _ => keepsThen calmCurrent fun _ => ?_
  refine keepsThen quietRequire fun _ => keepsBind calmOr fun fields mapping => ?_
  rw [fieldsOfMapping mapping] at part
  refine keepsThen (calmReasoningPart part) fun _ => keepsIte (fun _ => ?_) fun _ => ?_
  · exact keepsThen calmCurrent fun _ => keepsThen quietRequire fun _ => keepsThen quietRequire fun _ => quietMark (fun _ => rfl) fun _ => ⟨rfl,rfl⟩
  · refine keepsThen calmCurrent fun _ => keepsThen quietRequire fun _ => keepsThen quietRequire fun _ => ?_
    exact keepsThen quietRequire fun _ => quietMark (fun _ => rfl) fun _ => ⟨rfl,rfl⟩

theorem calmTelling : CalmStep (tellingFunction itemId outputIndex) fun state => plainText state.deltaText = true :=
  keepsBind calmActive fun _ plain => keepsThen calmCurrent fun _ => keepsThen quietRequire fun _ =>
    keepsThen quietRequire fun _ => keepsPure plain

theorem quietArgumentsDelta (delta : PlainValue (payload.get (text "delta"))) :
    QuietStep (functionArgumentsDelta payload) := by
  refine keepsThen quietRequire fun _ => keepsThen calmOr fun _ => keepsThen calmOr fun _ => ?_
  refine keepsBind calmTelling fun state plain => keepsBind calmOr fun t shown => keepsThen quietRequire fun _ => ?_
  have joined := plainAppend plain (delta t shown)
  refine keepsThen (quietBounded (delta t shown)) fun _ => keepsThen (quietBounded joined) fun _ => ?_
  exact keepsThen quietSequence fun _ => quietHeld joined (fun _ => rfl) fun _ => ⟨rfl,rfl⟩

theorem quietArgumentsDone (name : PlainValue (payload.get (text "name")))
    (arguments : PlainValue (payload.get (text "arguments"))) : QuietStep (functionArgumentsDone payload) := by
  refine keepsThen quietRequire fun _ => keepsThen calmOr fun _ => keepsThen calmOr fun _ => ?_
  refine keepsThen (quietName name) fun _ => keepsThen (calmText arguments) fun _ => keepsThen calmActive fun _ => ?_
  refine keepsThen calmCurrent fun _ => keepsThen quietRequire fun _ => keepsThen quietRequire fun _ => ?_
  exact keepsThen quietRequire fun _ => keepsThen quietSequence fun _ => quietMark (fun _ => rfl) fun _ => ⟨rfl,rfl⟩

theorem quietFunctionItem (name : PlainValue (item.get (text "name"))) (arguments : PlainValue (item.get (text "arguments"))) :
    QuietStep (functionItem item) := by
  refine keepsThen quietRequire fun _ => keepsThen calmOr fun _ => keepsThen calmOr fun _ => ?_
  refine keepsThen (quietName name) fun _ => keepsThen quietRequire fun _ => keepsThen (calmText arguments) fun _ => ?_
  exact quietPure

theorem quietFunctionOutput (name : PlainValue ((payload.get (text "item")).fields.get (text "name")))
    (arguments : PlainValue ((payload.get (text "item")).fields.get (text "arguments"))) :
    QuietStep (validateCodexFunctionOutputItem p payload eventType) := by
  refine keepsThen quietRequire fun _ => keepsThen calmOr fun _ => keepsThen calmOr fun _ => ?_
  refine keepsBind calmOr fun item mapping => ?_
  rw [fieldsOfMapping mapping] at name arguments
  refine keepsThen (quietFunctionItem name arguments) fun _ => keepsThen quietSequence fun _ => ?_
  refine keepsIte (fun _ => ?_) fun _ => ?_
  · refine keepsThen quietRequire fun _ => keepsThen calmActive fun _ => keepsThen calmCurrent fun _ => ?_
    refine keepsThen quietRequire fun _ => keepsThen quietRequire fun _ => keepsThen quietRequire fun _ => ?_
    exact keepsThen (quietClosed (fun _ => rfl) fun _ => ⟨rfl,rfl⟩) fun _ => quietCapture
  · refine keepsThen calmCurrent fun _ => keepsThen quietRequire fun _ => keepsThen quietRequire fun _ => ?_
    exact keepsThen quietRequire fun _ => keepsThen quietRequire fun _ => quietOpened (fun _ => rfl) rfl fun _ => ⟨rfl,rfl⟩

end Items

section Completion
variable {p : Profile} {payload item : Fields} {eventType : Text}

def PlainTexts (texts : List Text) : Prop := ∀ t ∈ texts, plainText t = true

theorem plainAt {fields : Fields} {keys : List String} {key : String} (plain : PlainTexts (textsAt fields keys))
    (listed : key ∈ keys) : PlainValue (fields.get (text key)) :=
  fun t shown => plain t (List.mem_filterMap.mpr ⟨key,listed,shown⟩)

theorem quietSumParts {check : Document → Step ℕ} {parts : List Document} (each : ∀ part ∈ parts, QuietStep (check part)) :
    QuietStep (sumParts check parts) := by
  induction parts with
  | nil => exact quietPure
  | cons part rest ih =>
    have later := ih fun other listed => each other (List.mem_cons_of_mem _ listed)
    exact keepsThen (each part List.mem_cons_self) fun _ => keepsThen later fun _ => quietPure

theorem quietReasoningOutputItem (content : PlainParts (item.get (text "content"))) :
    QuietStep (reasoningOutputItem item) := by
  refine keepsThen quietRequire fun _ => keepsThen quietRequire fun _ => keepsBind calmList fun parts shown => ?_
  refine quietSumParts fun part listed => ?_
  have plain := plainPart content shown listed
  refine keepsBind calmOr fun fields mapping => keepsThen quietRequire fun _ => keepsThen quietRequire fun _ => ?_
  rw [fieldsOfMapping mapping] at plain
  exact keepsBind (calmText plain) fun _ plainT => quietLength plainT

theorem quietMessageOutputItem (content : PlainParts (item.get (text "content"))) :
    QuietStep (messageOutputItem item) := by
  refine keepsThen quietRequire fun _ => keepsThen quietRequire fun _ => keepsBind calmList fun parts shown => ?_
  refine keepsThen quietRequire fun _ => quietSumParts fun part listed => ?_
  exact keepsBind (calmOutputPart (plainPart content shown listed)) fun _ plainT => quietLength plainT

theorem quietFunctionOutputItem (name : PlainValue (item.get (text "name")))
    (arguments : PlainValue (item.get (text "arguments"))) : QuietStep (functionOutputItem p item) := by
  refine keepsThen quietRequire fun _ => keepsThen quietRequire fun _ => keepsThen quietRequire fun _ => ?_
  refine keepsThen (quietName name) fun _ => keepsThen calmOr fun _ => keepsBind (calmText arguments) fun _ plain => ?_
  exact keepsThen calmCurrent fun _ => keepsThen quietRequire fun _ => quietLength plain

-- The texts of an item of a completed response.
def outputItemTexts (item : Document) : List Text :=
  textsAt item.fields ["name","arguments"] ++ partTexts (item.fields.get (text "content"))

theorem quietOutputItem {item : Document} (plain : PlainTexts (outputItemTexts item)) :
    QuietStep (validateCodexCompletedOutputItem p item) := by
  refine keepsBind calmOr fun fields mapping => ?_
  rw [outputItemTexts,fieldsOfMapping mapping] at plain
  obtain ⟨named,content⟩ := List.forall_mem_append.mp plain
  refine keepsThen calmOr fun _ => keepsIte (fun _ => quietReasoningOutputItem content) fun _ => ?_
  refine keepsIte (fun _ => ?_) fun _ => quietMessageOutputItem content
  exact quietFunctionOutputItem (plainAt named (by decide)) (plainAt named (by decide))

theorem quietOutputItems {items : List Document} (plain : ∀ item ∈ items, PlainTexts (outputItemTexts item)) (total : ℕ) :
    QuietStep (completedOutputItems p total items) := by
  induction items generalizing total with
  | nil => exact quietPure
  | cons item rest ih =>
    have later := ih fun other listed => plain other (List.mem_cons_of_mem _ listed)
    exact keepsThen (quietOutputItem (plain item List.mem_cons_self)) fun _ => keepsThen quietRequire fun _ => later _

def outputTexts (output : Document) : List Text := (output.items?.getD []).flatMap outputItemTexts

theorem quietOutput {output : Document} (plain : PlainTexts (outputTexts output)) :
    QuietStep (validateCodexCompletedOutput p output) := by
  refine keepsBind calmOr fun items shown => keepsThen quietRequire fun _ => quietOutputItems (fun item listed t named => ?_) 0
  rw [outputTexts,shown] at plain
  exact plain t (List.mem_flatMap.mpr ⟨item,listed,named⟩)

theorem quietStart {responseId : Text} {status : Document} (fine : hashable status = true) :
    QuietStep (startResponse eventType responseId status) := by
  refine keepsThen calmCurrent fun _ => keepsIte (fun _ => ?_) fun _ => quietRequire
  exact keepsThen quietRequire fun _ => keepsThen (quietOneOf fine) fun _ => quietMark (fun _ => rfl) fun _ => ⟨rfl,rfl⟩

theorem quietResponseEvent (status : hashable ((payload.get (text "response")).fields.get (text "status")) = true)
    (model : eventType ≠ text "response.completed" →
      PlainValue ((payload.get (text "response")).fields.get (text "model")))
    (output : eventType = text "response.completed" →
      PlainTexts (outputTexts ((payload.get (text "response")).fields.get (text "output")))) :
    QuietStep (validateCodexResponseEvent p payload eventType) := by
  refine keepsThen quietRequire fun _ => keepsIte (fun completed => ?_) fun going => ?_
  · refine keepsBind (calmCompleted status) fun response same => keepsThen calmOr fun _ => keepsThen calmCurrent fun _ => ?_
    have plain := output completed
    rw [same] at plain
    refine keepsThen quietRequire fun _ => keepsThen quietRequire fun _ => keepsThen quietEnvelope fun _ => ?_
    refine keepsThen calmOr fun _ => keepsThen quietUsage fun _ => keepsThen (quietOutput plain) fun _ => ?_
    exact keepsThen quietSequence fun _ => quietMark (fun _ => rfl) fun _ => ⟨rfl,rfl⟩
  · refine keepsThen (quietProgress status (model going)) fun _ => keepsThen calmOr fun _ => ?_
    refine keepsThen quietEnvelope fun _ => keepsThen quietRequire fun _ => keepsThen quietRequire fun _ => ?_
    exact keepsThen (quietStart status) fun _ => quietSequence

end Completion

section Reasoning
variable {p : Profile} {parseInt : Text → Option ℤ} {payload : Fields} {eventType itemId : Text} {strictCodex : Bool}

theorem quietAddReasoning {key : Text × Bool × ℕ} {value : Text} (plain : plainText value = true) :
    QuietStep (addReasoningText key value strictCodex) := by
  refine keepsBind calmCurrent fun s held => keepsThen quietRequire fun _ => ?_
  have joined := plainAppend (plainLookup (k := key) held.reasoning) plain
  refine keepsThen (quietBounded joined) fun _ => quietChange fun after kept => ?_
  exact ⟨kept.items,putKeeps (fun t => plainText t = true) joined kept.reasoning,kept.messages⟩

theorem quietEndReasoning {key : Text × Bool × ℕ} {value : Text} : QuietStep (endReasoningText key value strictCodex) := by
  refine keepsThen calmCurrent fun _ => keepsIte (fun _ => ?_) fun _ => quietRequire
  exact keepsThen quietRequire fun _ => keepsThen quietRequire fun _ => keepsThen quietRequire fun _ => quietMark (fun _ => rfl) fun _ => ⟨rfl,rfl⟩

theorem quietReasoningText (delta : PlainValue (payload.get (text "delta"))) (shown : PlainValue (payload.get (text "text")))
    (index : strictCodex = true → (toInt parseInt (payload.get? (text "content_index"))).isSome) :
    QuietStep (reasoningText parseInt payload eventType itemId strictCodex) := by
  refine keepsIte (fun strict => keepsThen (keepsThen (keepsFound (index strict)) fun _ => quietRequire) fun _ => ?_)
    fun _ => ?_
  all_goals
    refine keepsThen calmOr fun _ => keepsIte (fun _ => ?_) fun _ => ?_
    · exact keepsThen (calmText shown) fun _ => quietEndReasoning
    · exact keepsBind (calmText delta) fun _ plain => quietAddReasoning plain

theorem quietReasoningEvent (delta : PlainValue (payload.get (text "delta"))) (shown : PlainValue (payload.get (text "text")))
    (part : eventType = text "response.reasoning_summary_part.added" →
      PlainValue ((payload.get (text "part")).fields.get (text "text")))
    (index : strictCodex = true → (toInt parseInt (payload.get? (text "content_index"))).isSome) :
    QuietStep (validateReasoningEvent p parseInt payload eventType strictCodex) := by
  refine keepsThen quietRequire fun _ => keepsThen calmOr fun _ => keepsThen quietRequire fun _ => ?_
  refine keepsIte (fun _ => keepsThen quietSequence fun _ => ?_) fun _ => keepsThen quietOptionalIndex fun _ => ?_
  all_goals
    refine keepsThen calmActive fun _ => keepsThen calmCurrent fun _ => keepsThen quietRequire fun _ => ?_
    refine keepsIte (fun added => ?_) fun _ => quietReasoningText delta shown index
    have plain := part added
    refine keepsThen calmOr fun _ => keepsBind calmOr fun fields mapping => ?_
    rw [fieldsOfMapping mapping] at plain
    exact keepsThen (calmReasoningPart plain) fun _ => quietPure

end Reasoning

section Codex
variable {p : Profile} {parseInt : Text → Option ℤ} {payload item : Fields} {eventType : Text} {done : Bool}

structure PlainMessage (item : Fields) : Prop where
  status : hashable (item.get (text "status")) = true
  phase : (item.get (text "type")).isText "message" = true → hashable (item.get (text "phase")) = true
  content : PlainParts (item.get (text "content"))

structure PlainItem (item : Fields) : Prop extends PlainMessage item where
  named : PlainTexts (textsAt item ["name","namespace"])
  bodies : PlainTexts (textsAt item ["arguments","input","encrypted_content"])
  summary : PlainParts (item.get (text "summary"))

-- The state an item is given has gathered no text.
theorem calmTool (plain : PlainItem item) {itemType : ItemType} {textField toolType : String}
    (body : textField ∈ ["arguments","input"]) :
    CalmStep (toolItem p item itemType textField toolType) fun state => state.deltaText = [] := by
  have known : PlainValue (item.get (text textField)) := plainAt plain.bodies (List.mem_append_left ["encrypted_content"] body)
  have toolNamespace : QuietStep (optionalName (item.get (text "namespace"))) := keepsIte (fun _ => quietPure) fun _ =>
    keepsMap (quietName (plainAt plain.named (by decide))) fun _ _ => trivial
  refine keepsThen quietRequire fun _ => keepsThen (quietAbsentOrOneOf plain.status) fun _ => keepsThen calmOr fun _ => ?_
  refine keepsThen (quietName (plainAt plain.named (by decide))) fun _ => keepsThen toolNamespace fun _ => ?_
  refine keepsThen (calmText known) fun _ => keepsThen calmOr fun _ => keepsThen quietRequire fun _ => ?_
  exact keepsPure rfl

theorem calmReasoning (plain : PlainItem item) :
    CalmStep (reasoningItem p item done) fun state => state.deltaText = [] := by
  have encrypted : PlainValue (item.get (text "encrypted_content")) := plainAt plain.bodies (by decide)
  refine keepsThen (quietReasoningItem plain.status plain.summary plain.content encrypted) fun _ => ?_
  exact keepsThen calmCurrent fun _ => keepsThen quietRequire fun _ => keepsThen (quietMark (fun _ => rfl) fun _ => ⟨rfl,rfl⟩) fun _ => keepsPure rfl

theorem calmShape (plain : PlainItem item) :
    CalmStep (validateItemShape p item done) fun state => state.deltaText = [] := by
  refine keepsIte (fun _ => calmTool plain (by decide)) fun _ => keepsIte (fun _ => calmTool plain (by decide)) fun _ => ?_
  refine keepsIte (fun message => ?_) fun _ => keepsIte (fun _ => calmReasoning plain) fun _ => calmReject
  exact keepsThen (quietAssistantMessage plain.status (plain.phase message) plain.content) fun _ => keepsPure rfl

theorem quietWhole {itemId : Option Text} {state : ItemState} : QuietStep (wholeOutputItem p itemId state) := by
  refine keepsThen calmCurrent fun _ => keepsThen quietRequire fun _ => keepsThen (quietMark (fun _ => rfl) fun _ => ⟨rfl,rfl⟩) fun _ => ?_
  refine keepsThen quietRequire fun _ => keepsThen (quietMark (fun _ => rfl) fun _ => ⟨rfl,rfl⟩) fun _ => ?_
  cases itemId with
  | some id => exact quietCapture
  | none => exact quietPure

theorem quietEnd {itemId : Option Text} {state : ItemState} : QuietStep (endOutputItem p item itemId state) := by
  refine keepsThen calmCurrent fun s => ?_
  split
  · refine keepsThen calmCurrent fun _ => keepsThen quietRequire fun _ => keepsThen quietRequire fun _ => ?_
    exact keepsThen (quietClosed (fun _ => rfl) fun _ => ⟨rfl,rfl⟩) fun _ => quietCapture
  · exact keepsThen quietRequire fun _ => quietWhole

theorem quietOutputItemEvent (plain : PlainItem (payload.get (text "item")).fields) :
    QuietStep (validateOutputItem p payload eventType) := by
  refine keepsThen quietRequire fun _ => keepsThen quietOptionalIndex fun _ => keepsThen quietOptionalIndex fun _ => ?_
  refine keepsBind calmOr fun item mapping => ?_
  rw [fieldsOfMapping mapping] at plain
  refine keepsBind (calmShape plain) fun state fresh => keepsThen quietOptionalIdentifier fun _ => ?_
  refine keepsThen quietRequire fun _ => keepsIte (fun _ => quietEnd) fun _ => keepsThen calmOr fun _ => ?_
  exact keepsThen calmCurrent fun _ => keepsThen quietRequire fun _ => quietOpened (fun _ => rfl) fresh fun _ => ⟨rfl,rfl⟩

theorem calmDelta (delta : PlainValue (payload.get (text "delta"))) {requireItem : Bool} :
    CalmStep (validateDeltaEvent payload requireItem) fun t => plainText t = true := by
  refine keepsThen quietRequire fun _ => keepsBind (calmText delta) fun t plain => keepsThen quietOptionalIndex fun _ => ?_
  refine keepsIte (fun _ => ?_) fun _ => ?_
  · exact keepsThen calmOr fun _ => keepsThen calmOr fun _ => keepsPure plain
  · refine keepsThen quietOptionalIdentifier fun _ => keepsThen quietOptionalIndex fun _ => ?_
    exact keepsThen quietOptionalIndex fun _ => keepsPure plain

theorem quietToolDelta (delta : PlainValue (payload.get (text "delta"))) :
    QuietStep (validateToolDelta p payload eventType) := by
  refine keepsThen quietRequire fun _ => keepsBind (calmDelta delta) fun t plainT => keepsThen calmOr fun _ => ?_
  refine keepsBind calmActive fun state plain => keepsThen calmCurrent fun _ => keepsThen quietRequire fun _ => ?_
  refine keepsThen quietRequire fun _ => keepsThen quietOptionalIdentifier fun _ => keepsThen quietRequire fun _ => ?_
  have joined := plainAppend plain plainT
  exact keepsThen (quietBounded joined) fun _ => quietHeld joined (fun _ => rfl) fun _ => ⟨rfl,rfl⟩

theorem quietSparseDone (arguments : PlainValue (payload.get (text "arguments"))) :
    QuietStep (validateSparseFunctionArgumentsDone payload) := by
  refine keepsThen quietRequire fun _ => keepsThen calmOr fun _ => keepsThen quietOptionalIndex fun _ => ?_
  refine keepsThen quietOptionalIndex fun _ => keepsThen (calmText arguments) fun _ => keepsThen calmActive fun _ => ?_
  refine keepsThen calmCurrent fun _ => keepsThen quietRequire fun _ => keepsThen quietRequire fun _ => ?_
  exact keepsThen quietRequire fun _ => quietMark (fun _ => rfl) fun _ => ⟨rfl,rfl⟩

theorem quietExisting : QuietStep (validateExistingTextEvent payload eventType) :=
  keepsIte (fun _ => quietRequire) fun _ => keepsIte (fun _ => quietRequire) fun _ => quietRequire

end Codex

section WebSearch
variable {p : Profile} {payload item : Fields} {eventType : Text}

theorem quietWebSearchBody (plain : among eventType outputItemEvents = true → PlainMessage (payload.get (text "item")).fields) :
    QuietStep (webSearchBody payload eventType) := by
  refine keepsIte (fun _ => ?_) fun _ => keepsIte (fun _ => ?_) fun _ => keepsIte (fun listed => ?_) fun _ => calmReject
  · exact keepsThen calmOr fun _ => keepsThen quietRequire fun _ => quietRequire
  · exact keepsThen calmOr fun _ => keepsThen calmOr fun _ => quietRequire
  · have plain := plain listed
    refine keepsBind calmOr fun item mapping => ?_
    rw [fieldsOfMapping mapping] at plain
    refine keepsIte (fun message => quietAssistantMessage plain.status (plain.phase message) plain.content) fun _ => ?_
    refine keepsThen quietRequire fun _ => keepsThen quietRequire fun _ => keepsThen quietRequire fun _ => ?_
    exact keepsThen (quietOneOf plain.status) fun _ => quietRequire

theorem quietWebSearch (plain : among eventType outputItemEvents = true → PlainMessage (payload.get (text "item")).fields) :
    QuietStep (validateWebSearchEvent p payload eventType) := by
  refine keepsThen calmCurrent fun _ => keepsThen quietRequire fun _ => keepsThen (quietMark (fun _ => rfl) fun _ => ⟨rfl,rfl⟩) fun _ => ?_
  refine keepsIte (fun _ => quietExisting) fun _ => keepsThen calmOr fun _ => keepsThen quietRequire fun _ => ?_
  exact keepsThen (quietMark (fun _ => rfl) fun _ => ⟨rfl,rfl⟩) fun _ => quietWebSearchBody plain

end WebSearch

section Sound
variable {p : Profile} {parseInt : Text → Option ℤ} {payload : Fields} {eventType : Text}

inductive Handling where
  | textOnly | webSearch | exact | codex
  deriving DecidableEq

def Profile.handling (p : Profile) : Handling :=
  if p.webSearch then .webSearch
  else if p.codexReasoningEvents then .exact
  else if p.codexStreamingToolEvents then .codex
  else .textOnly

def progressEvents : List String := ["response.created","response.in_progress"]
def responseEvents : List String := ["response.created","response.in_progress","response.completed"]
def reasoningPartEvents : List String := ["response.reasoning_part.added","response.reasoning_part.done"]
def contentPartEvents : List String := ["response.content_part.added","response.content_part.done"]

def responseOf (payload : Fields) : Fields := (payload.get (text "response")).fields
def itemOf (payload : Fields) : Fields := (payload.get (text "item")).fields
def partOf (payload : Fields) : Fields := (payload.get (text "part")).fields

def exactTexts (payload : Fields) : List (List String × List Text) :=
  [(progressEvents,textsAt (responseOf payload) ["model"]),
    (["response.completed"],outputTexts ((responseOf payload).get (text "output"))),
    (outputItemEvents,textsAt (itemOf payload) ["name"]),
    (["response.function_call_arguments.done"],textsAt payload ["name","arguments"]),
    (reasoningPartEvents,textsAt (partOf payload) ["text"]),(contentPartEvents,textsAt (partOf payload) ["text"])]

def codexTexts (payload : Fields) : List (List String × List Text) :=
  [(progressEvents,textsAt (responseOf payload) ["model"]),
    (outputItemEvents,textsAt (itemOf payload) ["name","namespace"]),
    (["response.function_call_arguments.done"],textsAt payload ["arguments"]),
    (["response.reasoning_summary_part.added"],textsAt (partOf payload) ["text"])]

def textsFor (eventType : Text) (rows : List (List String × List Text)) : List Text :=
  (rows.filter fun row => among eventType row.1).flatMap (·.2)

-- The texts whose bytes are counted.
def measuredTexts (payload : Fields) (eventType : Text) : Handling → List Text
  | .textOnly => []
  | .webSearch => generatedTexts payload
  | .exact => generatedTexts payload ++ textsFor eventType (exactTexts payload)
  | .codex => generatedTexts payload ++ textsFor eventType (codexTexts payload)

def itemLookups (payload : Fields) (eventType : Text) : List Document :=
  if among eventType outputItemEvents then
    (itemOf payload).get (text "status") ::
      if ((itemOf payload).get (text "type")).isText "message" then [(itemOf payload).get (text "phase")] else []
  else []

def responseLookups (payload : Fields) (eventType : Text) : List Document :=
  if among eventType responseEvents then [(responseOf payload).get (text "status")] else []

-- The values that are looked up in a set.
def lookedUp (payload : Fields) (eventType : Text) : Handling → List Document
  | .textOnly => []
  | .webSearch => itemLookups payload eventType
  | .exact => responseLookups payload eventType
  | .codex => itemLookups payload eventType ++ responseLookups payload eventType

def soundFields (p : Profile) (parseInt : Text → Option ℤ) (payload : Fields) (eventType : Text) : Bool :=
  (measuredTexts payload eventType p.handling).all plainText && (lookedUp payload eventType p.handling).all hashable &&
    (!(p.handling = .exact && isContentEvent eventType) || (toInt parseInt (payload.get? (text "content_index"))).isSome)

def sound (p : Profile) (parseInt : Text → Option ℤ) (payload : Document) : Bool :=
  soundFields p parseInt payload.fields (((payload.fields.get (text "type")).text?).getD [])

@[simp] theorem amongCons {name : String} {names : List String} :
    among eventType (name :: names) = (decide (eventType = text name) || among eventType names) := by
  rw [Bool.eq_iff_iff]
  simp [among]

@[simp] theorem amongNil : among eventType [] = false := rfl

theorem statusLookup (lookups : ∀ d ∈ responseLookups payload eventType, hashable d = true)
    (sent : among eventType responseEvents = true) : hashable ((responseOf payload).get (text "status")) = true := by
  rw [responseLookups,if_pos sent] at lookups
  exact lookups _ List.mem_cons_self

theorem amongProgress (sent : among eventType responseEvents = true) (going : eventType ≠ text "response.completed") :
    among eventType progressEvents = true := by
  simpa [responseEvents,progressEvents,going] using sent

theorem progressAmong (sent : among eventType progressEvents = true) : among eventType responseEvents = true := by
  simp only [progressEvents,responseEvents,amongCons,amongNil,Bool.or_false,Bool.or_eq_true] at sent ⊢
  exact sent.imp_right Or.inl

theorem itemLookup (lookups : ∀ d ∈ itemLookups payload eventType, hashable d = true)
    (sent : among eventType outputItemEvents = true) (content : PlainParts ((itemOf payload).get (text "content"))) :
    PlainMessage (itemOf payload) := by
  rw [itemLookups,if_pos sent] at lookups
  refine ⟨lookups _ List.mem_cons_self,fun message => lookups _ ?_,content⟩
  rw [if_pos message]
  simp

theorem plainRows {rows : List (List String × List Text)} (plain : PlainTexts (textsFor eventType rows)) :
    ∀ row ∈ rows, among eventType row.1 = true → PlainTexts row.2 :=
  fun row listed sent t named => plain t (List.mem_flatMap.mpr ⟨row,List.mem_filter.mpr ⟨listed,sent⟩,named⟩)

variable (generated : PlainTexts (generatedTexts payload))
include generated

theorem plainBodies {key : String} (listed : key ∈ ["delta","text"]) : PlainValue (payload.get (text key)) :=
  plainAt (fun t named => generated t (List.mem_append_left _ named)) listed

theorem plainItemTexts : PlainTexts (textsAt (itemOf payload) ["arguments","input","encrypted_content"]) ∧
    PlainParts ((itemOf payload).get (text "content")) ∧ PlainParts ((itemOf payload).get (text "summary")) := by
  have known : PlainTexts (textsAt (itemOf payload) ["arguments","input","encrypted_content"] ++
      partTexts ((itemOf payload).get (text "content")) ++ partTexts ((itemOf payload).get (text "summary"))) := by
    intro t named
    refine generated t (List.mem_append_right _ ?_)
    unfold itemOf at named
    cases shown : payload.get (text "item") with
    | obj item => rw [shown] at named; exact named
    | _ => rw [shown] at named; simp [textsAt,partTexts,Document.fields,Fields.get,Fields.get?,Document.text?,Document.items?] at named
  obtain ⟨first,summary⟩ := List.forall_mem_append.mp known
  obtain ⟨bodies,content⟩ := List.forall_mem_append.mp first
  exact ⟨bodies,content,summary⟩

theorem quietRecord : QuietStep (recordEvent payload eventType) := by
  have measured : ∀ texts, PlainTexts texts → QuietStep (sumBytes texts) := by
    intro texts plain
    induction texts with
    | nil => exact quietPure
    | cons t rest ih =>
      have later := ih fun other listed => plain other (List.mem_cons_of_mem _ listed)
      exact keepsThen (quietLength (plain t List.mem_cons_self)) fun _ => keepsThen later fun _ => quietPure
  exact keepsThen (measured _ generated) fun _ => quietMark (fun _ => rfl) fun _ => ⟨rfl,rfl⟩

theorem quietExact (named : PlainTexts (textsFor eventType (exactTexts payload)))
    (lookups : ∀ d ∈ responseLookups payload eventType, hashable d = true)
    (index : isContentEvent eventType = true → (toInt parseInt (payload.get? (text "content_index"))).isSome) :
    QuietStep (validateStrictEvent p parseInt payload eventType) := by
  obtain ⟨bodies,-,-⟩ := plainItemTexts generated
  have delta : PlainValue (payload.get (text "delta")) := plainBodies generated (by decide)
  have shown : PlainValue (payload.get (text "text")) := plainBodies generated (by decide)
  have rows := plainRows named
  simp only [exactTexts,List.forall_mem_cons] at rows
  obtain ⟨model,output,name,told,thought,content,-⟩ := rows
  refine keepsIte (fun function => ?_) fun _ => keepsIte (fun _ => ?_) fun _ => keepsIte (fun listed => ?_) fun _ => ?_
  · refine keepsThen calmCurrent fun _ => keepsThen quietRequire fun _ => keepsIte (fun listed => ?_) fun unlisted => ?_
    · exact quietFunctionOutput (plainAt (name listed) (by decide)) (plainAt bodies (by decide))
    · refine keepsIte (fun _ => quietArgumentsDelta delta) fun other => ?_
      have done : among eventType ["response.function_call_arguments.done"] = true := by
        have called := (Bool.and_eq_true_iff.mp function).2
        simpa [functionItemEvent,argumentEvents,unlisted,other] using called
      exact quietArgumentsDone (plainAt (told done) (by decide)) (plainAt (told done) (by decide))
  · exact keepsIte (fun _ => quietMessageOutput) fun _ => quietReasoningOutput
  · exact quietReasoningPartEvent (plainAt (thought listed) (by decide))
  · refine keepsIte (fun sent => ?_) fun _ => keepsIte (fun sent => ?_) fun _ => keepsIte (fun _ => ?_) fun _ => ?_
    · refine quietReasoningEvent delta shown (fun added => ?_) fun _ => index sent
      rw [added] at sent
      exact absurd sent (by decide)
    · exact quietContentPart (plainAt (content sent) (by decide))
    · exact quietMessageText delta shown
    · refine keepsIte (fun sent => ?_) fun _ => calmReject
      have status := statusLookup lookups sent
      exact quietResponseEvent status (fun going => plainAt (model (amongProgress sent going)) (by decide))
        fun completed => output (by simp [completed])

theorem quietCodex (named : PlainTexts (textsFor eventType (codexTexts payload)))
    (lookups : ∀ d ∈ itemLookups payload eventType ++ responseLookups payload eventType, hashable d = true) :
    QuietStep (validateCodexEvent p parseInt payload eventType) := by
  obtain ⟨items,responses⟩ := List.forall_mem_append.mp lookups
  obtain ⟨bodies,content,summary⟩ := plainItemTexts generated
  have delta : PlainValue (payload.get (text "delta")) := plainBodies generated (by decide)
  have shown : PlainValue (payload.get (text "text")) := plainBodies generated (by decide)
  have rows := plainRows named
  simp only [codexTexts,List.forall_mem_cons] at rows
  obtain ⟨model,names,told,part,-⟩ := rows
  refine keepsIte (fun sent => ?_) fun _ => keepsIte (fun sent => ?_) fun _ => keepsIte (fun _ => ?_) fun _ => ?_
  · have status := statusLookup responses (progressAmong sent)
    exact keepsThen (quietProgress status (plainAt (model sent) (by decide))) fun _ => quietPure
  · exact keepsThen (calmCompleted (statusLookup responses (by simp [responseEvents,sent]))) fun _ => quietPure
  · exact keepsThen (calmDelta delta) fun _ => quietPure
  refine keepsIte (fun _ => quietToolDelta delta) fun _ => keepsIte (fun sent => ?_) fun _ => keepsIte (fun _ => ?_) fun _ => ?_
  · exact quietSparseDone (plainAt (told (by simpa using (Bool.and_eq_true_iff.mp sent).1)) (by decide))
  · refine quietReasoningEvent delta shown (fun added => plainAt (part (by simp [added])) (by decide)) ?_
    intro strict
    cases strict
  · refine keepsIte (fun _ => quietPure) fun _ => keepsIte (fun sent => ?_) fun _ => calmReject
    exact quietOutputItemEvent ⟨itemLookup items sent content,names sent,bodies,summary⟩

omit generated in
theorem quietValidate {payload : Document} (fine : sound p parseInt payload = true) :
    QuietStep (validate p parseInt payload) := by
  refine keepsBind calmOr fun fields mapping => keepsBind calmOr fun eventType typed => keepsThen quietRequire fun _ => ?_
  unfold sound soundFields at fine
  rw [fieldsOfMapping mapping,typed,Option.getD_some] at fine
  simp only [Bool.and_eq_true,List.all_eq_true] at fine
  obtain ⟨⟨texts,lookups⟩,index⟩ := fine
  refine keepsIte (fun search => ?_) fun noSearch => keepsIte (fun exact => ?_) fun inexact => keepsIte (fun codex => ?_) fun _ => ?_
  · have mode : p.handling = .webSearch := if_pos search
    rw [mode] at texts lookups
    obtain ⟨bodies,content,-⟩ := plainItemTexts texts
    exact keepsThen (quietWebSearch fun sent => itemLookup lookups sent content) fun _ => quietRecord texts
  · have mode : p.handling = .exact := (if_neg noSearch).trans (if_pos exact)
    rw [mode] at texts lookups index
    obtain ⟨generated,named⟩ := List.forall_mem_append.mp texts
    refine keepsThen (quietExact generated named lookups fun content => ?_) fun _ => quietRecord generated
    simpa [content] using index
  · have mode : p.handling = .codex := (if_neg noSearch).trans ((if_neg inexact).trans (if_pos codex))
    rw [mode] at texts lookups
    obtain ⟨generated,named⟩ := List.forall_mem_append.mp texts
    exact keepsThen quietRequire fun _ => keepsThen (quietCodex generated named lookups) fun _ => quietRecord generated
  · exact quietExisting

end Sound

section Runs
variable {p : Profile} {parseInt : Text → Option ℤ}

theorem plainStep {payload : Document} {s : Validator} (held : PlainState s) (fine : sound p parseInt payload = true) :
    ((validate p parseInt payload).exec s).1 ≠ .error .crashed ∧ PlainState ((validate p parseInt payload).exec s).2 := by
  have ended := quietValidate fine s held
  unfold Ends at ended
  rcases out : (validate p parseInt payload).exec s with ⟨e | a,after⟩ <;> rw [out] at ended
  · exact ⟨fun crashed => ended.2 (Except.error.inj crashed),ended.1⟩
  · exact ⟨by simp,ended.1⟩

theorem plainRun {payloads : List Document} {s : Validator} (held : PlainState s)
    (fine : ∀ payload ∈ payloads, sound p parseInt payload = true) :
    (∀ answer ∈ (validateAll p parseInt s payloads).1, answer ≠ .error .crashed) ∧
      PlainState (validateAll p parseInt s payloads).2 := by
  induction payloads generalizing s with
  | nil => exact ⟨by simp [validateAll],held⟩
  | cons payload rest ih =>
    obtain ⟨here,kept⟩ := plainStep held (fine payload List.mem_cons_self)
    obtain ⟨later,last⟩ := ih kept fun other listed => fine other (List.mem_cons_of_mem _ listed)
    exact ⟨List.forall_mem_cons.mpr ⟨here,later⟩,last⟩

theorem plainInitial : PlainState {} := ⟨by simp,by simp,by simp⟩

-- Whatever the profile and the events before, an event of such values is taken or refused.
theorem validatorAnswers (p : Profile) (parseInt : Text → Option ℤ) (payloads : List Document)
    (fine : ∀ payload ∈ payloads, sound p parseInt payload = true) :
    ∀ answer ∈ (validateAll p parseInt {} payloads).1, answer = .ok () ∨ answer = .error .rejected := by
  intro answer listed
  have calm := (plainRun plainInitial fine).1 answer listed
  match answer with
  | .ok () => exact .inl rfl
  | .error .rejected => exact .inr rfl
  | .error .crashed => exact absurd rfl calm

def createdWith (status : Document) : Document :=
  mapping [("type",word "response.created"),("response",mapping [("id",word "resp_1"),("status",status)])]

def deltaOf (delta : Text) : Document :=
  mapping [("type",word "response.output_text.delta"),("delta",.str delta)]

theorem validatorAnswersDemo : (validateAll { codexStreamingToolEvents := true } (fun _ => none) {}
    [createdWith (word "in_progress"),deltaOf (text "hello"),.arr [],createdWith (.int 3)]).1.Forall
      fun answer => answer = .ok () ∨ answer = .error .rejected :=
  List.forall_iff_forall_mem.mpr (validatorAnswers _ _ _ (by decide +kernel))

def reasoningOpened : Document :=
  mapping [("type",word "response.output_item.added"),("output_index",.int 0),("sequence_number",.int 1),
    ("item",mapping [("type",word "reasoning"),("id",word "rs_1"),("summary",.arr []),("content",.null),
      ("encrypted_content",.null),("status",word "in_progress")])]

def reasoningWithoutIndex : Document :=
  mapping [("type",word "response.reasoning_text.delta"),("item_id",word "rs_1"),("output_index",.int 0),
    ("sequence_number",.int 2),("delta",word "think")]

def loneSurrogate : Text := [⟨0xD800,by decide⟩]

-- A list for a status, a lone surrogate in a delta, and a delta without its index.
theorem validatorCrashes :
    (validateAll { codexStreamingToolEvents := true } (fun _ => none) {} [createdWith (.arr [])]).1 = [.error .crashed] ∧
    (validateAll { codexStreamingToolEvents := true } (fun _ => none) {} [deltaOf loneSurrogate]).1 = [.error .crashed] ∧
    (validateAll { codexReasoningEvents := true } (fun _ => none) {} [reasoningOpened,reasoningWithoutIndex]).1 =
      [.ok (),.error .crashed] := by
  refine ⟨?_,?_,?_⟩ <;> decide +kernel

end Runs

end SlaifGateway.Responses
