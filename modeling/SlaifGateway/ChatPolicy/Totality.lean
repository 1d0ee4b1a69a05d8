import SlaifGateway.ChatPolicy.RequestPolicy
import SlaifGateway.Library.Keeps

/-! Where the request policy answers or refuses and nothing else escapes: the texts it encodes have no lone
surrogate, what it looks up in a set is no array or object, its numbers fit a float, its image URLs can be split
and the nesting fits the interpreter's stack. -/
namespace SlaifGateway.ChatPolicy
open Library Library.Tx
open Document (hashable)

section Condition
variable (py : Interpreter) (settings : Settings)

def plainValue (value : Document) : Bool := value.text?.all plainText

def splittable (url : Document) : Bool :=
  url.text?.all fun url => startsWith url "data:" || !settings.chatAllowRemoteImageUrls || (py.urlsplit url).isSome

def soundImage (image : Fields) : Bool :=
  plainValue (image.get (text "url")) && hashable (image.get (text "detail")) && splittable py settings (image.get (text "url"))

def soundObjectPart (part : Fields) : Bool :=
  let type := part.get (text "type")
  if type.isText "text" then plainValue (part.get (text "text"))
  else if type.isText "video_url" then plainValue ((part.get (text "video_url")).fields.get (text "url"))
  else if type.isText "image_url" then soundImage py settings (part.get (text "image_url")).fields
  else if type.isText "file" then
    plainValue ((part.get (text "file")).fields.get (text "filename")) &&
      plainValue ((part.get (text "file")).fields.get (text "file_data"))
  else if type.isText "input_audio" then plainValue ((part.get (text "input_audio")).fields.get (text "data"))
  else true

def soundPart (part : Document) : Bool := plainValue part && soundObjectPart py settings part.fields

def soundContent (content : Document) : Bool :=
  plainValue content && (content.items?.getD []).all (soundPart py settings)

def soundMessages (messages : Document) : Bool :=
  (messages.items?.getD []).all fun message => soundContent py settings (message.fields.get (text "content"))

-- `float(value)` does not overflow.
def convertible : Document → Bool
  | .int n => n.natAbs < floatOverflow
  | _ => true

def soundFunction (function : Document) : Bool :=
  plainValue (function.fields.get (text "name")) && plainValue (function.fields.get (text "description"))

def soundFormat (format : Fields) : Bool :=
  hashable (format.get (text "type")) && hashable ((format.get (text "grammar")).fields.get (text "syntax")) &&
    plainValue ((format.get (text "grammar")).fields.get (text "definition"))

def soundCustom (custom : Fields) : Bool :=
  plainValue (custom.get (text "name")) && plainValue (custom.get (text "description")) &&
    soundFormat (custom.get (text "format")).fields

def soundTool (tool : Fields) : Bool :=
  if (tool.get (text "type")).isText "custom" then soundCustom (tool.get (text "custom")).fields
  else if (tool.get (text "type")).isText "function" then soundFunction (tool.get (text "function"))
  else true

def soundFunctionChoice (choice : Fields) : Bool :=
  plainValue ((choice.get (text "function")).fields.get (text "name")) && plainValue (choice.get (text "name"))

def soundToolChoice (choice : Fields) : Bool :=
  if (choice.get (text "type")).isText "function" then soundFunctionChoice choice
  else if (choice.get (text "type")).isText "custom" then
    plainValue ((choice.get (text "custom")).fields.get (text "name"))
  else true

def floatFields : List String := ["temperature","top_p","presence_penalty","frequency_penalty"]

structure SoundCaps (payload : Fields) : Prop where
  messages : soundMessages py settings (payload.get (text "messages")) = true
  numbers : ∀ field ∈ floatFields, convertible (payload.get (text field)) = true
  stop : ∀ sequences ∈ stopSequences (payload.get (text "stop")), ∀ t ∈ sequences, plainText t = true
  user : plainValue (payload.get (text "user")) = true
  biases : ∀ bias ∈ (payload.get (text "logit_bias")).fields, convertible bias.2 = true
  tools : ∀ tool ∈ (payload.get (text "tools")).items?.getD [], soundTool tool.fields = true
  functions : ∀ function ∈ (payload.get (text "functions")).items?.getD [], soundFunction function = true
  toolChoice : soundToolChoice (payload.get (text "tool_choice")).fields = true
  functionCall : soundFunctionChoice (payload.get (text "function_call")).fields = true
  responseFormat : hashable ((payload.get (text "response_format")).fields.get (text "type")) = true
  metadata : ∀ key ∈ (payload.get (text "metadata")).fields.keys, plainText key = true
  nesting : Document.height (.obj payload) ≤ py.dumpsRoom

structure SoundRequest (body : Fields) : Prop extends SoundCaps py settings body where
  toolTypes : ∀ tool ∈ (body.get (text "tools")).items?.getD [], hashable (tool.fields.get (text "type")) = true
  choiceType : hashable ((body.get (text "tool_choice")).fields.get (text "type")) = true
  copied : Document.height (.obj body) ≤ py.copyRoom
  walked : Document.height (.obj body) ≤ py.walkRoom
  dumped : 2 ≤ py.dumpsRoom

end Condition

section Rules
variable {α : Type} {value : Document} {fields : Fields} {t param : Text} {code message : String}

abbrev Escaped (e : Raised) : Prop := ∃ error, e = .escaped error

abbrev Calm (x : Checked α) (known : α → Prop) : Prop := Keeps (fun _ => True) Escaped x known

abbrev Quiet (x : Checked α) : Prop := Calm x fun _ => True

theorem refusedFine {error : PolicyError} : ¬Escaped (.refused error) := by
  rintro ⟨_,same⟩
  cases same

theorem quietOf {x : Checked α} {known : α → Prop} (calm : Calm x known) : Quiet x := keepsMono calm fun _ _ => trivial

theorem quietPure {a : α} : Quiet (pure a : Checked α) := keepsPure trivial

theorem calmRefuse {known : α → Prop} : Calm (refuse param code message : Checked α) known := keepsThrow refusedFine

theorem quietRefusedIf {c : Prop} {_ : Decidable c} {error : PolicyError} : Quiet (raiseIf c (.refused error)) :=
  quietOf (keepsRaiseIf refusedFine)

theorem quietRequire {c : Prop} {_ : Decidable c} : Quiet (require c param code message) := quietRefusedIf

theorem calmFound {found : Option α} {error : PolicyError} :
    Calm (orRaise found (.refused error)) fun a => found = some a := keepsOrRaise refusedFine

theorem calmExpect {found : Option α} : Calm (expect found param code message) fun a => found = some a := calmFound

theorem quietKeys {names : List String} : Quiet (onlyKeys fields names param code message) := by
  unfold onlyKeys
  split
  · exact calmRefuse
  · exact quietPure

theorem quietAmong (fine : hashable value = true) {names : List String} : Quiet (isAmong value names) := by
  unfold isAmong
  cases value with
  | arr _ => cases fine
  | obj _ => cases fine
  | _ => exact quietPure

theorem quietLength (plain : plainText t = true) : Quiet (byteLength t) := quietOf (keepsFound (plainEncodes plain))

theorem quietBytes (plain : plainText t = true) {maxBytes : ℤ} :
    Quiet (validateStringBytes t param maxBytes code message) :=
  keepsThen (quietLength plain) fun _ => quietRequire

theorem plainOf (plain : plainValue value = true) (shown : value.text? = some t) : plainText t = true := by
  rw [plainValue,shown] at plain
  exact plain

theorem plainOfFilter (plain : plainValue value = true) {p : Text → Bool} (shown : value.text?.filter p = some t) :
    plainText t = true :=
  plainOf plain (Option.filter_eq_some_iff.mp shown).1

theorem fieldsOfMapping (mapping : value.mapping? = some fields) : value.fields = fields := by
  cases value with
  | obj _ => exact Option.some.inj mapping
  | _ => cases mapping

variable {py : Interpreter}

theorem quietCanonical (small : value.height ≤ py.dumpsRoom) {error : PolicyError} :
    Quiet (canonicalBytes py value (.refused error)) := by
  refine keepsThen (p := fun _ => True) ?_ fun _ => quietOf calmFound
  unfold raiseIf
  rw [if_neg (Nat.not_lt.mpr small)]
  exact quietPure

theorem quietJson (small : value.height ≤ py.dumpsRoom) : Quiet (jsonSize py value param) := quietCanonical small

-- Fields of what fits the stack fit it.
theorem heightOfGet (key : Text) (small : value.height ≤ py.dumpsRoom) :
    (value.fields.get key).height ≤ py.dumpsRoom := by
  cases value with
  | obj fields =>
    have inner := Document.heightGet fields key
    rw [Document.height] at small
    exact Nat.le_trans inner (Nat.le_of_succ_le small)
  | _ => exact Nat.zero_le _

theorem heightOfItem {items : List Document} {d : Document} (shown : value.items? = some items) (listed : d ∈ items)
    (small : value.height ≤ py.dumpsRoom) : d.height ≤ py.dumpsRoom := by
  cases value with
  | arr found =>
    obtain rfl := Option.some.inj shown
    have inner := Document.heightMember listed
    rw [Document.height] at small
    exact Nat.le_trans inner (Nat.le_of_succ_le small)
  | _ => cases shown

end Rules

section Media
variable {py : Interpreter} {settings : Settings} {url value filename param partParam role : Text} {part : Fields}
  {code message : String}

theorem quietImageData (plain : plainText url = true) : Quiet (validateImageDataUrl py settings url param) := by
  refine keepsThen quietRequire fun _ => keepsThen (quietBytes plain) fun _ => keepsThen calmExpect fun _ => ?_
  refine keepsThen quietRequire fun _ => keepsThen quietRequire fun _ => keepsThen quietRequire fun _ => ?_
  exact quietRequire

theorem quietRemoteImage (plain : plainText url = true)
    (split : settings.chatAllowRemoteImageUrls = true → (py.urlsplit url).isSome = true) :
    Quiet (validateRemoteImageUrl py settings url param) := by
  refine keepsBind (keepsRaiseIf refusedFine) fun _ allowed => keepsThen (quietBytes plain) fun _ => ?_
  refine keepsThen (keepsFound (split (not_not.mp allowed))) fun _ => keepsThen quietRequire fun _ => quietRequire

theorem quietImagePart (fine : soundImage py settings (part.get (text "image_url")).fields = true) :
    Quiet (validateImagePart py settings part param role) := by
  simp only [soundImage,Bool.and_eq_true] at fine
  obtain ⟨⟨plain,detail⟩,split⟩ := fine
  refine keepsThen quietRequire fun _ => keepsThen quietKeys fun _ => keepsBind calmExpect fun image mapping => ?_
  rw [fieldsOfMapping mapping] at plain detail split
  refine keepsThen quietKeys fun _ => keepsBind calmExpect fun url shown => ?_
  have given := (Option.filter_eq_some_iff.mp shown).1
  have plainUrl := plainOf plain given
  rw [splittable,given] at split
  refine keepsIte (fun _ => ?_) fun _ => keepsThen (quietAmong detail) fun _ => keepsThen quietRequire fun _ => ?_
  all_goals
    refine keepsIte (fun _ => quietImageData plainUrl) fun remote => quietRemoteImage plainUrl fun allowed => ?_
    simpa [remote,allowed] using split

theorem quietBase64 : Quiet (validateBase64Payload py value param code message) :=
  keepsThen quietRequire fun _ => quietRequire

theorem quietFilename (plain : plainText value = true) : Quiet (validateFilename settings value param) := by
  refine keepsThen (quietBytes plain) fun _ => keepsThen quietRequire fun _ => keepsThen quietRequire fun _ => ?_
  exact keepsThen quietRequire fun _ => quietRequire

theorem quietFileData (plain : plainText value = true) : Quiet (validateFileData py settings value filename param) := by
  refine keepsThen quietRequire fun _ => keepsIte (fun _ => ?_) fun _ => keepsThen (quietBytes plain) fun _ => quietBase64
  refine keepsThen quietRequire fun _ => keepsThen (quietBytes plain) fun _ => keepsThen calmExpect fun _ => ?_
  refine keepsThen quietRequire fun _ => keepsThen quietRequire fun _ => keepsThen quietRequire fun _ => ?_
  exact keepsThen quietRequire fun _ => quietBase64

theorem quietFileKeys : Quiet (validateFileKeys part param) := by
  unfold validateFileKeys
  split
  · exact keepsIte (fun _ => calmRefuse) fun _ => calmRefuse
  · exact quietPure

theorem quietFileId {fileId : Document} : Quiet (refuseFileId settings fileId param) :=
  keepsThen quietRequire fun _ => calmRefuse

theorem quietFilePart (name : plainValue ((part.get (text "file")).fields.get (text "filename")) = true)
    (data : plainValue ((part.get (text "file")).fields.get (text "file_data")) = true) :
    Quiet (validateFilePart py settings part param role) := by
  refine keepsThen quietRequire fun _ => keepsThen quietKeys fun _ => keepsBind calmExpect fun file mapping => ?_
  rw [fieldsOfMapping mapping] at name data
  refine keepsThen quietFileKeys fun _ => keepsThen quietRequire fun _ => ?_
  refine keepsIte (fun _ => keepsThen quietFileId fun _ => ?_) fun _ => ?_
  all_goals
    refine keepsBind calmExpect fun filename shown => keepsThen (quietFilename (plainOfFilter name shown)) fun _ => ?_
    exact keepsBind calmExpect fun fileData given => quietFileData (plainOfFilter data given)

theorem quietAudioPart (data : plainValue ((part.get (text "input_audio")).fields.get (text "data")) = true) :
    Quiet (validateAudioInputPart py settings part param role) := by
  refine keepsThen quietRequire fun _ => keepsThen quietKeys fun _ => keepsBind calmExpect fun input mapping => ?_
  rw [fieldsOfMapping mapping] at data
  refine keepsThen quietKeys fun _ => keepsBind calmExpect fun encoded shown => keepsThen calmExpect fun _ => ?_
  refine keepsThen quietRequire fun _ => keepsThen quietRequire fun _ => keepsThen quietRequire fun _ => ?_
  exact keepsThen (quietBytes (plainOfFilter data shown)) fun _ => quietBase64

theorem quietVideoPart (fine : plainValue ((part.get (text "video_url")).fields.get (text "url")) = true) :
    Quiet (validateVideoPart py settings part param role) := by
  refine keepsThen quietRequire fun _ => keepsBind calmExpect fun url shown => ?_
  have given : ((part.get (text "video_url")).fields.get (text "url")).text? = some url := by
    split at shown
    · exact shown
    · cases shown
  refine keepsThen (quietLength (plainOf fine given)) fun _ => keepsThen quietRequire fun _ => ?_
  exact keepsThen quietRequire fun _ => quietRequire

end Media

section Messages
variable {py : Interpreter} {settings : Settings} {param partParam role : Text} {seen counts : PartCounts}
  {content message : Document}

theorem quietText {t : Text} (plain : plainText t = true) : Quiet (addText counts t) :=
  keepsThen (quietLength plain) fun _ => quietPure

theorem quietCount {here earlier : ℕ} {perMessage perRequest : ℤ} {code inMessage inRequest : String} :
    Quiet (requireCount here earlier perMessage perRequest param code inMessage inRequest) :=
  keepsThen quietRequire fun _ => quietRequire

theorem quietObjectPart {part : Fields} (fine : soundObjectPart py settings part = true) :
    Quiet (validateObjectPart py settings seen counts part param partParam role) := by
  unfold soundObjectPart at fine
  refine keepsIte (fun here => ?_) fun other => ?_
  · rw [if_pos here] at fine
    exact keepsBind calmExpect fun t shown => quietText (plainOf fine shown)
  rw [if_neg other] at fine
  refine keepsIte (fun here => ?_) fun other => ?_
  · rw [if_pos here] at fine
    exact keepsThen (quietVideoPart fine) fun _ => quietPure
  rw [if_neg other] at fine
  refine keepsIte (fun here => ?_) fun other => ?_
  · rw [if_pos here] at fine
    exact keepsThen (quietImagePart fine) fun _ => keepsThen quietCount fun _ => quietPure
  rw [if_neg other] at fine
  refine keepsIte (fun here => ?_) fun other => ?_
  · rw [if_pos here] at fine
    obtain ⟨name,data⟩ := Bool.and_eq_true_iff.mp fine
    exact keepsThen (quietFilePart name data) fun _ => keepsThen quietCount fun _ => quietPure
  rw [if_neg other] at fine
  refine keepsIte (fun here => ?_) fun _ => calmRefuse
  rw [if_pos here] at fine
  exact keepsThen (quietAudioPart fine) fun _ => keepsThen quietCount fun _ => quietPure

theorem quietPart {part : Document} (fine : soundPart py settings part = true) :
    Quiet (validatePart py settings seen counts part param partParam role) := by
  obtain ⟨plain,object⟩ := Bool.and_eq_true_iff.mp fine
  unfold validatePart
  split
  · exact quietText plain
  · refine keepsBind calmExpect fun fields mapping => ?_
    rw [fieldsOfMapping mapping] at object
    exact quietObjectPart object

theorem quietParts {parts : List Document} (fine : ∀ part ∈ parts, soundPart py settings part = true) (index : ℕ)
    (counts : PartCounts) : Quiet (validateParts py settings seen param role parts index counts) := by
  induction parts generalizing index counts with
  | nil => exact quietPure
  | cons part rest ih =>
    exact keepsThen (quietPart (fine part List.mem_cons_self)) fun next =>
      ih (fun other listed => fine other (List.mem_cons_of_mem _ listed)) (index + 1) next

theorem quietContent (fine : soundContent py settings content = true) :
    Quiet (validateMessageContent py settings content seen param role) := by
  obtain ⟨plain,parts⟩ := Bool.and_eq_true_iff.mp fine
  cases content with
  | null => exact quietPure
  | str t => exact quietBytes plain
  | arr items =>
    refine keepsThen (quietParts (List.all_eq_true.mp parts) 0 {}) fun _ => keepsThen quietRequire fun _ => ?_
    exact quietRequire
  | _ => exact calmRefuse

theorem quietMessage (fine : soundContent py settings (message.fields.get (text "content")) = true) {index : ℕ} :
    Quiet (validateMessage py settings message index seen) := by
  refine keepsBind calmExpect fun fields mapping => ?_
  rw [fieldsOfMapping mapping] at fine
  refine keepsThen calmExpect fun _ => keepsThen quietRequire fun _ => keepsThen (quietContent fine) fun _ => ?_
  refine keepsThen (p := fun _ => True) ?_ fun _ => quietPure
  exact keepsThen quietRequire fun _ => keepsThen quietRequire fun _ => keepsThen quietRequire fun _ => quietRequire

theorem quietEach {messages : List Document}
    (fine : ∀ message ∈ messages, soundContent py settings (message.fields.get (text "content")) = true) (index : ℕ)
    (seen : PartCounts) : Quiet (validateEach py settings messages index seen) := by
  induction messages generalizing index seen with
  | nil => exact quietPure
  | cons message rest ih =>
    exact keepsThen (quietMessage (fine message List.mem_cons_self)) fun next =>
      ih (fun other listed => fine other (List.mem_cons_of_mem _ listed)) (index + 1) next

theorem quietMessages {value : Document} (fine : soundMessages py settings value = true) :
    Quiet (validateMessages py settings value) := by
  refine keepsBind calmExpect fun messages shown => keepsThen quietRequire fun _ => ?_
  rw [soundMessages,(Option.filter_eq_some_iff.mp shown).1] at fine
  exact quietEach (List.all_eq_true.mp fine) 0 {}

end Messages

section Scalars
variable {py : Interpreter} {settings : Settings} {value : Document} {payload : Fields} {param : String}

theorem convertibleInt {n : ℤ} : convertible (.int n) = true ↔ n.natAbs < floatOverflow := decide_eq_true_iff

theorem quietRange (fine : convertible value = true) {minimum maximum : ℤ} :
    Quiet (withinRange value minimum maximum) := by
  unfold withinRange
  split
  · next n =>
    have fits : ¬floatOverflow ≤ n.natAbs := Nat.not_le.mpr (convertibleInt.mp fine)
    rw [if_neg fits]
    exact quietPure
  · exact quietPure
  · exact quietPure

theorem quietNumber (fine : convertible value = true) {minimum maximum : ℤ} :
    Quiet (validateNumberRange value param minimum maximum) := by
  refine keepsIte (fun _ => quietPure) fun _ => keepsThen quietRefusedIf fun _ => ?_
  exact keepsThen (quietRange fine) fun _ => quietRefusedIf

theorem quietBool : Quiet (validateBool value param) := quietRefusedIf

theorem quietTopLogprobs : Quiet (validateTopLogprobs payload) := by
  refine keepsIte (fun _ => quietPure) fun _ => keepsThen calmExpect fun _ => keepsThen quietRequire fun _ => ?_
  exact quietRequire

theorem quietChoices : Quiet (validateChoices settings value) :=
  keepsIte (fun _ => quietPure) fun _ => keepsThen calmExpect fun _ => quietRequire

theorem quietScalars (numbers : ∀ field ∈ floatFields, convertible (payload.get (text field)) = true) :
    Quiet (validateScalarControls settings payload) := by
  refine keepsThen (quietNumber (numbers _ (by decide))) fun _ => keepsThen (quietNumber (numbers _ (by decide))) fun _ => ?_
  refine keepsThen (quietNumber (numbers _ (by decide))) fun _ => keepsThen (quietNumber (numbers _ (by decide))) fun _ => ?_
  refine keepsThen quietBool fun _ => keepsThen quietBool fun _ => keepsThen quietBool fun _ => ?_
  refine keepsThen quietRequire fun _ => keepsThen quietTopLogprobs fun _ => keepsThen quietChoices fun _ => ?_
  exact quietRequire

theorem quietBiases {biases : Fields} (fine : ∀ bias ∈ biases, convertible bias.2 = true) :
    Quiet (validateLogitBiases biases) := by
  induction biases with
  | nil => exact quietPure
  | cons bias rest ih =>
    refine keepsThen quietRequire fun _ => keepsThen (quietRange (fine bias List.mem_cons_self)) fun _ => ?_
    exact keepsThen quietRequire fun _ => ih fun other listed => fine other (List.mem_cons_of_mem _ listed)

theorem quietLogitBias (fine : ∀ bias ∈ value.fields, convertible bias.2 = true) (small : value.height ≤ py.dumpsRoom) :
    Quiet (validateLogitBias py settings value) := by
  refine keepsIte (fun _ => quietPure) fun _ => keepsBind calmExpect fun biases mapping => ?_
  rw [fieldsOfMapping mapping] at fine
  exact keepsThen (quietJson small) fun _ => keepsThen quietRequire fun _ => quietBiases fine

theorem quietTexts {param : Text} {maxBytes : ℤ} {code message : String} {texts : List Text}
    (plain : ∀ t ∈ texts, plainText t = true) : Quiet (validateTexts param maxBytes code message texts) := by
  induction texts with
  | nil => exact quietPure
  | cons t rest ih =>
    refine keepsThen (quietBytes (plain t List.mem_cons_self)) fun _ => ?_
    exact ih fun other listed => plain other (List.mem_cons_of_mem _ listed)

theorem quietStop (plain : ∀ sequences ∈ stopSequences value, ∀ t ∈ sequences, plainText t = true) :
    Quiet (validateStop settings value) := by
  refine keepsIte (fun _ => quietPure) fun _ => keepsBind calmExpect fun sequences shown => ?_
  exact keepsThen quietRequire fun _ => quietTexts (plain sequences shown)

theorem quietUser (plain : plainValue value = true) : Quiet (validateUser settings value) :=
  keepsIte (fun _ => quietPure) fun _ => keepsBind calmExpect fun _ shown => quietBytes (plainOf plain shown)

theorem quietModalities {entries : List Document} (index : ℕ) (seen : List Text) :
    Quiet (validateModalities entries index seen) := by
  induction entries generalizing index seen with
  | nil => exact quietPure
  | cons entry rest ih =>
    refine keepsThen calmExpect fun _ => keepsThen quietRequire fun _ => keepsThen quietRequire fun _ => ?_
    exact ih (index + 1) _

theorem quietVoice : Quiet (validateVoice settings value) :=
  keepsThen quietRequire fun _ => keepsThen quietRequire fun _ => keepsThen calmExpect fun _ => quietRequire

theorem quietAudioOutput : Quiet (validateAudioOutput settings payload) := by
  have requested : ∀ modalities, Quiet (audioRequested modalities) := fun _ =>
    keepsIte (fun _ => quietPure) fun _ => keepsThen calmExpect fun _ => keepsThen (quietModalities 0 []) fun _ =>
      keepsThen quietRequire fun _ => quietPure
  refine keepsThen (requested _) fun _ => keepsThen quietRequire fun _ => keepsIte (fun _ => ?_) fun _ => quietPure
  refine keepsThen quietRequire fun _ => keepsThen quietRequire fun _ => keepsThen calmExpect fun _ => ?_
  refine keepsThen quietKeys fun _ => keepsThen calmExpect fun _ => keepsThen quietRequire fun _ => quietVoice

end Scalars

section Tools
variable {py : Interpreter} {settings : Settings} {value tools : Document} {tool choice : Fields} {param : Text}

theorem quietOptionalText (plain : plainValue value = true) {maxBytes : ℤ} {code kindCode kindMessage message : String} :
    Quiet (validateOptionalText value param maxBytes code kindCode kindMessage message) :=
  keepsIte (fun _ => quietPure) fun _ => keepsBind calmExpect fun _ shown => quietBytes (plainOf plain shown)

theorem quietFunctionDefinition (fine : soundFunction value = true) (small : value.height ≤ py.dumpsRoom) :
    Quiet (validateFunctionDefinition py settings value param) := by
  obtain ⟨name,description⟩ := Bool.and_eq_true_iff.mp fine
  have parameters := heightOfGet (text "parameters") small
  refine keepsBind calmExpect fun function mapping => ?_
  rw [fieldsOfMapping mapping] at name description parameters
  refine keepsBind calmExpect fun _ shown => keepsThen (quietBytes (plainOfFilter name shown)) fun _ => ?_
  refine keepsThen (quietOptionalText description) fun _ => keepsIte (fun _ => quietPure) fun _ => ?_
  refine keepsThen quietRequire fun _ => keepsThen (quietJson parameters) fun _ => ?_
  exact keepsThen quietRequire fun _ => quietPure

theorem quietFormat (fine : soundFormat value.fields = true) (small : value.height ≤ py.dumpsRoom) :
    Quiet (validateCustomToolFormat py settings value param) := by
  simp only [soundFormat,Bool.and_eq_true] at fine
  obtain ⟨⟨type,syntaxes⟩,definition⟩ := fine
  refine keepsBind calmExpect fun format mapping => keepsThen (quietJson small) fun _ => keepsThen quietRequire fun _ => ?_
  rw [fieldsOfMapping mapping] at type syntaxes definition
  refine keepsThen (quietAmong type) fun _ => keepsThen quietRequire fun _ => keepsIte (fun _ => quietRequire) fun _ => ?_
  refine keepsThen quietKeys fun _ => keepsBind calmExpect fun grammar shown => keepsThen quietKeys fun _ => ?_
  rw [fieldsOfMapping shown] at syntaxes definition
  refine keepsThen (quietAmong syntaxes) fun _ => keepsThen quietRequire fun _ => ?_
  exact keepsBind calmExpect fun _ given => quietBytes (plainOf definition given)

theorem quietCustomTool (fine : soundCustom (tool.get (text "custom")).fields = true)
    (small : (tool.get (text "custom")).height ≤ py.dumpsRoom) : Quiet (validateCustomTool py settings tool param) := by
  simp only [soundCustom,Bool.and_eq_true] at fine
  obtain ⟨⟨name,description⟩,format⟩ := fine
  have nested := heightOfGet (text "format") small
  refine keepsThen quietKeys fun _ => keepsBind calmExpect fun custom mapping => keepsThen quietKeys fun _ => ?_
  rw [fieldsOfMapping mapping] at name description format nested
  refine keepsBind calmExpect fun _ shown => keepsThen (quietBytes (plainOfFilter name shown)) fun _ => ?_
  refine keepsThen (quietOptionalText description) fun _ => keepsIte (fun _ => quietPure) fun _ => ?_
  exact quietFormat format nested

theorem quietToolList {items : List Document} (fine : ∀ tool ∈ items, soundTool tool.fields = true)
    (small : ∀ tool ∈ items, tool.height ≤ py.dumpsRoom) (index customTools schemaBytes : ℕ) :
    Quiet (validateToolList py settings items index customTools schemaBytes) := by
  induction items generalizing index customTools schemaBytes with
  | nil => exact quietPure
  | cons tool rest ih =>
    have later := ih (fun other listed => fine other (List.mem_cons_of_mem _ listed))
      (fun other listed => small other (List.mem_cons_of_mem _ listed)) (index + 1)
    have here := fine tool List.mem_cons_self
    have custom := heightOfGet (text "custom") (small tool List.mem_cons_self)
    have function := heightOfGet (text "function") (small tool List.mem_cons_self)
    refine keepsBind calmExpect fun fields mapping => ?_
    rw [fieldsOfMapping mapping] at here custom function
    unfold soundTool at here
    refine keepsIte (fun isCustom => ?_) fun notCustom => keepsIte (fun isFunction => ?_) fun _ => later _ _
    · rw [if_pos isCustom] at here
      exact keepsThen (quietCustomTool here custom) fun _ => later _ _
    · rw [if_neg notCustom,if_pos isFunction] at here
      exact keepsThen (quietFunctionDefinition here function) fun _ => later _ _

theorem quietTools (fine : ∀ tool ∈ value.items?.getD [], soundTool tool.fields = true)
    (small : value.height ≤ py.dumpsRoom) : Quiet (validateTools py settings value) := by
  refine keepsIte (fun _ => quietPure) fun _ => keepsBind calmExpect fun items shown => keepsThen quietRequire fun _ => ?_
  rw [shown] at fine
  refine keepsThen (quietToolList fine (fun tool listed => heightOfItem shown listed small) 0 0 0) fun _ => ?_
  exact keepsThen quietRequire fun _ => quietRequire

theorem quietFunctionList {items : List Document} (fine : ∀ function ∈ items, soundFunction function = true)
    (small : ∀ function ∈ items, function.height ≤ py.dumpsRoom) (index schemaBytes : ℕ) :
    Quiet (validateFunctionList py settings items index schemaBytes) := by
  induction items generalizing index schemaBytes with
  | nil => exact quietPure
  | cons function rest ih =>
    have later := ih (fun other listed => fine other (List.mem_cons_of_mem _ listed))
      fun other listed => small other (List.mem_cons_of_mem _ listed)
    exact keepsThen (quietFunctionDefinition (fine function List.mem_cons_self) (small function List.mem_cons_self))
      fun _ => later _ _

theorem quietLegacyFunctions (fine : ∀ function ∈ value.items?.getD [], soundFunction function = true)
    (small : value.height ≤ py.dumpsRoom) : Quiet (validateLegacyFunctions py settings value) := by
  refine keepsIte (fun _ => quietPure) fun _ => keepsBind calmExpect fun items shown => keepsThen quietRequire fun _ => ?_
  rw [shown] at fine
  refine keepsThen (quietFunctionList fine (fun function listed => heightOfItem shown listed small) 0 0) fun _ => ?_
  exact quietRequire

theorem quietChoiceName (plain : plainValue value = true) : Quiet (validateChoiceName settings value param) :=
  keepsIte (fun _ => quietPure) fun _ => keepsBind calmExpect fun _ shown => quietBytes (plainOfFilter plain shown)

theorem quietFunctionChoice {param : String} (fine : soundFunctionChoice value.fields = true)
    (small : value.height ≤ py.dumpsRoom) : Quiet (validateFunctionChoice py settings value param) := by
  obtain ⟨nested,name⟩ := Bool.and_eq_true_iff.mp fine
  refine keepsIte (fun _ => quietPure) fun _ => keepsBind calmFound fun choice mapping => ?_
  rw [fieldsOfMapping mapping] at nested name
  refine keepsThen (quietJson small) fun _ => keepsThen quietRefusedIf fun _ => ?_
  refine keepsIte (fun _ => quietChoiceName name) fun _ => keepsBind calmFound fun function shown => ?_
  rw [fieldsOfMapping shown] at nested
  exact keepsThen (quietChoiceName nested) fun _ => quietChoiceName name

theorem quietToolChoice (fine : soundToolChoice value.fields = true) (small : value.height ≤ py.dumpsRoom) :
    Quiet (validateToolChoice py settings value tools) := by
  unfold validateToolChoice
  split
  · exact quietPure
  · exact quietRequire
  refine keepsBind calmExpect fun choice mapping => ?_
  have same := fieldsOfMapping mapping
  unfold soundToolChoice at fine
  rw [same] at fine
  refine keepsIte (fun isFunction => ?_) fun notFunction => keepsIte (fun isCustom => ?_) fun _ => quietRequire
  · rw [if_pos isFunction,← same] at fine
    exact quietFunctionChoice fine small
  · rw [if_neg notFunction,if_pos isCustom] at fine
    refine keepsThen quietKeys fun _ => keepsBind calmExpect fun custom shown => keepsThen quietKeys fun _ => ?_
    rw [fieldsOfMapping shown] at fine
    refine keepsBind calmExpect fun _ given => keepsThen (quietBytes (plainOfFilter fine given)) fun _ => ?_
    exact quietRequire

end Tools

section Caps
variable {py : Interpreter} {settings : Settings} {value : Document} {payload : Fields}

theorem quietResponseFormat (fine : hashable (value.fields.get (text "type")) = true)
    (small : value.height ≤ py.dumpsRoom) : Quiet (validateResponseFormat py settings value) := by
  have schema := heightOfGet (text "json_schema") small
  refine keepsIte (fun _ => quietPure) fun _ => keepsBind calmExpect fun format mapping => ?_
  rw [fieldsOfMapping mapping] at fine schema
  refine keepsThen (quietAmong fine) fun _ => keepsThen quietRequire fun _ => keepsIte (fun _ => ?_) fun _ => quietPure
  exact keepsThen quietRequire fun _ => keepsThen (quietJson schema) fun _ => quietRequire

theorem quietMetadata (plain : ∀ key ∈ value.fields.keys, plainText key = true) (small : value.height ≤ py.dumpsRoom) :
    Quiet (validateMetadata py settings value) := by
  refine keepsIte (fun _ => quietPure) fun _ => keepsBind calmExpect fun metadata mapping => ?_
  rw [fieldsOfMapping mapping] at plain
  refine keepsThen quietRequire fun _ => keepsThen (quietTexts plain) fun _ => keepsThen (quietJson small) fun _ => ?_
  exact quietRequire

theorem quietObjectSize {param kindCode : String} {maxBytes : ℤ} (small : value.height ≤ py.dumpsRoom) :
    Quiet (validateObjectSize py value param maxBytes kindCode) :=
  keepsIte (fun _ => quietPure) fun _ => keepsThen quietRefusedIf fun _ => keepsThen (quietJson small) fun _ =>
    quietRefusedIf

theorem quietCaps (fine : SoundCaps py settings payload) : Quiet (enforceRequestCaps py settings payload) := by
  have small : ∀ key, (payload.get key).height ≤ py.dumpsRoom := fun key => heightOfGet key fine.nesting
  refine keepsThen quietRequire fun _ => keepsThen (quietMessages fine.messages) fun _ => ?_
  refine keepsThen (quietScalars fine.numbers) fun _ => keepsThen quietAudioOutput fun _ => ?_
  refine keepsThen (quietStop fine.stop) fun _ => keepsThen (quietUser fine.user) fun _ => ?_
  refine keepsThen (quietLogitBias fine.biases (small _)) fun _ => keepsThen (quietTools fine.tools (small _)) fun _ => ?_
  refine keepsThen (quietLegacyFunctions fine.functions (small _)) fun _ => ?_
  refine keepsThen (quietToolChoice fine.toolChoice (small _)) fun _ => keepsThen quietRequire fun _ => ?_
  refine keepsThen (quietFunctionChoice fine.functionCall (small _)) fun _ => ?_
  refine keepsThen (quietResponseFormat fine.responseFormat (small _)) fun _ => ?_
  refine keepsThen (quietMetadata fine.metadata (small _)) fun _ => keepsThen (quietObjectSize (small _)) fun _ => ?_
  exact quietObjectSize (small _)

end Caps

end SlaifGateway.ChatPolicy
