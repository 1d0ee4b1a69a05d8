import SlaifGateway.ChatPolicy.Totality

/-! The policy as a whole: what is looked up and encoded after the caps, and the nesting that the estimate
walks and writes. -/
namespace SlaifGateway.ChatPolicy
open Library Library.Tx
open Document (hashable)

section Findings
variable {settings : Settings} {value : Document} {fields : Fields}

theorem calmFinding {found : Option PolicyError} : Calm (raiseFinding found) fun _ => found = none := by
  unfold raiseFinding
  split
  · exact keepsThrow refusedFine
  · exact keepsPure rfl

theorem calmFieldPolicy {payload : Fields} {trusted : Bool} :
    Calm (enforceFieldPolicy payload trusted) fun _ =>
      messageFinding ((payload.get (text "messages")).items?.getD []) 0 = none :=
  keepsThen calmFinding fun _ => calmFinding

theorem supportedOfNone {messages : List Document} {index : ℕ} (none : messageFinding messages index = none) :
    ∀ message ∈ messages, ∀ part ∈ (message.fields.get (text "content")).items?.getD [], supportedPart part = true := by
  induction messages generalizing index with
  | nil => intro message listed; cases listed
  | cons first rest ih =>
    rw [messageFinding] at none
    split at none
    · cases none
    next all =>
    intro message listed part shown
    rcases List.mem_cons.mp listed with rfl | later
    · have held := List.findIdx?_eq_none_iff.mp all part shown
      simpa using held
    · exact ih none message later part shown

variable {trusted unknown authority : Bool}

theorem quietTypeFindings {param : Text} (fine : hashable value = true) :
    Quiet (typeFindings trusted unknown value param) := by
  refine keepsThen (quietAmong fine) fun _ => keepsThen (quietAmong fine) fun _ => ?_
  exact keepsThen (quietAmong fine) fun _ => keepsThen (quietAmong fine) fun _ => quietPure

theorem quietToolFindings {index : ℕ} (fine : hashable (value.fields.get (text "type")) = true) :
    Quiet (toolFindings trusted unknown authority index value) := by
  unfold toolFindings
  split
  · split
    · exact quietPure
    · exact quietTypeFindings fine
  · exact quietPure

theorem quietToolListFindings {tools : List Document}
    (fine : ∀ tool ∈ tools, hashable (tool.fields.get (text "type")) = true) (index : ℕ) :
    Quiet (toolListFindings trusted unknown authority tools index) := by
  induction tools generalizing index with
  | nil => exact quietPure
  | cons tool rest ih =>
    refine keepsThen (quietToolFindings (fine tool List.mem_cons_self)) fun _ => ?_
    exact keepsThen (ih (fun other listed => fine other (List.mem_cons_of_mem _ listed)) (index + 1)) fun _ => quietPure

theorem quietChoiceFindings (fine : hashable (value.fields.get (text "type")) = true) :
    Quiet (toolChoiceFindings trusted unknown authority value) := by
  unfold toolChoiceFindings
  split
  · refine keepsThen (p := fun _ => True) (keepsIte (fun _ => quietPure) fun _ => ?_) fun _ => quietPure
    refine keepsThen (quietAmong fine) fun _ => keepsThen (quietAmong fine) fun _ => ?_
    exact keepsThen (quietAmong fine) fun _ => keepsThen (quietAmong fine) fun _ => quietPure
  · exact quietPure

theorem quietCapabilityPolicy {model : Text}
    (tools : ∀ tool ∈ (fields.get (text "tools")).items?.getD [], hashable (tool.fields.get (text "type")) = true)
    (choice : hashable ((fields.get (text "tool_choice")).fields.get (text "type")) = true) :
    Quiet (enforceCapabilityPolicy trusted unknown authority fields model) := by
  refine keepsThen (quietToolListFindings tools 0) fun _ => keepsThen (quietChoiceFindings choice) fun _ => ?_
  exact quietOf calmFinding

end Findings

section Estimates
variable {py : Interpreter} {settings : Settings}

theorem quietTextTokens {t : Text} : Quiet (estimateTextTokens t) := keepsThen calmFound fun _ => quietPure

theorem quietWritten {value : Document} (small : value.height ≤ py.dumpsRoom) : Quiet (estimateWritten py value) :=
  keepsThen (quietCanonical small) fun _ => quietPure

mutual
theorem quietValue (value : Document) {room : ℕ} (small : value.height ≤ py.dumpsRoom) (walked : value.height ≤ room) :
    Quiet (estimateValueTokens py value room) := by
  cases value with
  | null => exact quietPure
  | str t => exact quietTextTokens
  | arr items =>
    rw [Document.height] at small walked
    refine keepsThen (p := fun _ => True) ?_ fun _ => ?_
    · unfold raiseIf
      rw [if_neg (Nat.ne_of_gt (Nat.lt_of_lt_of_le (Nat.succ_pos _) walked))]
      exact quietPure
    refine keepsThen (quietItems items (Nat.le_of_succ_le small) (Nat.le_sub_one_of_lt walked)) fun _ => quietPure
  | obj fields =>
    unfold estimateValueTokens
    split
    · exact keepsThen quietTextTokens fun _ => quietPure
    · exact quietWritten small
  | _ => exact quietWritten small

theorem quietItems (items : List Document) {room : ℕ} (small : Document.heightItems items ≤ py.dumpsRoom)
    (walked : Document.heightItems items ≤ room) : Quiet (estimateItems py items room) := by
  cases items with
  | nil => exact quietPure
  | cons value rest =>
    rw [Document.heightItems] at small walked
    have here := quietValue value (Nat.le_trans (Nat.le_max_left ..) small) (Nat.le_trans (Nat.le_max_left ..) walked)
    have later := quietItems rest (Nat.le_trans (Nat.le_max_right ..) small) (Nat.le_trans (Nat.le_max_right ..) walked)
    exact keepsThen here fun _ => keepsThen later fun _ => quietPure
end

theorem heightValues (fields : Fields) : Document.heightItems (fields.map Prod.snd) = Document.heightFields fields := by
  induction fields with
  | nil => rfl
  | cons field rest ih => rw [List.map_cons,Document.heightItems,ih,Document.heightFields]

theorem quietEstimateMessages {messages : List Fields}
    (small : ∀ message ∈ messages, Document.heightFields message ≤ py.dumpsRoom)
    (walked : ∀ message ∈ messages, Document.heightFields message ≤ py.walkRoom) :
    Quiet (estimateMessages py messages) := by
  induction messages with
  | nil => exact quietPure
  | cons message rest ih =>
    have dumped := small message List.mem_cons_self
    have room := walked message List.mem_cons_self
    rw [← heightValues] at dumped room
    refine keepsThen (quietItems _ dumped room) fun _ => ?_
    exact keepsThen (ih (fun other listed => small other (List.mem_cons_of_mem _ listed))
      fun other listed => walked other (List.mem_cons_of_mem _ listed)) fun _ => quietPure

theorem quietEstimateFields {fields : Fields}
    (small : ∀ field ∈ fields, isContainer field.2 = true → field.2.height + 1 ≤ py.dumpsRoom) :
    Quiet (estimateFields py fields) := by
  induction fields with
  | nil => exact quietPure
  | cons field rest ih =>
    have later := ih fun other listed => small other (List.mem_cons_of_mem _ listed)
    refine keepsIte (fun _ => later) fun counted => ?_
    have container : isContainer field.2 = true := by
      cases shown : isContainer field.2 with
      | true => rfl
      | false => exact absurd (.inr shown) counted
    have fits : Document.height (.obj [(field.1,field.2)]) ≤ py.dumpsRoom := by
      have here := small field List.mem_cons_self container
      rw [Document.height,Document.heightFields,Document.heightFields,Nat.max_zero]
      exact here
    exact keepsThen (quietCanonical fits) fun _ => keepsThen later fun _ => quietPure

theorem typeOfSupported {part : Fields} (supported : supportedPart (.obj part) = true) :
    ∃ t, part.get (text "type") = .str t := by
  have held : (part.get (text "type")).text?.any (contentPartTypes.map text).contains = true := by
    simpa [supportedPart,Document.text?,Document.isMapping,Document.fields] using supported
  cases shown : part.get (text "type") with
  | str t => exact ⟨t,rfl⟩
  | _ => rw [shown] at held; cases held

theorem plainMediaUrl {part : Fields} {t url : Text} (shown : part.get (text "type") = .str t)
    (media : t ∈ ["image_url","video_url"].map text) (sound : soundObjectPart py settings part = true)
    (given : ((part.get t).fields.get (text "url")).text? = some url) : plainText url = true := by
  have cases : t = text "image_url" ∨ t = text "video_url" := by simpa using media
  simp only [soundObjectPart,shown,Document.isText] at sound
  rcases cases with rfl | rfl
  · have image : soundImage py settings (part.get (text "image_url")).fields = true := sound
    simp only [soundImage,Bool.and_eq_true] at image
    exact plainOf image.1.1 given
  · exact plainOf sound given

theorem quietMedia {part : Document} (supported : supportedPart part = true) (sound : soundPart py settings part = true) :
    Quiet (mediaBytes part) := by
  unfold mediaBytes
  split
  · next fields =>
    obtain ⟨_,object⟩ := Bool.and_eq_true_iff.mp sound
    obtain ⟨t,shown⟩ := typeOfSupported supported
    rw [shown]
    refine keepsBind (p := fun media => media = decide (t ∈ ["image_url","video_url"].map text)) (keepsPure rfl) ?_
    rintro _ rfl
    refine keepsIte (fun media => ?_) fun _ => quietPure
    split
    · next url given => exact quietLength (plainMediaUrl shown (of_decide_eq_true media) object given)
    · exact quietPure
  · exact quietPure

theorem quietMediaParts {parts : List Document} (supported : ∀ part ∈ parts, supportedPart part = true)
    (sound : ∀ part ∈ parts, soundPart py settings part = true) : Quiet (mediaBytesOfParts parts) := by
  induction parts with
  | nil => exact quietPure
  | cons part rest ih =>
    refine keepsThen (quietMedia (supported part List.mem_cons_self) (sound part List.mem_cons_self)) fun _ => ?_
    exact keepsThen (ih (fun other listed => supported other (List.mem_cons_of_mem _ listed))
      fun other listed => sound other (List.mem_cons_of_mem _ listed)) fun _ => quietPure

theorem quietMediaMessages {messages : List Fields}
    (supported : ∀ message ∈ messages, ∀ part ∈ (message.get (text "content")).items?.getD [], supportedPart part = true)
    (sound : ∀ message ∈ messages, soundContent py settings (message.get (text "content")) = true) :
    Quiet (mediaBytesOfMessages messages) := by
  induction messages with
  | nil => exact quietPure
  | cons message rest ih =>
    have parts := (Bool.and_eq_true_iff.mp (sound message List.mem_cons_self)).2
    refine keepsThen (quietMediaParts (supported message List.mem_cons_self) (List.all_eq_true.mp parts)) fun _ => ?_
    exact keepsThen (ih (fun other listed => supported other (List.mem_cons_of_mem _ listed))
      fun other listed => sound other (List.mem_cons_of_mem _ listed)) fun _ => quietPure

end Estimates

section Apply
variable {py : Interpreter} {settings : Settings} {value : Document} {body : Fields}

theorem quietChoiceCount : Quiet (validateChoiceCount settings value) :=
  keepsIte (fun _ => quietPure) fun _ => keepsThen calmExpect fun _ => keepsThen quietRequire fun _ => quietPure

theorem calmMessageFields {messages : List Document} {index : ℕ} :
    Calm (messageFields messages index) fun found => ∀ message ∈ found, .obj message ∈ messages := by
  induction messages generalizing index with
  | nil => exact keepsPure fun _ listed => by cases listed
  | cons message rest ih =>
    refine keepsBind calmFound fun fields mapping => keepsThen quietRefusedIf fun _ => keepsBind ih fun later inner => ?_
    have shown : message = .obj fields := by
      cases message with
      | obj _ => exact congrArg _ (Option.some.inj mapping)
      | _ => cases mapping
    refine keepsPure fun other listed => ?_
    rcases List.mem_cons.mp listed with rfl | later
    · exact shown ▸ List.mem_cons_self
    · exact List.mem_cons_of_mem _ (inner other later)

theorem calmMessages : Calm (validatedMessages value) fun found =>
    ∀ message ∈ found, .obj message ∈ value.items?.getD [] := by
  refine keepsBind calmExpect fun items shown => ?_
  rw [shown]
  exact calmMessageFields

theorem quietLimitValue {param : String} : Quiet (validateOutputTokenValue settings value param) :=
  keepsThen calmFound fun _ => keepsThen quietRefusedIf fun _ => quietPure

-- What the policy adds to the body.
structure Extends (body effective : Fields) : Prop where
  same : ∀ field, field ≠ text "max_completion_tokens" → field ≠ text "stream_options" →
    effective.get field = body.get field
  small : ∀ field ∈ effective, isContainer field.2 = true → field.2.height ≤ max 1 (Document.heightFields body)

theorem memPut {fields : Fields} {key : Text} {field : Text × Document} (listed : field ∈ fields.put key value) :
    field ∈ fields ∨ field = (key,value) := by
  unfold Fields.put at listed
  split at listed
  · obtain ⟨old,mem,made⟩ := List.mem_map.mp listed
    split at made
    · exact .inr made.symm
    · exact .inl (made ▸ mem)
  · rcases List.mem_append.mp listed with mem | new
    · exact .inl mem
    · exact .inr (List.mem_singleton.mp new)

theorem heightFieldsAtMost {fields : Fields} {n : ℕ} (small : ∀ field ∈ fields, field.2.height ≤ n) :
    Document.heightFields fields ≤ n := by
  induction fields with
  | nil => exact Nat.zero_le n
  | cons field rest ih =>
    rw [Document.heightFields]
    have later := ih fun other listed => small other (List.mem_cons_of_mem _ listed)
    exact Nat.max_le.mpr ⟨small field List.mem_cons_self,later⟩

theorem usageHeight (options : Fields) : (includeUsage options).height ≤ Document.heightFields options + 1 := by
  rw [includeUsage,Document.height]
  refine Nat.succ_le_succ (heightFieldsAtMost fun field listed => ?_)
  rcases memPut listed with mem | rfl
  · exact Document.heightField mem
  · exact Nat.zero_le _

theorem extendsSelf : Extends body body where
  same _ _ _ := rfl
  small _ listed _ := Nat.le_trans (Document.heightField listed) (Nat.le_max_right ..)

theorem extendsPut {effective : Fields} {key : Text} (before : Extends body effective)
    (added : key = text "max_completion_tokens" ∨ key = text "stream_options")
    (small : isContainer value = true → value.height ≤ max 1 (Document.heightFields body)) :
    Extends body (effective.put key value) where
  same field notLimit notOptions := by
    have other : field ≠ key := by
      rcases added with rfl | rfl
      · exact notLimit
      · exact notOptions
    rw [Fields.getPutOther value other]
    exact before.same field notLimit notOptions
  small field listed container := by
    rcases memPut listed with mem | rfl
    · exact before.small field mem container
    · exact small container

theorem calmLimit : Calm (resolveOutputTokenLimit settings body) fun output =>
    Extends body output.body ∧ output.body.get (text "stream_options") = body.get (text "stream_options") := by
  refine keepsThen quietRequire fun _ => keepsIte (fun _ => ?_) fun _ => keepsIte (fun _ => ?_) fun _ => ?_
  · exact keepsThen quietLimitValue fun _ => keepsPure ⟨extendsSelf,rfl⟩
  · exact keepsThen quietLimitValue fun _ => keepsPure ⟨extendsSelf,rfl⟩
  · refine keepsPure ⟨extendsPut extendsSelf (.inl rfl) fun container => ?_,Fields.getPutOther _ (by decide)⟩
    cases container

theorem calmUsage {given : Fields} (before : Extends body given)
    (options : given.get (text "stream_options") = body.get (text "stream_options")) :
    Calm (forceStreamingUsageMetadata given) fun effective => Extends body effective := by
  refine keepsIte (fun _ => keepsPure before) fun _ => keepsIte (fun _ => keepsPure ?_) fun _ => ?_
  · exact extendsPut before (.inr rfl) fun _ => Nat.le_trans (usageHeight []) (Nat.le_max_left ..)
  · refine keepsBind calmExpect fun fields mapping => keepsPure (extendsPut before (.inr rfl) fun _ => ?_)
    have inner := Document.heightGet body (text "stream_options")
    have shown : (body.get (text "stream_options")).height = Document.heightFields fields + 1 := by
      rw [← options]
      cases found : given.get (text "stream_options") with
      | obj given => rw [found] at mapping; rw [Document.height,Option.some.inj mapping]
      | _ => rw [found] at mapping; cases mapping
    rw [shown] at inner
    exact Nat.le_trans (usageHeight fields) (Nat.le_trans inner (Nat.le_max_right ..))

theorem heightListed {d : Document} (listed : d ∈ value.items?.getD []) : d.height < value.height := by
  cases value with
  | arr items =>
    rw [Document.height]
    exact Nat.lt_succ_of_le (Document.heightMember listed)
  | _ => cases listed

theorem quietRoom {height room : ℕ} (fits : height ≤ room) {error : Raised} :
    Quiet (raiseIf (room < height) error : Checked Unit) := by
  unfold raiseIf
  rw [if_neg (Nat.not_lt.mpr fits)]
  exact quietPure

theorem quietApply (fine : SoundRequest py settings body) (mode : Text) (deferMediaLimit : Bool) :
    Quiet (apply py settings body mode deferMediaLimit) := by
  have parts := fine.messages
  have dumped := fine.nesting
  have walked := fine.walked
  rw [Document.height] at dumped walked
  refine keepsThen (quietRoom fine.copied) fun _ => keepsBind calmFieldPolicy fun _ supported => ?_
  refine keepsThen (quietCaps fine.toSoundCaps) fun _ => keepsThen quietChoiceCount fun _ => ?_
  refine keepsBind calmMessages fun messages listed => keepsBind calmLimit fun output ⟨grown,options⟩ => ?_
  refine keepsBind (calmUsage grown options) fun effective extended => ?_
  have tools := extended.same (text "tools") (by decide) (by decide)
  have choice := extended.same (text "tool_choice") (by decide) (by decide)
  refine keepsThen (quietCapabilityPolicy (tools ▸ fine.toolTypes) (choice ▸ fine.choiceType)) fun _ => ?_
  have heights : ∀ message ∈ messages, Document.heightFields message ≤ Document.heightFields body := by
    intro message mem
    have inner := heightListed (listed message mem)
    rw [Document.height] at inner
    exact Nat.le_trans (Nat.le_of_lt (Nat.lt_of_succ_lt inner)) (Document.heightGet body (text "messages"))
  refine keepsThen (quietEstimateMessages (fun message mem => ?_) fun message mem => ?_) fun _ => ?_
  · exact Nat.le_trans (heights message mem) (Nat.le_of_succ_le dumped)
  · exact Nat.le_trans (heights message mem) (Nat.le_of_succ_le walked)
  refine keepsThen (quietEstimateFields fun field mem container => ?_) fun _ => ?_
  · have small := extended.small field (List.mem_mergeSort.mp mem) container
    have room := fine.dumped
    omega
  refine keepsThen (p := fun _ => True) (keepsIte (fun _ => ?_) fun _ => quietPure) fun _ => ?_
  · have sound : ∀ message ∈ messages, soundContent py settings (message.get (text "content")) = true :=
      fun message mem => List.all_eq_true.mp parts (.obj message) (listed message mem)
    have types := fun message mem => supportedOfNone supported (.obj message) (listed message mem)
    exact keepsThen (quietMediaMessages types sound) fun _ => quietPure
  exact keepsThen (keepsRaiseIf refusedFine) fun _ => quietPure

-- It returns or raises a request policy error.
def Answers {α : Type} (x : Checked α) : Prop :=
  (∃ a, x.exec () = (.ok a,())) ∨ ∃ error, x.exec () = (.error (.refused error),())

theorem answersOfQuiet {α : Type} {x : Checked α} (quiet : Quiet x) : Answers x := by
  have ended := quiet () trivial
  unfold Ends at ended
  rcases out : x.exec () with ⟨e | a,s⟩ <;> rw [out] at ended
  · cases e with
    | refused error => exact .inr ⟨error,out⟩
    | escaped error => exact absurd ⟨error,rfl⟩ ended.2
  · exact .inl ⟨a,out⟩

theorem escapesNot {α : Type} {x : Checked α} {error : Escape} (escapes : x.exec () = (.error (.escaped error),())) :
    ¬Answers x := by
  rintro (⟨_,ended⟩ | ⟨_,ended⟩)
  · cases escapes.symm.trans ended
  · cases escapes.symm.trans ended

-- A single check needs just what is asked of its value.
theorem answersOrRaise {α : Type} {found : Option α} {escape : Escape} :
    Answers (orRaise found (.escaped escape)) ↔ found.isSome = true := by
  cases found with
  | none => exact ⟨fun answers => absurd answers (escapesNot rfl),fun held => by cases held⟩
  | some a => exact ⟨fun _ => rfl,fun _ => .inl ⟨a,rfl⟩⟩

theorem lengthAnswers {t : Text} : Answers (byteLength t) ↔ plainText t = true := by
  rw [byteLength,answersOrRaise,Option.isSome_map,encodeIsSome,plainText,List.all_eq_true]
  simp

theorem amongAnswers {names : List String} : Answers (isAmong value names) ↔ hashable value = true := by
  refine ⟨fun answers => ?_,fun fine => answersOfQuiet (quietAmong fine)⟩
  cases value with
  | arr _ => exact absurd answers (escapesNot rfl)
  | obj _ => exact absurd answers (escapesNot rfl)
  | _ => rfl

theorem rangeAnswers {minimum maximum : ℤ} : Answers (withinRange value minimum maximum) ↔ convertible value = true := by
  refine ⟨fun answers => ?_,fun fine => answersOfQuiet (quietRange fine)⟩
  cases value with
  | int n =>
    rw [convertibleInt]
    by_contra large
    rw [withinRange,if_pos (Nat.not_lt.mp large)] at answers
    exact escapesNot rfl answers
  | _ => rfl

def plainInterpreter : Interpreter := ⟨fun _ => none,fun _ => false,900,900,900⟩

def greeting : Fields :=
  [(text "model",.str (text "m")),
    (text "messages",.arr [.obj [(text "role",.str (text "user")),(text "content",.str (text "hi"))]])]

end Apply

end SlaifGateway.ChatPolicy
