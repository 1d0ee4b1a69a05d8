import SlaifGateway.LocalCoding.CodecRuns

/-! Tool confinement: the calls a client sees in items, argument events and response outputs are
calls of tools the request declared, and argument events only follow the announcement of a live call. -/
namespace SlaifGateway.LocalCoding
open Library

section Declared

def Kind.declaredType : Kind → String
  | .function => "function"
  | .custom => "custom"

-- The namespace an entry of the tools list opens.
def groupNamespace (group : Fields) : Option Text :=
  if (group.get (text "type")).isText "namespace" then (group.get (text "name")).text? else none

def entriesOf (value : Document) : List Document := (iterate value).toOption.getD []

def groupTools (group : Document) : List (Option Text × Document) :=
  match groupNamespace group.fields with
  | some n => (entriesOf ((group.fields.get? (text "tools")).getD (.arr []))).map fun tool => (some n,tool)
  | none => [(none,group)]

def requestTools (body : Fields) : List (Option Text × Document) :=
  (entriesOf ((body.get? (text "tools")).getD (.arr []))).flatMap groupTools

structure DeclaredIn (body : Fields) (n : Option Text) (name : Text) (kind : Kind) : Prop where
  listed : ∃ tool : Document, (n,tool) ∈ requestTools body ∧ tool.fields.get (text "name") = .str name ∧
    tool.fields.get (text "type") = .str (text kind.declaredType)

theorem declaredKindMeans {value : Document} {kind : Kind} (ok : declaredKind value = .ok kind) :
    value = .str (text kind.declaredType) := by
  unfold declaredKind at ok
  split_ifs at ok with function custom
  · cases ok
    exact isTextMeans function
  · cases ok
    exact isTextMeans custom

theorem mappingMeans {value : Document} {fields : Fields} (ok : mapping value = .ok fields) : value = .obj fields := by
  unfold mapping at ok
  split at ok
  · cases ok
    rfl
  · cases ok

-- A declaration comes from one entry of the list that is read.
def From (n : Option Text) (tool : Document) (d : Declaration) : Prop :=
  d.namespaceName = n ∧ tool.fields.get (text "name") = .str d.name ∧
    tool.fields.get (text "type") = .str (text d.kind.declaredType)

variable {tools tools' : List (Text × Declaration)} {flat flat' : List Document}

theorem declareToolFrom {n : Option Text} {tool : Document} (ok : declareTool n tool tools flat = .ok (tools',flat')) :
    ∀ entry ∈ tools', entry ∈ tools ∨ From n tool entry.2 := by
  obtain ⟨fields,mapped,read⟩ := okBind ok
  have isObject := mappingMeans mapped
  subst isObject
  split at read
  · next name named =>
    obtain ⟨_,_,read⟩ := okBind read
    obtain ⟨kind,typed,read⟩ := okBind read
    dsimp only at read
    obtain ⟨_,_,read⟩ := okBind read
    obtain ⟨_,_,read⟩ := okBind read
    cases read
    intro entry mem
    rcases List.mem_append.mp mem with old | new
    · exact .inl old
    · rw [List.mem_singleton.mp new]
      exact .inr ⟨rfl,named,declaredKindMeans typed⟩
  · cases read

theorem declareEntriesFrom {n : Option Text} (entries : List Document)
    (ok : declareEntries n entries tools flat = .ok (tools',flat')) :
    ∀ entry ∈ tools', entry ∈ tools ∨ ∃ tool ∈ entries, From n tool entry.2 := by
  induction entries generalizing tools flat with
  | nil =>
    cases ok
    exact fun entry mem => .inl mem
  | cons tool rest ih =>
    obtain ⟨⟨mid,midFlat⟩,first,ok⟩ := okBind ok
    intro entry mem
    rcases ih ok entry mem with old | ⟨other,inside,source⟩
    · rcases declareToolFrom first entry old with older | here
      · exact .inl older
      · exact .inr ⟨tool,List.mem_cons_self,here⟩
    · exact .inr ⟨other,List.mem_cons_of_mem _ inside,source⟩

theorem declareGroupFrom {group : Document} (ok : declareGroup group tools flat = .ok (tools',flat')) :
    ∀ entry ∈ tools', entry ∈ tools ∨ ∃ tool, (entry.2.namespaceName,tool) ∈ groupTools group ∧
      From entry.2.namespaceName tool entry.2 := by
  obtain ⟨fields,mapped,read⟩ := okBind ok
  have isObject := mappingMeans mapped
  subst isObject
  dsimp only at read
  split at read
  · next unnamed =>
    have plain : groupNamespace fields = none := by
      unfold groupNamespace
      split
      · next is =>
        rw [if_pos is] at unnamed
        rw [unnamed]
        rfl
      · rfl
    intro entry mem
    rcases declareEntriesFrom _ read entry mem with old | ⟨tool,inside,source⟩
    · exact .inl old
    · rw [List.mem_singleton] at inside
      subst inside
      refine .inr ⟨.obj fields,?_,rfl,source.2⟩
      change _ ∈ match groupNamespace fields with
        | some n => _
        | none => _
      rw [plain,source.1]
      exact List.mem_singleton.mpr rfl
  · next n named =>
    obtain ⟨_,_,read⟩ := okBind read
    obtain ⟨entries,iterated,read⟩ := okBind read
    have opened : groupNamespace fields = some n := by
      unfold groupNamespace
      split at named
      · next is => rw [if_pos is,named]; rfl
      · cases named
    intro entry mem
    rcases declareEntriesFrom _ read entry mem with old | ⟨tool,inside,source⟩
    · exact .inl old
    · refine .inr ⟨tool,?_,rfl,source.2⟩
      change _ ∈ match groupNamespace fields with
        | some n => _
        | none => _
      rw [opened,source.1]
      refine List.mem_map.mpr ⟨tool,?_,rfl⟩
      rw [entriesOf]
      change tool ∈ (iterate ((Fields.get? fields (text "tools")).getD (.arr []))).toOption.getD []
      rw [iterated]
      exact inside
  · cases read

theorem declareGroupsFrom (groups : List Document) (ok : declareGroups groups tools flat = .ok (tools',flat')) :
    ∀ entry ∈ tools', entry ∈ tools ∨ ∃ tool, (entry.2.namespaceName,tool) ∈ groups.flatMap groupTools ∧
      From entry.2.namespaceName tool entry.2 := by
  induction groups generalizing tools flat with
  | nil =>
    cases ok
    exact fun entry mem => .inl mem
  | cons group rest ih =>
    obtain ⟨⟨mid,midFlat⟩,first,ok⟩ := okBind ok
    intro entry mem
    rw [List.flatMap_cons]
    rcases ih ok entry mem with old | ⟨tool,inside,source⟩
    · rcases declareGroupFrom first entry old with older | ⟨tool,inside,source⟩
      · exact .inl older
      · exact .inr ⟨tool,List.mem_append_left _ inside,source⟩
    · exact .inr ⟨tool,List.mem_append_right _ inside,source⟩

theorem constructDeclares {body : Fields} {codec : Codec} (made : construct body = .ok codec) :
    ∀ entry ∈ codec.tools, DeclaredIn body entry.2.namespaceName entry.2.name entry.2.kind := by
  obtain ⟨groups,iterated,made⟩ := okBind made
  obtain ⟨⟨tools,flat⟩,declared,made⟩ := okBind made
  obtain ⟨_,_,made⟩ := okBind made
  cases made
  intro entry mem
  rcases declareGroupsFrom groups declared entry mem with old | ⟨tool,inside,source⟩
  · cases old
  · refine ⟨tool,?_,source.2⟩
    unfold requestTools entriesOf
    rw [iterated]
    exact inside

-- The item calls a tool of the request, under its namespace, name and kind.
def DeclaredCall (body : Fields) (item : Document) (kind : Kind) : Prop :=
  ∃ n name, DeclaredIn body n name kind ∧ item.fields.get (text "name") = .str name ∧
    item.fields.get (text "namespace") = spaceValue n

theorem declaredItemCall {body : Fields} {codec : Codec} (made : construct body = .ok codec) {item : Document} {kind : Kind}
    (declared : DeclaredItem codec.tools item kind) : DeclaredCall body item kind := by
  obtain ⟨wire,d,found,rfl,name,space⟩ := declared
  obtain ⟨before,after,shape,_⟩ := List.lookup_eq_some_iff.mp found
  have mem : (wire,d) ∈ codec.tools := by
    rw [shape]
    simp
  exact ⟨d.namespaceName,d.name,constructDeclares made _ mem,name,space⟩

end Declared

section Outputs
variable {codec : Codec}

def outputOf (response : Fields) : List Document :=
  match response.get (text "output") with
  | .arr items => items
  | _ => []

def boundFields (out : Fields) (entry : Text × Call) : Fields :=
  ((out.put (text "id") (.str entry.1)).put (text "call_id") (.str entry.2.callId)).put (text "status")
    (.str (text "completed"))

-- What an output item becomes at its position.
inductive OutputItem (codec : Codec) (terminal : Bool) (position : Nat) (raw : Document) : Document → Prop
  | other (notCall : functionCall raw = false) : OutputItem codec terminal position raw raw
  | call {fields out : Fields} {wire d} (ongoing : terminal = false) (is : raw = .obj fields)
      (translated : Translated codec fields out false wire d) : OutputItem codec terminal position raw (.obj out)
  | bound {fields out : Fields} {wire d entry} (ended : terminal = true) (is : raw = .obj fields)
      (translated : Translated codec fields out false wire d) (placed : codec.callAt position = .ok entry)
      (closed : entry.2.closed = true) (stored : fields.get (text "arguments") = .str entry.2.arguments)
      (named : fields.get (text "name") = .str entry.2.name) :
      OutputItem codec terminal position raw (.obj (boundFields out entry))

theorem terminalItemMeans {position : Nat} {raw canonical bound : Fields} {id : Text}
    (ok : terminalItem codec position raw canonical = .ok (id,bound)) :
    ∃ entry, codec.callAt position = .ok entry ∧ entry.1 = id ∧ entry.2.closed = true ∧
      raw.get (text "arguments") = .str entry.2.arguments ∧ raw.get (text "name") = .str entry.2.name ∧
      bound = boundFields canonical entry := by
  obtain ⟨entry,found,ok⟩ := okBind ok
  obtain ⟨_,fits,ok⟩ := okBind ok
  obtain ⟨_,_,ok⟩ := okBind ok
  obtain ⟨_,_,ok⟩ := okBind ok
  cases ok
  have all := demandOk fits
  simp only [Bool.and_eq_true] at all
  exact ⟨entry,found,rfl,all.1.1,sameTextMeans all.1.2,sameTextMeans all.2,rfl⟩

structure Outputs (codec : Codec) (terminal : Bool) (start : Nat) (raws converted : List Document) (seen : List Text) :
    Prop where
  count : converted.length = raws.length
  items : ∀ (k : Nat) (item : Document), converted[k]? = some item →
    ∃ raw, raws[k]? = some raw ∧ OutputItem codec terminal (start + k) raw item
  named : ∀ id ∈ seen, ∃ (k : Nat) (raw : Document) (entry : Text × Call), raws[k]? = some raw ∧
    functionCall raw = true ∧ codec.callAt (start + k) = .ok entry ∧ entry.1 = id

theorem outputsCons {terminal : Bool} {start : Nat} {raw item : Document} {raws converted : List Document}
    {seen : List Text} (rest : Outputs codec terminal (start + 1) raws converted seen)
    (here : OutputItem codec terminal start raw item) :
    Outputs codec terminal start (raw :: raws) (item :: converted) seen := by
  refine ⟨by rw [List.length_cons,List.length_cons,rest.count],?_,?_⟩
  · intro k held found
    cases k with
    | zero =>
      cases found
      exact ⟨raw,rfl,here⟩
    | succ k =>
      obtain ⟨source,placed,converts⟩ := rest.items k held (by simpa using found)
      have place : start + 1 + k = start + (k + 1) := by omega
      exact ⟨source,by simpa using placed,place ▸ converts⟩
  · intro id mem
    obtain ⟨k,source,entry,placed,call,found,same⟩ := rest.named id mem
    have place : start + 1 + k = start + (k + 1) := by omega
    exact ⟨k + 1,source,entry,by simpa using placed,call,place ▸ found,same⟩

theorem outputItemsMeans {terminal : Bool} {start : Nat} {raws converted : List Document} {seen : List Text}
    (ok : codec.outputItems terminal start raws = .ok (converted,seen)) :
    Outputs codec terminal start raws converted seen := by
  induction raws generalizing start converted seen with
  | nil =>
    cases ok
    exact ⟨rfl,by simp,by simp⟩
  | cons raw rest ih =>
    obtain ⟨canonical,translated,ok⟩ := okBind ok
    by_cases call : functionCall raw = true
    · obtain ⟨fields,out,wire,d,is,rfl,facts⟩ := itemMeans translated call
      cases terminal with
      | false =>
        rw [Bool.false_and,if_neg Bool.false_ne_true] at ok
        obtain ⟨⟨later,named⟩,tail,ok⟩ := okBind ok
        cases ok
        exact outputsCons (ih tail) (.call rfl is facts)
      | true =>
        rw [Bool.true_and,if_pos call] at ok
        obtain ⟨⟨id,bound⟩,terminalOk,ok⟩ := okBind ok
        obtain ⟨⟨later,named⟩,tail,ok⟩ := okBind ok
        cases ok
        obtain ⟨entry,found,same,closed,stored,nameIs,rfl⟩ := terminalItemMeans terminalOk
        rw [is] at stored nameIs
        have all := outputsCons (ih tail) (.bound rfl is facts found closed stored nameIs)
        refine ⟨all.count,all.items,?_⟩
        intro other mem
        rcases List.mem_cons.mp mem with rfl | older
        · exact ⟨0,raw,entry,rfl,call,found,same⟩
        · exact all.named other older
    · have notCall : functionCall raw = false := by simpa using call
      rw [notCall,Bool.and_false,if_neg Bool.false_ne_true] at ok
      obtain ⟨⟨later,named⟩,tail,ok⟩ := okBind ok
      cases ok
      have same : canonical = raw := by
        rw [Codec.item,if_neg call] at translated
        cases translated
        rfl
      rw [same]
      exact outputsCons (ih tail) (.other notCall)

theorem responseMeans {raw response : Fields} {terminal : Bool} (ok : codec.response raw terminal = .ok response) :
    ∃ seen, Outputs codec terminal 0 (outputOf raw) (outputOf response) seen ∧
      (terminal = true → ∀ id ∈ codec.calls.map Prod.fst, id ∈ seen) := by
  unfold Codec.response at ok
  split at ok
  · next output stored =>
    obtain ⟨_,_,ok⟩ := okBind ok
    obtain ⟨⟨converted,seen⟩,run,ok⟩ := okBind ok
    obtain ⟨_,all,ok⟩ := okBind ok
    cases ok
    have raws : outputOf raw = output := by
      unfold outputOf Fields.get
      cases held : raw.get? (text "output") with
      | none =>
        rw [held] at stored
        cases stored
        rfl
      | some value =>
        rw [held] at stored
        cases stored
        rfl
    have plain : ∀ r : Fields, outputOf (if r.has (text "tools") then r.put (text "tools") codec.originalTools else r) =
        outputOf r := by
      intro r
      split
      · unfold outputOf
        rw [Fields.getPutOther _ (by decide)]
      · rfl
    have outs : outputOf (if raw.has (text "output") then raw.put (text "output") (.arr converted) else raw) =
        converted := by
      split
      · unfold outputOf
        rw [Fields.getPutSame]
      · next absent =>
        have none : raw.get? (text "output") = none := by
          simpa [Fields.has] using absent
        rw [none] at stored
        cases stored
        cases run
        exact raws
    refine ⟨seen,?_,?_⟩
    · rw [plain,outs,raws]
      exact outputItemsMeans run
    · intro ended
      have every := demandOk all
      rw [ended,Bool.not_true,Bool.false_or,List.all_eq_true] at every
      intro id mem
      exact List.contains_iff_mem.mp (every id mem)
  · cases ok

theorem callKindPut {fields : Fields} {key : Text} (v : Document) (other : text "type" ≠ key) :
    callKind (.obj (fields.put key v)) = callKind (.obj fields) := by
  have typed : (Document.obj (fields.put key v)).fields.get (text "type") = fields.get (text "type") :=
    Fields.getPutOther v other
  unfold callKind functionCall
  rw [typed]
  rfl

theorem boundKind (out : Fields) (entry : Text × Call) : callKind (.obj (boundFields out entry)) = callKind (.obj out) := by
  unfold boundFields
  rw [callKindPut _ (by decide),callKindPut _ (by decide),callKindPut _ (by decide)]

theorem boundGet (out : Fields) (entry : Text × Call) {k : Text} (notId : k ≠ text "id") (notCall : k ≠ text "call_id")
    (notStatus : k ≠ text "status") : (boundFields out entry).get k = out.get k := by
  unfold boundFields
  rw [Fields.getPutOther _ notStatus,Fields.getPutOther _ notCall,Fields.getPutOther _ notId]

theorem outputItemDeclared {terminal : Bool} {position : Nat} {raw item : Document} {kind : Kind}
    (converts : OutputItem codec terminal position raw item) (plain : callKind raw ≠ some .custom)
    (is : callKind item = some kind) : DeclaredItem codec.tools item kind := by
  cases converts with
  | other notCall =>
    rw [otherItemSilent notCall plain] at is
    cases is
  | call _ _ translated =>
    rw [translated.kind] at is
    cases is
    exact translatedDeclared translated
  | @bound fields out wire d entry _ _ translated _ _ _ _ =>
    rw [boundKind,translated.kind] at is
    cases is
    refine ⟨wire,d,translated.found,rfl,?_,?_⟩
    · exact (boundGet out entry (by decide) (by decide) (by decide)).trans translated.name
    · exact (boundGet out entry (by decide) (by decide) (by decide)).trans translated.space

theorem responseDeclared {raw response : Fields} {terminal : Bool} (ok : codec.response raw terminal = .ok response)
    (plain : ∀ item ∈ outputOf raw, callKind item ≠ some .custom) {item : Document} (mem : item ∈ outputOf response)
    {kind : Kind} (is : callKind item = some kind) : DeclaredItem codec.tools item kind := by
  obtain ⟨seen,outputs,_⟩ := responseMeans ok
  obtain ⟨k,found⟩ := List.mem_iff_getElem?.mp mem
  obtain ⟨source,placed,converts⟩ := outputs.items k item found
  exact outputItemDeclared converts (plain source (List.mem_iff_getElem?.mpr ⟨k,placed⟩)) is

end Outputs

section Confined

def CallEvent.argument : CallEvent → Option Kind
  | .delta kind _ | .argumentsDone kind => some kind
  | _ => none

def itemType (type : Text) : Prop := type = text itemAdded ∨ type = text itemDone
def argumentType (type : Text) : Prop := type = text argumentsDelta ∨ type = text argumentsDone

def ItemDeclared (tools : List (Text × Declaration)) (event : Fields) : Prop :=
  ∀ type kind, event.get (text "type") = .str type → itemType type → callKind (event.get (text "item")) = some kind →
    DeclaredItem tools (event.get (text "item")) kind

def OutputDeclared (tools : List (Text × Declaration)) (event : Fields) : Prop :=
  ∀ response : Fields, event.get (text "response") = .obj response → ∀ item ∈ outputOf response, ∀ kind,
    callKind item = some kind → DeclaredItem tools item kind

-- Responses reach the client translated, or without calls.
structure PlainResponse (native : Fields) : Prop where
  passed : ∀ type, native.get (text "type") = .str type → itemType type ∨ argumentType type → ∀ response : Fields,
    native.get (text "response") = .obj response → ∀ item ∈ outputOf response, callKind item = none
  output : ∀ response : Fields, native.get (text "response") = .obj response → ∀ item ∈ outputOf response,
    callKind item ≠ some .custom

def passesResponse (native : Fields) : Bool :=
  match native.get (text "type") with
  | .str type => [itemAdded,itemDone,argumentsDelta,argumentsDone].any fun t => type = text t
  | _ => false

def plainResponse (native : Fields) : Bool :=
  match native.get (text "response") with
  | .obj response => (outputOf response).all fun item =>
      callKind item ≠ some .custom && (!passesResponse native || callKind item = none)
  | _ => true

theorem plainResponseSound {native : Fields} (checked : plainResponse native = true) : PlainResponse native := by
  have every : ∀ response : Fields, native.get (text "response") = .obj response → ∀ item ∈ outputOf response,
      callKind item ≠ some .custom ∧ (passesResponse native = false ∨ callKind item = none) := by
    intro response held item mem
    unfold plainResponse at checked
    rw [held] at checked
    simpa using List.all_eq_true.mp checked item mem
  refine ⟨?_,fun response held item mem => (every response held item mem).1⟩
  intro type typed among response held item mem
  rcases (every response held item mem).2 with other | silent
  · unfold passesResponse at other
    rw [typed] at other
    rcases among with (is | is) | is | is <;> simp [is] at other
  · exact silent

variable {codec codec' : Codec} {native : Fields} {out : List Fields}

theorem itemEventOut {added : Bool} (ok : codec.itemEvent native added = .ok (codec',out)) :
    ∃ item, codec.item (native.get (text "item")) added = .ok item ∧
      out = [(native.put (text "item") item).put (text "sequence_number") (.int codec.outSequence)] := by
  obtain ⟨item,translated,ok⟩ := okBind ok
  dsimp only at ok
  refine ⟨item,translated,?_⟩
  split at ok
  · obtain ⟨_,_,ok⟩ := okBind ok
    obtain ⟨_,_,ok⟩ := okBind ok
    obtain ⟨_,_,ok⟩ := okBind ok
    cases added with
    | true =>
      obtain ⟨next,kept,ok⟩ := okBind ok
      obtain ⟨_,_,kept⟩ := okBind kept
      obtain ⟨_,_,kept⟩ := okBind kept
      obtain ⟨_,_,kept⟩ := okBind kept
      obtain ⟨_,_,kept⟩ := okBind kept
      obtain ⟨_,_,kept⟩ := okBind kept
      cases kept
      cases ok
      rfl
    | false =>
      obtain ⟨next,kept,ok⟩ := okBind ok
      obtain ⟨_,_,rfl,_⟩ := closeCallMeans kept
      cases ok
      rfl
  · cases ok
    rfl

theorem itemEventConfined {added : Bool}
    (typed : native.get (text "type") = .str (text (if added then itemAdded else itemDone)))
    (plain : callKind (native.get (text "item")) ≠ some .custom) (quiet : PlainResponse native)
    (ok : codec.itemEvent native added = .ok (codec',out)) :
    ∀ event ∈ out, ItemDeclared codec.tools event ∧ OutputDeclared codec.tools event := by
  obtain ⟨item,translated,rfl⟩ := itemEventOut ok
  intro event mem
  rw [List.mem_singleton.mp mem]
  refine ⟨?_,?_⟩
  · intro type kind _ _ is
    rw [Fields.getPutOther _ (by decide),Fields.getPutSame] at is ⊢
    by_cases call : functionCall (native.get (text "item")) = true
    · obtain ⟨fields,itemFields,wire,d,_,rfl,facts⟩ := itemMeans translated call
      rw [facts.kind] at is
      cases is
      exact translatedDeclared facts
    · rw [Codec.item,if_neg call] at translated
      cases translated
      rw [otherItemSilent (by simpa using call) plain] at is
      cases is
  · intro response held item mem kind is
    rw [Fields.getPutOther _ (by decide),Fields.getPutOther _ (by decide)] at held
    have kinds : itemType (text (if added then itemAdded else itemDone)) := by
      cases added with
      | true => exact .inl rfl
      | false => exact .inr rfl
    rw [quiet.passed _ typed (.inl kinds) response held item mem] at is
    cases is

theorem argumentTypePlain {type : Text} (argument : argumentType type) : ¬ itemType type := by
  rintro (rfl | rfl) <;> rcases argument with same | same <;> exact absurd same (by decide)

-- An event that keeps the type and response of a native argument event shows no item or output.
theorem argumentConfined {tools : List (Text × Declaration)} {event : Fields} {type : Text}
    (typed : native.get (text "type") = .str type) (argument : argumentType type) (quiet : PlainResponse native)
    (sameType : event.get (text "type") = native.get (text "type"))
    (sameResponse : event.get (text "response") = native.get (text "response")) :
    ItemDeclared tools event ∧ OutputDeclared tools event := by
  refine ⟨?_,?_⟩
  · intro other kind held isItem _
    rw [sameType,typed] at held
    cases held
    exact absurd isItem (argumentTypePlain argument)
  · intro response held item mem kind is
    rw [sameResponse] at held
    rw [quiet.passed _ typed (.inr argument) response held item mem] at is
    cases is

theorem inputConfined (tools : List (Text × Declaration)) (id : Text) (c : Call) (part : Text) (v : Document) :
    ItemDeclared tools ((inputEvent id c part).put (text "sequence_number") v) ∧
      OutputDeclared tools ((inputEvent id c part).put (text "sequence_number") v) := by
  refine ⟨?_,?_⟩
  · intro type kind held isItem _
    rw [Fields.getPutOther _ (by decide)] at held
    have same : type = text inputDelta := (Document.str.inj held).symm
    rcases isItem with is | is
    · rw [same] at is
      exact absurd is (by decide)
    · rw [same] at is
      exact absurd is (by decide)
  · intro response held
    rw [Fields.getPutOther _ (by decide)] at held
    cases held

theorem emitAllMem {events : List Fields} {base : Codec} {event : Fields} (mem : event ∈ (base.emitAll events).2) :
    ∃ source ∈ events, ∃ v, event = source.put (text "sequence_number") v := by
  induction events generalizing base with
  | nil => cases mem
  | cons first rest ih =>
    rcases List.mem_cons.mp mem with rfl | later
    · exact ⟨first,List.mem_cons_self,_,rfl⟩
    · obtain ⟨source,inside,v,same⟩ := ih later
      exact ⟨source,List.mem_cons_of_mem _ inside,v,same⟩

theorem argumentEventConfined {done : Bool}
    (typed : native.get (text "type") = .str (text (if done then argumentsDone else argumentsDelta)))
    (quiet : PlainResponse native) (ok : codec.argumentEvent native done = .ok (codec',out)) :
    ∀ event ∈ out, ItemDeclared codec.tools event ∧ OutputDeclared codec.tools event := by
  have argument : argumentType (text (if done then argumentsDone else argumentsDelta)) := by
    cases done with
    | true => exact .inr rfl
    | false => exact .inl rfl
  have passed : ∀ (event : Fields) (v : Document), event.get (text "type") = native.get (text "type") →
      event.get (text "response") = native.get (text "response") →
      ItemDeclared codec.tools (event.put (text "sequence_number") v) ∧
        OutputDeclared codec.tools (event.put (text "sequence_number") v) := by
    intro event v sameType sameResponse
    refine argumentConfined typed argument quiet ?_ ?_
    · rw [Fields.getPutOther _ (by decide),sameType]
    · rw [Fields.getPutOther _ (by decide),sameResponse]
  obtain ⟨id,_,ok⟩ := okBind ok
  intro event mem
  split at ok
  · next c _ =>
    cases done with
    | true =>
      obtain ⟨_,_,ok⟩ := okBind ok
      dsimp only at ok
      obtain ⟨_,_,ok⟩ := okBind ok
      split at ok
      · obtain ⟨_,_,ok⟩ := okBind ok
        obtain ⟨renamed,named,ok⟩ := okBind ok
        cases ok
        rw [List.mem_singleton.mp mem]
        exact passed renamed _ (publicNameMeans named (by decide)) (publicNameMeans named (by decide))
      · obtain ⟨value,_,ok⟩ := okBind ok
        have emitted := congrArg Prod.snd (Except.ok.inj ok)
        dsimp only at emitted
        rw [← emitted] at mem
        obtain ⟨source,inside,v,rfl⟩ := emitAllMem mem
        obtain ⟨part,_,rfl⟩ := List.mem_map.mp inside
        exact inputConfined codec.tools id c part v
    | false =>
      obtain ⟨_,_,ok⟩ := okBind ok
      obtain ⟨_,_,ok⟩ := okBind ok
      obtain ⟨_,_,ok⟩ := okBind ok
      obtain ⟨_,_,ok⟩ := okBind ok
      have ended := Except.ok.inj ok
      split at ended
      · cases ended
        cases mem
      · cases ended
        rw [List.mem_singleton.mp mem]
        exact passed native _ rfl rfl
  · unfold Codec.unknownArguments at ok
    split at ok
    · obtain ⟨_,_,ok⟩ := okBind ok
      obtain ⟨d,_,ok⟩ := okBind ok
      obtain ⟨_,_,ok⟩ := okBind ok
      cases ok
      rw [List.mem_singleton.mp mem]
      exact passed _ _ (Fields.getPutOther _ (by decide)) (Fields.getPutOther _ (by decide))
    · cases ok
      rw [List.mem_singleton.mp mem]
      exact passed native _ rfl rfl

theorem restConfined {type : Text} (typed : native.get (text "type") = .str type) (notItem : ¬ itemType type)
    (quiet : PlainResponse native)
    (ok : (match native.get (text "response") with
      | .obj raw => codec.responseEvent native (type = text completed) raw
      | _ => .ok (codec.pass native)) = .ok (codec',out)) :
    ∀ event ∈ out, ItemDeclared codec.tools event ∧ OutputDeclared codec.tools event := by
  intro event mem
  split at ok
  · next raw held =>
    obtain ⟨_,_,ok⟩ := okBind ok
    obtain ⟨response,translated,ok⟩ := okBind ok
    cases ok
    rw [List.mem_singleton.mp mem]
    refine ⟨?_,?_⟩
    · intro other kind is isItem _
      rw [Fields.getPutOther _ (by decide),Fields.getPutOther _ (by decide),typed] at is
      cases is
      exact absurd isItem notItem
    · intro shown is item inside kind call
      rw [Fields.getPutOther _ (by decide),Fields.getPutSame] at is
      cases is
      exact responseDeclared translated (quiet.output raw held) inside call
  · next noResponse =>
    cases ok
    rw [List.mem_singleton.mp mem]
    refine ⟨?_,?_⟩
    · intro other kind is isItem _
      rw [Fields.getPutOther _ (by decide),typed] at is
      cases is
      exact absurd isItem notItem
    · intro shown is
      rw [Fields.getPutOther _ (by decide)] at is
      exact absurd is (noResponse shown)

theorem eventsConfined (plain : PlainCalls codec.calls native) (quiet : PlainResponse native)
    (ok : codec.events native = .ok (codec',out)) :
    ∀ event ∈ out, ItemDeclared codec.tools event ∧ OutputDeclared codec.tools event := by
  obtain ⟨n,type,typed,ok⟩ := eventsMeans ok
  change ∀ event ∈ out, ItemDeclared (Codec.tools { codec with inSequence := n }) event ∧
    OutputDeclared (Codec.tools { codec with inSequence := n }) event
  generalize sequenced : ({ codec with inSequence := n } : Codec) = started at ok ⊢
  unfold Codec.dispatch at ok
  by_cases added : type = text itemAdded
  · rw [if_pos added] at ok
    exact itemEventConfined (by rw [typed,added]; rfl) (plain.item type typed (.inl added)) quiet ok
  rw [if_neg added] at ok
  by_cases done : type = text itemDone
  · rw [if_pos done] at ok
    exact itemEventConfined (by rw [typed,done]; rfl) (plain.item type typed (.inr done)) quiet ok
  rw [if_neg done] at ok
  by_cases delta : type = text argumentsDelta
  · rw [if_pos delta] at ok
    exact argumentEventConfined (by rw [typed,delta]; rfl) quiet ok
  rw [if_neg delta] at ok
  by_cases arguments : type = text argumentsDone
  · rw [if_pos arguments] at ok
    exact argumentEventConfined (by rw [typed,arguments]; rfl) quiet ok
  rw [if_neg arguments] at ok
  exact restConfined typed (fun is => is.elim added done) quiet ok

end Confined

section Runs
variable {codec codec' : Codec} {native : Fields} {natives out more : List Fields}

-- What the client may see next, given the state before the step and the events sent so far.
structure Confined (body : Fields) (codec : Codec) (pre : List Fields) (event : Fields) : Prop where
  item : ∀ type kind, event.get (text "type") = .str type → itemType type →
    callKind (event.get (text "item")) = some kind → DeclaredCall body (event.get (text "item")) kind
  arguments : ∀ who said kind, callEvent event = some (who,said) → said.argument = some kind →
    ∃ (id : Text) (c : Call) (deltas : List Text) (announcement : Fields), who = some id ∧
      codec.calls.lookup id = some c ∧ c.kind = kind ∧ c.done = false ∧
      callEvents id pre = opening c :: parts kind deltas ∧ announcement ∈ pre ∧
      callEvent announcement = some (some id,opening c) ∧ DeclaredCall body (announcement.get (text "item")) kind
  output : ∀ response : Fields, event.get (text "response") = .obj response → ∀ item ∈ outputOf response, ∀ kind,
    callKind item = some kind → DeclaredCall body item kind

theorem partsOf {id : Text} {a b : List Fields} {event : Fields} {deltas : List Text} {kind : Kind}
    (own : (a ++ event :: b).map callEvent = (parts kind deltas).map fun s => some (some id,s)) :
    (∃ before, callEvents id a = parts kind before) ∧ ∃ part, callEvent event = some (some id,.delta kind (some part)) := by
  rw [List.map_append,List.map_cons] at own
  obtain ⟨first,second,whole,left,right⟩ := List.append_eq_map_iff.mp own
  obtain ⟨before,after,_,beforeIs,afterIs⟩ := List.map_eq_append_iff.mp whole
  refine ⟨⟨before,?_⟩,?_⟩
  · rw [callEventsOwn left.symm,← beforeIs]
    rfl
  · rw [← afterIs] at right
    cases after with
    | nil => cases right
    | cons part rest =>
      rw [List.map_cons,List.map_cons,List.cons.injEq] at right
      exact ⟨part,right.1.symm⟩

theorem singleSplit {a b : List Fields} {first event : Fields} (shape : [first] = a ++ event :: b) : a = [] ∧ event = first := by
  cases a with
  | nil =>
    rw [List.nil_append,List.cons.injEq] at shape
    exact ⟨rfl,shape.1.symm⟩
  | cons head tail =>
    rw [List.cons_append,List.cons.injEq] at shape
    have empty := shape.2
    simp at empty

theorem effectArguments {tools : List (Text × Declaration)} {calls calls' : List (Text × Call)}
    (effect : Effect tools calls native calls' more) {a b : List Fields} {event : Fields} (shape : more = a ++ event :: b)
    {who : Option Text} {said : CallEvent} {kind : Kind} (spoken : callEvent event = some (who,said))
    (argument : said.argument = some kind) :
    ∃ (id : Text) (c : Call) (deltas : List Text), who = some id ∧ calls.lookup id = some c ∧ c.kind = kind ∧
      c.done = false ∧ callEvents id a = parts kind deltas := by
  cases effect with
  | quiet silent =>
    obtain ⟨_,rfl⟩ := singleSplit shape
    rw [silent] at spoken
    cases spoken
  | added _ said =>
    obtain ⟨_,rfl⟩ := singleSplit shape
    rw [said] at spoken
    cases spoken
    cases argument
  | closed _ _ _ _ _ said =>
    obtain ⟨_,rfl⟩ := singleSplit shape
    rw [said] at spoken
    cases spoken
    cases argument
  | @functionDelta id c e part n held live isKind _ said =>
    obtain ⟨rfl,rfl⟩ := singleSplit shape
    rw [said] at spoken
    cases spoken
    cases argument
    exact ⟨id,c,[],rfl,held,isKind,live,rfl⟩
  | customDelta held live isKind small => simp at shape
  | @functionDone id c e held live isKind said =>
    obtain ⟨rfl,rfl⟩ := singleSplit shape
    rw [said] at spoken
    cases spoken
    cases argument
    exact ⟨id,c,[],rfl,held,isKind,live,rfl⟩
  | @customDone id c value events held live isKind read said =>
    have own : (a ++ event :: b).map callEvent =
        (parts .custom (chunks value.length value)).map fun s => some (some id,s) := by
      rw [← shape,said,parts,List.map_map]
      rfl
    obtain ⟨⟨before,seen⟩,part,here⟩ := partsOf own
    rw [here] at spoken
    cases spoken
    cases argument
    exact ⟨id,c,before,rfl,held,isKind,live,seen⟩

theorem callEventsMem {id : Text} {said : CallEvent} (mem : said ∈ callEvents id out) :
    ∃ event ∈ out, callEvent event = some (some id,said) := by
  obtain ⟨event,inside,reads⟩ := List.mem_filterMap.mp mem
  obtain ⟨⟨who,told⟩,spoken,same⟩ := Option.bind_eq_some_iff.mp reads
  split at same
  · next whose =>
    cases same
    exact ⟨event,inside,by rw [spoken]; exact congrArg (fun w => some (w,told)) whose⟩
  · cases same

theorem announcedItem {event : Fields} {id : Text} {index : Option Int} {callId : Option Text} {kind : Kind}
    (spoken : callEvent event = some (some id,.added index callId kind)) :
    event.get (text "type") = .str (text itemAdded) ∧ callKind (event.get (text "item")) = some kind := by
  unfold callEvent at spoken
  dsimp only at spoken
  split at spoken
  · next type typed =>
    split_ifs at spoken with added done delta arguments input inputDone
    · unfold itemCallEvent at spoken
      obtain ⟨found,held,same⟩ := Option.map_eq_some_iff.mp spoken
      dsimp only at same
      rw [if_pos rfl] at same
      have marks := (Prod.mk.inj same).2
      cases marks
      exact ⟨by rw [typed,added],held⟩
    · unfold itemCallEvent at spoken
      obtain ⟨found,held,same⟩ := Option.map_eq_some_iff.mp spoken
      have marks := (Prod.mk.inj same).2
      cases marks
    · cases (Prod.mk.inj (Option.some.inj spoken)).2
    · cases (Prod.mk.inj (Option.some.inj spoken)).2
    · cases (Prod.mk.inj (Option.some.inj spoken)).2
    · cases (Prod.mk.inj (Option.some.inj spoken)).2
  · cases spoken

theorem eventsTools (plain : PlainCalls codec.calls native) (known : Known codec.tools codec.calls)
    (ok : codec.events native = .ok (codec',more)) : codec'.tools = codec.tools := (eventsEffect plain known ok).2.tools

theorem stepConfined {body : Fields} {made : Codec} (built : construct body = .ok made) (same : codec.tools = made.tools)
    (sim : Simulates codec natives out) (shown : ∀ event ∈ out, ItemDeclared codec.tools event)
    (plain : PlainCalls codec.calls native) (quiet : PlainResponse native)
    (ok : codec.events native = .ok (codec',more)) {a b : List Fields} {event : Fields} (shape : more = a ++ event :: b) :
    Confined body codec (out ++ a) event := by
  have declares : ∀ {item kind}, DeclaredItem codec.tools item kind → DeclaredCall body item kind := by
    intro item kind declared
    rw [same] at declared
    exact declaredItemCall built declared
  have mem : event ∈ more := by
    rw [shape]
    simp
  obtain ⟨items,outputs⟩ := eventsConfined plain quiet ok event mem
  refine ⟨fun type kind typed isItem is => declares (items type kind typed isItem is),?_,
    fun response held item inside kind is => declares (outputs response held item inside kind is)⟩
  intro who said kind spoken argument
  obtain ⟨id,c,deltas,isWho,held,isKind,live,seen⟩ :=
    effectArguments (eventsEffect plain sim.known ok).1 shape spoken argument
  obtain ⟨history,_,_⟩ := tracedLive (sim.traced _ (lookupMem held)) live
  have first : opening c ∈ callEvents id out := by
    rw [history]
    exact List.mem_cons_self
  obtain ⟨announcement,inside,announced⟩ := callEventsMem first
  obtain ⟨typed,isCall⟩ := announcedItem announced
  refine ⟨id,c,published c ++ deltas,announcement,isWho,held,isKind,live,?_,List.mem_append_left _ inside,announced,?_⟩
  · rw [callEventsAppend,history,seen,isKind,partsAppend]
    rfl
  · rw [isKind] at isCall
    exact declares (shown announcement inside _ _ typed (.inl rfl) isCall)

theorem streamSplit {a b : List Fields} (ok : codec.stream (a ++ b) = .ok (codec',out)) :
    ∃ mid first second, codec.stream a = .ok (mid,first) ∧ mid.stream b = .ok (codec',second) ∧ out = first ++ second := by
  induction a generalizing codec out with
  | nil => exact ⟨codec,[],out,rfl,ok,rfl⟩
  | cons native rest ih =>
    obtain ⟨⟨next,emitted⟩,step,ok⟩ := okBind ok
    obtain ⟨⟨last,later⟩,run,ok⟩ := okBind ok
    cases ok
    obtain ⟨mid,first,second,left,right,rfl⟩ := ih run
    refine ⟨mid,emitted ++ first,second,?_,right,by rw [List.append_assoc]⟩
    change (codec.events native >>= _) = _
    rw [step]
    change (next.stream rest >>= _) = _
    rw [left]
    rfl

theorem plainRunSplit {a b : List Fields} {mid : Codec} {first : List Fields} (plain : PlainRun codec (a ++ b))
    (ok : codec.stream a = .ok (mid,first)) : PlainRun codec a ∧ PlainRun mid b := by
  induction a generalizing codec first with
  | nil =>
    cases ok
    exact ⟨trivial,plain⟩
  | cons native rest ih =>
    obtain ⟨⟨next,emitted⟩,step,ok⟩ := okBind ok
    obtain ⟨⟨last,later⟩,run,ok⟩ := okBind ok
    cases ok
    have tail := ih (plain.2 next emitted step) run
    refine ⟨⟨plain.1,?_⟩,tail.2⟩
    intro other out' step'
    rw [step] at step'
    cases step'
    exact tail.1

theorem runTools {rest : List Fields} (sim : Simulates codec natives out) (plain : PlainRun codec rest)
    (quiet : ∀ native ∈ rest, PlainResponse native) (shown : ∀ event ∈ out, ItemDeclared codec.tools event)
    (ok : codec.stream rest = .ok (codec',more)) :
    codec'.tools = codec.tools ∧ ∀ event ∈ out ++ more, ItemDeclared codec.tools event := by
  induction rest generalizing codec natives out more with
  | nil =>
    cases ok
    exact ⟨rfl,by simpa using shown⟩
  | cons native rest ih =>
    obtain ⟨⟨mid,first⟩,step,ok⟩ := okBind ok
    obtain ⟨⟨last,later⟩,run,ok⟩ := okBind ok
    cases ok
    have same := eventsTools plain.1 sim.known step
    have sofar : ∀ event ∈ out ++ first, ItemDeclared mid.tools event := by
      intro event mem
      rw [same]
      rcases List.mem_append.mp mem with old | new
      · exact shown event old
      · exact (eventsConfined plain.1 (quiet native List.mem_cons_self) step event new).1
    have tail := ih (stepSimulates sim plain.1 step) (plain.2 mid first step)
      (fun n mem => quiet n (List.mem_cons_of_mem _ mem)) sofar run
    rw [same,List.append_assoc] at tail
    exact tail

theorem callsConfined {body : Fields} (built : construct body = .ok codec) :
    (∀ natives codec' out, codec.stream natives = .ok (codec',out) → PlainRun codec natives →
      (∀ native ∈ natives, PlainResponse native) → ∀ before given after, natives = before ++ given :: after →
        ∃ mid pre next more post, codec.stream before = .ok (mid,pre) ∧ mid.events given = .ok (next,more) ∧
          out = pre ++ more ++ post ∧ ∀ a event b, more = a ++ event :: b → Confined body mid (pre ++ a) event) ∧
    ∀ raw response, codec.response raw false = .ok response → (∀ item ∈ outputOf raw, callKind item ≠ some .custom) →
      ∀ item ∈ outputOf response, ∀ kind, callKind item = some kind → DeclaredCall body item kind := by
  refine ⟨?_,?_⟩
  · rintro natives codec' out ok plain quiet before given after rfl
    obtain ⟨mid,pre,rest,left,right,rfl⟩ := streamSplit ok
    obtain ⟨plainBefore,plainAfter⟩ := plainRunSplit plain left
    obtain ⟨⟨next,more⟩,step,right⟩ := okBind right
    obtain ⟨⟨last,post⟩,run,right⟩ := okBind right
    cases right
    have start := startSimulates built
    have sim := runSimulates start plainBefore left
    obtain ⟨same,shown⟩ := runTools start plainBefore
      (fun n mem => quiet n (List.mem_append_left _ mem)) (by simp) left
    refine ⟨mid,pre,next,more,post,left,step,by rw [List.append_assoc],?_⟩
    intro a event b shape
    rw [List.nil_append] at sim shown
    rw [← same] at shown
    exact stepConfined built same sim shown plainAfter.1 (quiet given (by simp)) step shape
  · intro raw response ok plain item mem kind is
    exact declaredItemCall built (responseDeclared ok plain mem is)

end Runs

section Examples

def demoTools : Fields :=
  [(text "tools",.arr [.obj [(text "type",.str (text "function")),(text "name",.str (text "f"))]])]

def demoCall (id callId arguments : String) : Document :=
  .obj [(text "type",.str (text "function_call")),(text "id",.str (text id)),(text "call_id",.str (text callId)),
    (text "name",.str (text "f")),(text "arguments",.str (text arguments))]

def demoEvent (type : String) (n : Int) (rest : Fields) : Fields :=
  (text "type",.str (text type)) :: (text "sequence_number",.int n) :: rest

def demoCalls : List Fields :=
  [demoEvent itemAdded 0 [(text "output_index",.int 0),(text "item",demoCall "i1" "c1" "")],
    demoEvent argumentsDelta 1 [(text "output_index",.int 0),(text "item_id",.str (text "i1")),
      (text "delta",.str (text "\x7b\x7d"))],
    demoEvent argumentsDone 2 [(text "output_index",.int 0),(text "item_id",.str (text "i1")),
      (text "arguments",.str (text "\x7b\x7d"))],
    demoEvent itemDone 3 [(text "output_index",.int 0),(text "item",demoCall "i1" "c1" "\x7b\x7d")]]

def demoCompleted : Fields :=
  demoEvent completed 4 [(text "response",.obj [(text "output",.arr [demoCall "i2" "c2" "\x7b\x7d"])])]

theorem demoAccepted : ∃ codec codec' out, construct demoTools = .ok codec ∧
    codec.stream (demoCalls ++ [demoCompleted]) = .ok (codec',out) ∧ out.length = 5 ∧
    PlainRun codec (demoCalls ++ [demoCompleted]) := by
  have run : ((construct demoTools).toOption.any fun codec =>
      plainRun codec (demoCalls ++ [demoCompleted]) &&
        ((codec.stream (demoCalls ++ [demoCompleted])).toOption.any fun step => step.2.length = 5)) = true := by
    decide +kernel
  obtain ⟨codec,built,checks⟩ := checkedAny run
  rw [Bool.and_eq_true] at checks
  obtain ⟨⟨codec',out⟩,streamed,count⟩ := checkedAny checks.2
  exact ⟨codec,codec',out,built,streamed,by simpa using count,plainRunSound checks.1⟩

theorem demoResponses : ∀ native ∈ demoCalls ++ [demoCompleted], PlainResponse native := by
  have checked : (demoCalls ++ [demoCompleted]).all plainResponse = true := by decide +kernel
  intro native mem
  exact plainResponseSound (List.all_eq_true.mp checked native mem)

theorem callsConfinedDemo : ∃ codec codec' out, construct demoTools = .ok codec ∧
    codec.stream (demoCalls ++ [demoCompleted]) = .ok (codec',out) ∧ out.length = 5 ∧
    ∀ before given after, demoCalls ++ [demoCompleted] = before ++ given :: after →
      ∃ mid pre next more post, codec.stream before = .ok (mid,pre) ∧ mid.events given = .ok (next,more) ∧
        out = pre ++ more ++ post ∧ ∀ a event b, more = a ++ event :: b → Confined demoTools mid (pre ++ a) event := by
  obtain ⟨codec,codec',out,built,run,count,plain⟩ := demoAccepted
  exact ⟨codec,codec',out,built,run,count,(callsConfined built).1 _ codec' out run plain demoResponses⟩

def strayCall : Fields :=
  demoEvent itemAdded 0 [(text "output_index",.int 0),(text "item",.obj [(text "type",.str (text "custom_tool_call")),
    (text "id",.str (text "i1")),(text "call_id",.str (text "c1")),(text "name",.str (text "shell")),
    (text "input",.str [])])]

theorem undeclaredCallEmitted : ∃ codec codec' event, construct [] = .ok codec ∧
    codec.stream [strayCall] = .ok (codec',[event]) ∧ event.get (text "type") = .str (text itemAdded) ∧
    callKind (event.get (text "item")) = some .custom ∧ ¬ DeclaredCall [] (event.get (text "item")) .custom := by
  have run : ((construct []).toOption.any fun codec => (codec.stream [strayCall]).toOption.any fun step =>
      decide (step.2.length = 1) && step.2.all fun event =>
        (event.get (text "type")).isText itemAdded && callKind (event.get (text "item")) = some .custom) = true := by
    decide +kernel
  obtain ⟨codec,built,checks⟩ := checkedAny run
  obtain ⟨⟨codec',out⟩,streamed,shape⟩ := checkedAny checks
  rw [Bool.and_eq_true,decide_eq_true_eq,List.all_eq_true] at shape
  obtain ⟨event,rfl⟩ := List.length_eq_one_iff.mp shape.1
  have told := shape.2 event List.mem_cons_self
  rw [Bool.and_eq_true,decide_eq_true_eq] at told
  refine ⟨codec,codec',event,built,streamed,isTextMeans told.1,told.2,?_⟩
  rintro ⟨n,name,⟨tool,listed,_⟩,_⟩
  cases listed

end Examples

end SlaifGateway.LocalCoding
