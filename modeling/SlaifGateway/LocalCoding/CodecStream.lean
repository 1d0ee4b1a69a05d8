import SlaifGateway.LocalCoding.ToolNames

/-! What each accepted native event makes the codec do: the call events of the emitted stream, one
case per branch, and the call states they leave. -/
namespace SlaifGateway.LocalCoding
open Library

section Language

def intOf : Document → Option Int
  | .int n => some n
  | _ => none

-- The kind of call an item is, as a client reads it.
def callKind (item : Document) : Option Kind :=
  if functionCall item then some .function
  else if item.isMapping && (item.fields.get (text "type")).isText "custom_tool_call" then some .custom
  else none

inductive CallEvent where
  | added (index : Option Int) (callId : Option Text) (kind : Kind)
  | delta (kind : Kind) (part : Option Text)
  | argumentsDone (kind : Kind)
  | closed (index : Option Int) (callId : Option Text) (kind : Kind) (payload : Option Text)
  deriving DecidableEq

def payloadField : Kind → Text
  | .function => text "arguments"
  | .custom => text "input"

def itemCallEvent (event : Fields) (added : Bool) : Option (Option Text × CallEvent) :=
  let item := event.get (text "item")
  (callKind item).map fun kind =>
    let index := intOf (event.get (text "output_index"))
    let callId := (item.fields.get (text "call_id")).text?
    ((item.fields.get (text "id")).text?,
      if added then .added index callId kind
      else .closed index callId kind (item.fields.get (payloadField kind)).text?)

-- The call an emitted event speaks of, and what it tells.
def callEvent (event : Fields) : Option (Option Text × CallEvent) :=
  let id := (event.get (text "item_id")).text?
  match event.get (text "type") with
  | .str type =>
    if type = text itemAdded then itemCallEvent event true
    else if type = text itemDone then itemCallEvent event false
    else if type = text argumentsDelta then some (id,.delta .function (event.get (text "delta")).text?)
    else if type = text argumentsDone then some (id,.argumentsDone .function)
    else if type = text inputDelta then some (id,.delta .custom (event.get (text "delta")).text?)
    else if type = text inputDone then some (id,.argumentsDone .custom)
    else none
  | _ => none

def callEvents (id : Text) (out : List Fields) : List CallEvent :=
  out.filterMap fun event => (callEvent event).bind fun said => if said.1 = some id then some said.2 else none

theorem callEventsAppend (id : Text) (a b : List Fields) : callEvents id (a ++ b) = callEvents id a ++ callEvents id b := by
  simp [callEvents]

theorem callEventsQuiet {out : List Fields} (quiet : ∀ event ∈ out, callEvent event = none) (id : Text) :
    callEvents id out = [] := by
  rw [callEvents,List.filterMap_eq_nil_iff]
  intro event mem
  rw [quiet event mem]
  rfl

theorem callEventsSingle {event : Fields} {id : Text} {said : CallEvent} (spoken : callEvent event = some (some id,said))
    (other : Text) : callEvents other [event] = if other = id then [said] else [] := by
  by_cases same : other = id
  · subst same
    simp [callEvents,spoken]
  · have apart : ¬ id = other := fun h => same h.symm
    simp [callEvents,spoken,apart,same]

theorem itemCallEventPut (event : Fields) (added : Bool) (v : Document) :
    itemCallEvent (event.put (text "sequence_number") v) added = itemCallEvent event added := by
  unfold itemCallEvent
  rw [Fields.getPutOther v (by decide),Fields.getPutOther v (by decide)]

theorem callEventPut (event : Fields) (v : Document) :
    callEvent (event.put (text "sequence_number") v) = callEvent event := by
  unfold callEvent
  rw [itemCallEventPut,itemCallEventPut,Fields.getPutOther v (by decide),Fields.getPutOther v (by decide),
    Fields.getPutOther v (by decide)]

def DeclaredItem (tools : List (Text × Declaration)) (item : Document) (kind : Kind) : Prop :=
  ∃ wire d, tools.lookup wire = some d ∧ d.kind = kind ∧ item.fields.get (text "name") = .str d.name ∧
    item.fields.get (text "namespace") = spaceValue d.namespaceName

end Language

section Items
variable {codec : Codec}

-- What a translated call item keeps of the native one and takes from the declaration.
structure Translated (codec : Codec) (raw item : Fields) (added : Bool) (wire : Text) (d : Declaration) : Prop where
  named : raw.get (text "name") = .str wire
  found : codec.tools.lookup wire = some d
  kind : callKind (.obj item) = some d.kind
  name : item.get (text "name") = .str d.name
  space : item.get (text "namespace") = spaceValue d.namespaceName
  id : item.get (text "id") = raw.get (text "id")
  callId : item.get (text "call_id") = raw.get (text "call_id")
  arguments : d.kind = .function → item.get (text "arguments") = raw.get (text "arguments")
  input : d.kind = .custom → added = false → ∃ a value, raw.get (text "arguments") = .str a ∧
    jsonInput a = .ok value ∧ item.get (text "input") = .str value

theorem functionKind {item : Fields} (typed : item.get (text "type") = .str (text "function_call")) :
    callKind (.obj item) = some .function := by
  rw [callKind,if_pos]
  rw [functionCall,Bool.and_eq_true]
  exact ⟨rfl,isTextOf typed⟩

theorem customKind {item : Fields} (typed : item.get (text "type") = .str (text "custom_tool_call")) :
    callKind (.obj item) = some .custom := by
  have other : functionCall (.obj item) = false := by
    have plain : Document.isText (item.get (text "type")) "function_call" = false := by
      rw [typed]
      decide
    rw [functionCall,Bool.and_eq_false_iff]
    exact .inr plain
  rw [callKind,if_neg (by rw [other]; exact Bool.false_ne_true),if_pos]
  rw [Bool.and_eq_true]
  exact ⟨rfl,isTextOf typed⟩

theorem withoutAuthorityGet {item popped : Fields} {key : String} (ok : withoutAuthority item key = .ok popped) {k : Text}
    (other : k ≠ text key) : popped.get k = item.get k := by
  obtain ⟨_,_,ok⟩ := okBind ok
  cases ok
  exact Fields.getPoppedOther other

theorem customItemMeans {base item : Fields} {added : Bool} (ok : customItem base added = .ok item) :
    callKind (.obj item) = some .custom ∧
    (∀ k, k ≠ text "input" → k ≠ text "type" → k ≠ text "arguments" → item.get k = base.get k) ∧
    (added = false → ∃ a value, base.get (text "arguments") = .str a ∧ jsonInput a = .ok value ∧
      item.get (text "input") = .str value) := by
  unfold customItem at ok
  split at ok
  · next arguments held =>
    obtain ⟨_,_,ok⟩ := okBind ok
    obtain ⟨_,_,ok⟩ := okBind ok
    obtain ⟨_,_,ok⟩ := okBind ok
    have put : ∀ value : Document, ((((base.pop (text "arguments")).put (text "type")
        (.str (text "custom_tool_call"))).put (text "input") value).get (text "type") =
          .str (text "custom_tool_call")) := by
      intro value
      rw [Fields.getPutOther _ (by decide),Fields.getPutSame]
    have kept : ∀ (value : Document) k, k ≠ text "input" → k ≠ text "type" → k ≠ text "arguments" →
        (((base.pop (text "arguments")).put (text "type") (.str (text "custom_tool_call"))).put (text "input")
          value).get k = base.get k := by
      intro value k notInput notType notArguments
      rw [Fields.getPutOther _ notInput,Fields.getPutOther _ notType,Fields.getPoppedOther notArguments]
    cases added with
    | true =>
      cases ok
      exact ⟨customKind (put _),kept _,by simp⟩
    | false =>
      obtain ⟨value,read,ok⟩ := okBind ok
      cases ok
      exact ⟨customKind (put _),kept _,fun _ => ⟨arguments,value,held,read,Fields.getPutSame _ _ _⟩⟩
  · cases ok

theorem declarationOfMeans {name : Document} {d : Declaration} (ok : declarationOf codec name = .ok d) :
    ∃ wire, name = .str wire ∧ codec.tools.lookup wire = some d := by
  unfold declarationOf at ok
  split at ok
  · next wire =>
    split at ok
    · next found =>
      cases ok
      exact ⟨wire,rfl,found⟩
    · cases ok
  · cases ok

theorem callItemMeans {raw item : Fields} {added : Bool} (typed : raw.get (text "type") = .str (text "function_call"))
    (ok : codec.callItem raw added = .ok item) : ∃ wire d, Translated codec raw item added wire d := by
  obtain ⟨first,async,ok⟩ := okBind ok
  obtain ⟨second,caller,ok⟩ := okBind ok
  obtain ⟨d,declared,ok⟩ := okBind ok
  obtain ⟨_,_,ok⟩ := okBind ok
  have same : ∀ k, k ≠ text "async" → k ≠ text "caller" → second.get k = raw.get k := by
    intro k notAsync notCaller
    rw [withoutAuthorityGet caller notCaller,withoutAuthorityGet async notAsync]
  obtain ⟨wire,named,found⟩ := declarationOfMeans declared
  rw [same _ (by decide) (by decide)] at named
  obtain ⟨nameGet,spaceGet,otherGet⟩ := declaredGet second d
  have kept : ∀ k, k ≠ text "name" → k ≠ text "namespace" → k ≠ text "async" → k ≠ text "caller" →
      (declaredFields second d).get k = raw.get k := by
    intro k notName notSpace notAsync notCaller
    rw [otherGet k notName notSpace,same k notAsync notCaller]
  refine ⟨wire,d,?_⟩
  cases kind : d.kind with
  | custom =>
    rw [kind] at ok
    obtain ⟨isCustom,beyond,read⟩ := customItemMeans ok
    refine ⟨named,found,by rw [isCustom,kind],?_,?_,?_,?_,by simp [kind],?_⟩
    · rw [beyond _ (by decide) (by decide) (by decide),nameGet]
    · rw [beyond _ (by decide) (by decide) (by decide),spaceGet]
    · rw [beyond _ (by decide) (by decide) (by decide),kept _ (by decide) (by decide) (by decide) (by decide)]
    · rw [beyond _ (by decide) (by decide) (by decide),kept _ (by decide) (by decide) (by decide) (by decide)]
    · intro _ done
      obtain ⟨a,value,held,input,stored⟩ := read done
      rw [kept _ (by decide) (by decide) (by decide) (by decide)] at held
      exact ⟨a,value,held,input,stored⟩
  | function =>
    rw [kind] at ok
    obtain ⟨_,_,ok⟩ := okBind ok
    cases ok
    refine ⟨named,found,?_,nameGet,spaceGet,?_,?_,?_,by simp [kind]⟩
    · rw [kind]
      apply functionKind
      rw [kept _ (by decide) (by decide) (by decide) (by decide),typed]
    · exact kept _ (by decide) (by decide) (by decide) (by decide)
    · exact kept _ (by decide) (by decide) (by decide) (by decide)
    · exact fun _ => kept _ (by decide) (by decide) (by decide) (by decide)

theorem functionCallMeans {raw : Document} (call : functionCall raw = true) :
    ∃ fields : Fields, raw = .obj fields ∧ fields.get (text "type") = .str (text "function_call") := by
  unfold functionCall at call
  rw [Bool.and_eq_true] at call
  cases raw with
  | obj fields => exact ⟨fields,rfl,isTextMeans call.2⟩
  | _ => cases call.1

theorem itemMeans {raw item : Document} {added : Bool} (ok : codec.item raw added = .ok item)
    (call : functionCall raw = true) :
    ∃ (fields out : Fields) (wire : Text) (d : Declaration), raw = .obj fields ∧ item = .obj out ∧
      Translated codec fields out added wire d := by
  obtain ⟨fields,rfl,typed⟩ := functionCallMeans call
  rw [Codec.item,if_pos call] at ok
  obtain ⟨out,run,rfl⟩ := okMap ok
  obtain ⟨wire,d,translated⟩ := callItemMeans typed run
  exact ⟨fields,out,wire,d,rfl,rfl,translated⟩

theorem translatedDeclared {raw item : Fields} {added : Bool} {wire : Text} {d : Declaration}
    (translated : Translated codec raw item added wire d) : DeclaredItem codec.tools (.obj item) d.kind :=
  ⟨wire,d,translated.found,rfl,translated.name,translated.space⟩

end Items

section Effects

-- The text a call delivers: the arguments of a function, the unwrapped input of a custom tool.
def Payload (c : Call) (payload : Text) : Prop :=
  match c.kind with
  | .function => payload = c.arguments
  | .custom => jsonInput c.arguments = .ok payload

def Small (part : Text) : Prop := ∃ bytes, encode part = some bytes ∧ bytes.length ≤ maxDeltaBytes

def setCall (calls : List (Text × Call)) (id : Text) (c : Call) : List (Text × Call) :=
  calls.map fun entry => if entry.1 = id then (id,c) else entry

-- The native event closes the call with these arguments.
def NativeCloses (native : Fields) (id arguments : Text) : Prop :=
  native.get (text "type") = .str (text itemDone) ∧ functionCall (native.get (text "item")) = true ∧
    (native.get (text "item")).fields.get (text "id") = .str id ∧
    (native.get (text "item")).fields.get (text "arguments") = .str arguments

structure Fresh (tools : List (Text × Declaration)) (calls : List (Text × Call)) (id : Text) (c : Call) : Prop where
  absent : id ∉ calls.map Prod.fst
  indexed : ∀ entry ∈ calls, entry.2.index ≠ c.index
  ranged : 0 ≤ c.index ∧ c.index < maxToolItems
  blank : c.deltas = [] ∧ c.done = false ∧ c.closed = false
  known : ∃ d, tools.lookup c.name = some d ∧ d.kind = c.kind

-- What one accepted event does to the calls and to the emitted stream.
inductive Effect (tools : List (Text × Declaration)) (calls : List (Text × Call)) (native : Fields) :
    List (Text × Call) → List Fields → Prop
  | quiet {event} (silent : callEvent event = none) : Effect tools calls native calls [event]
  | added {id c event} (fresh : Fresh tools calls id c)
      (spoken : callEvent event = some (some id,.added (some c.index) (some c.callId) c.kind)) :
      Effect tools calls native (calls ++ [(id,c)]) [event]
  | closed {id c event payload} (held : calls.lookup id = some c) (done : c.done = true)
      (unclosed : c.closed = false) (paid : Payload c payload) (closes : NativeCloses native id c.arguments)
      (spoken : callEvent event = some (some id,.closed (some c.index) (some c.callId) c.kind (some payload))) :
      Effect tools calls native (setCall calls id { c with closed := true }) [event]
  | functionDelta {id c event part n} (held : calls.lookup id = some c) (live : c.done = false)
      (kind : c.kind = .function) (small : Small part)
      (spoken : callEvent event = some (some id,.delta .function (some part))) :
      Effect tools calls native
        (setCall calls id { c with argumentBytes := n, deltas := c.deltas ++ [part] }) [event]
  | customDelta {id c part n} (held : calls.lookup id = some c) (live : c.done = false)
      (kind : c.kind = .custom) (small : Small part) :
      Effect tools calls native (setCall calls id { c with argumentBytes := n, deltas := c.deltas ++ [part] }) []
  | functionDone {id c event} (held : calls.lookup id = some c) (live : c.done = false)
      (kind : c.kind = .function) (spoken : callEvent event = some (some id,.argumentsDone .function)) :
      Effect tools calls native
        (setCall calls id { c with arguments := c.deltas.flatten, deltas := [], done := true }) [event]
  | customDone {id c value events} (held : calls.lookup id = some c) (live : c.done = false)
      (kind : c.kind = .custom) (read : jsonInput c.deltas.flatten = .ok value)
      (spoken : events.map callEvent = (chunks value.length value).map fun part =>
        some (some id,.delta .custom (some part))) :
      Effect tools calls native
        (setCall calls id { c with arguments := c.deltas.flatten, deltas := [], done := true }) events

-- The native event uses none of the shapes that pass untranslated.
structure PlainCalls (calls : List (Text × Call)) (native : Fields) : Prop where
  item : ∀ type, native.get (text "type") = .str type → type = text itemAdded ∨ type = text itemDone →
    callKind (native.get (text "item")) ≠ some .custom
  announced : ∀ type id, native.get (text "type") = .str type →
    type = text argumentsDelta ∨ type = text argumentsDone → native.get (text "item_id") = .str id →
      id ∈ calls.map Prod.fst
  input : ∀ type, native.get (text "type") = .str type → type ≠ text inputDelta ∧ type ≠ text inputDone

def Known (tools : List (Text × Declaration)) (calls : List (Text × Call)) : Prop :=
  ∀ entry ∈ calls, ∃ d, tools.lookup entry.2.name = some d ∧ d.kind = entry.2.kind

-- What an event leaves alone, and how it numbers what it emits.
structure Numbers (codec codec' : Codec) (out : List Fields) : Prop where
  tools : codec'.tools = codec.tools
  next : codec'.outSequence = codec.outSequence + out.length
  numbered : ∀ (k : Nat) (event : Fields), out[k]? = some event →
    event.get (text "sequence_number") = .int ((codec.outSequence + k : Nat) : Int)

theorem passNumbers {codec base : Codec} (event : Fields) (tools : base.tools = codec.tools)
    (next : base.outSequence = codec.outSequence) : Numbers codec (base.pass event).1 (base.pass event).2 := by
  refine ⟨tools,by simp [Codec.pass,Codec.emit,next],?_⟩
  intro k e found
  cases k with
  | zero =>
    simp only [Codec.pass,Codec.emit,List.getElem?_cons_zero,Option.some.injEq] at found
    subst found
    rw [Fields.getPutSame,next,Nat.add_zero]
  | succ k => simp [Codec.pass,Codec.emit] at found

theorem emitAllNumbers {codec : Codec} (events : List Fields) (base : Codec) (tools : base.tools = codec.tools)
    (next : base.outSequence = codec.outSequence) :
    Numbers codec (base.emitAll events).1 (base.emitAll events).2 ∧
      (base.emitAll events).2.map callEvent = events.map callEvent ∧
      (base.emitAll events).1.calls = base.calls := by
  induction events generalizing codec base with
  | nil => exact ⟨⟨tools,by simp [Codec.emitAll,next],by simp [Codec.emitAll]⟩,rfl,rfl⟩
  | cons event rest ih =>
    have later := @ih { codec with outSequence := codec.outSequence + 1 } (base.emit event).1 tools
      (by simp [Codec.emit,next])
    obtain ⟨numbers,spoken,calls⟩ := later
    refine ⟨⟨numbers.tools,?_,?_⟩,?_,calls⟩
    · rw [Codec.emitAll,List.length_cons]
      have step := numbers.next
      dsimp only at step
      rw [step]
      omega
    · intro k e found
      rw [Codec.emitAll] at found
      cases k with
      | zero =>
        simp only [List.getElem?_cons_zero,Option.some.injEq,Codec.emit] at found
        subst found
        rw [Fields.getPutSame,next,Nat.add_zero]
      | succ k =>
        have here := numbers.numbered k e (by simpa using found)
        have count : codec.outSequence + 1 + k = codec.outSequence + (k + 1) := by omega
        rw [here]
        exact congrArg (fun n : Nat => Document.int n) count
    · rw [Codec.emitAll,List.map_cons,List.map_cons,spoken]
      congr 1
      exact callEventPut event _

variable {codec codec' : Codec} {native : Fields} {out : List Fields}

theorem passEffect {calls : List (Text × Call)} (silent : callEvent native = none) :
    Effect codec.tools calls native calls [native] := .quiet silent

theorem lookupMem {calls : List (Text × Call)} {id : Text} {c : Call} (held : calls.lookup id = some c) :
    (id,c) ∈ calls := by
  obtain ⟨before,after,shape,_⟩ := List.lookup_eq_some_iff.mp held
  rw [shape]
  simp

theorem textOfMeans {value : Document} {t : Text} (ok : textOf value = .ok t) : value = .str t := by
  unfold textOf at ok
  split at ok
  · cases ok
    rfl
  · cases ok

theorem outputIndexMeans {value : Document} {n : Int} (ok : outputIndex value = .ok n) :
    value = .int n ∧ 0 ≤ n ∧ n < maxToolItems := by
  unfold outputIndex at ok
  split at ok
  · split at ok
    · next range =>
      cases ok
      exact ⟨rfl,range⟩
    · cases ok
  · cases ok

theorem sameTextMeans {value : Document} {t : Text} (same : sameText value t = true) : value = .str t := by
  unfold sameText at same
  split at same
  · simp only [decide_eq_true_eq] at same
    rw [same]
  · cases same

theorem otherItemSilent {raw : Document} (notCall : functionCall raw = false)
    (plain : callKind raw ≠ some .custom) : callKind raw = none := by
  unfold callKind at plain ⊢
  rw [notCall] at plain ⊢
  rw [if_neg Bool.false_ne_true] at plain ⊢
  split at plain
  · exact absurd rfl plain
  · next other => rw [if_neg other]

theorem itemCallEventItem (event : Fields) (item : Document) (added : Bool) {kind : Kind} (is : callKind item = some kind) :
    itemCallEvent (event.put (text "item") item) added = some ((item.fields.get (text "id")).text?,
      if added then .added (intOf (event.get (text "output_index"))) (item.fields.get (text "call_id")).text? kind
      else .closed (intOf (event.get (text "output_index"))) (item.fields.get (text "call_id")).text? kind
        (item.fields.get (payloadField kind)).text?) := by
  unfold itemCallEvent
  dsimp only
  rw [Fields.getPutSame,is,Fields.getPutOther _ (by decide)]
  rfl

theorem itemTyped (event : Fields) (item : Document) (added : Bool)
    (typed : event.get (text "type") = .str (text (if added then itemAdded else itemDone))) :
    callEvent (event.put (text "item") item) = itemCallEvent (event.put (text "item") item) added := by
  have same : (event.put (text "item") item).get (text "type") = .str (text (if added then itemAdded else itemDone)) := by
    rw [Fields.getPutOther _ (by decide),typed]
  unfold callEvent
  rw [same]
  cases added with
  | true => rfl
  | false => rfl

theorem addCallMeans {raw item : Fields} {id : Text} {index : Int} (ok : codec.addCall raw item id index = .ok codec')
    (range : 0 ≤ index ∧ index < maxToolItems) :
    ∃ c : Call, codec' = { codec with calls := codec.calls ++ [(id,c)] } ∧ Fresh codec.tools codec.calls id c ∧
      c.index = index ∧ item.get (text "call_id") = .str c.callId ∧ raw.get (text "name") = .str c.name := by
  obtain ⟨callId,called,ok⟩ := okBind ok
  obtain ⟨_,free,ok⟩ := okBind ok
  obtain ⟨_,unused,ok⟩ := okBind ok
  obtain ⟨name,named,ok⟩ := okBind ok
  obtain ⟨d,declared,ok⟩ := okBind ok
  cases ok
  have absent := demandOk free
  have unusedIndex := demandOk unused
  simp only [Bool.and_eq_true,Bool.not_eq_true',List.contains_eq_mem,decide_eq_false_iff_not] at absent
  simp only [Bool.not_eq_true',List.any_eq_false,decide_eq_true_eq] at unusedIndex
  obtain ⟨wire,same,found⟩ := declarationOfMeans declared
  cases same
  exact ⟨_,rfl,⟨absent.1.1,unusedIndex,range,⟨rfl,rfl,rfl⟩,d,found,rfl⟩,rfl,textOfMeans called,textOfMeans named⟩

theorem closeCallMeans {raw item : Fields} {id : Text} {index : Int}
    (ok : codec.closeCall raw item id index = .ok codec') :
    ∃ c, codec.calls.lookup id = some c ∧ codec' = codec.putCall id { c with closed := true } ∧ c.done = true ∧
      c.closed = false ∧ c.index = index ∧ item.get (text "call_id") = .str c.callId ∧
      raw.get (text "name") = .str c.name ∧ raw.get (text "arguments") = .str c.arguments := by
  unfold Codec.closeCall at ok
  split at ok
  · cases ok
  · next c held =>
    obtain ⟨_,fits,ok⟩ := okBind ok
    cases ok
    have all := demandOk fits
    simp only [Bool.and_eq_true,Bool.not_eq_true',decide_eq_true_eq] at all
    obtain ⟨⟨⟨⟨⟨done,unclosed⟩,index'⟩,called⟩,named⟩,stored⟩ := all
    exact ⟨c,held,rfl,done,unclosed,index',sameTextMeans called,sameTextMeans named,sameTextMeans stored⟩

theorem itemEffect {added : Bool}
    (typed : native.get (text "type") = .str (text (if added then itemAdded else itemDone)))
    (plain : callKind (native.get (text "item")) ≠ some .custom) (known : Known codec.tools codec.calls)
    (ok : codec.itemEvent native added = .ok (codec',out)) :
    Effect codec.tools codec.calls native codec'.calls out ∧ Numbers codec codec' out := by
  obtain ⟨item,translated,ok⟩ := okBind ok
  dsimp only at ok
  by_cases call : functionCall (native.get (text "item")) = true
  · rw [if_pos call] at ok
    obtain ⟨fields,itemFields,wire,d,rawIs,rfl,facts⟩ := itemMeans translated call
    obtain ⟨id,identified,ok⟩ := okBind ok
    obtain ⟨_,_,ok⟩ := okBind ok
    obtain ⟨index,indexed,ok⟩ := okBind ok
    obtain ⟨placed,range⟩ := outputIndexMeans indexed
    rw [Fields.getPutOther _ (by decide)] at placed
    have idIs : itemFields.get (text "id") = .str id := textOfMeans identified
    have event := (itemTyped native (.obj itemFields) added typed).trans
      (itemCallEventItem native (.obj itemFields) added facts.kind)
    change callEvent _ = some ((itemFields.get (text "id")).text?,_) at event
    rw [placed,idIs] at event
    rw [rawIs] at ok
    cases added with
    | true =>
      obtain ⟨next,kept,ok⟩ := okBind ok
      cases ok
      obtain ⟨c,rfl,fresh,sameIndex,called,named⟩ := addCallMeans kept range
      obtain ⟨e,found,kind⟩ := fresh.known
      have same : wire = c.name := Document.str.inj (facts.named.symm.trans named)
      have kinds : d.kind = c.kind := by
        rw [← same,facts.found] at found
        rw [Option.some.inj found,kind]
      refine ⟨.added fresh ?_,passNumbers _ rfl rfl⟩
      rw [callEventPut,event]
      change some (some id,CallEvent.added (some index) (itemFields.get (text "call_id")).text? d.kind) = _
      have called' : itemFields.get (text "call_id") = .str c.callId := called
      rw [called',kinds,sameIndex]
      rfl
    | false =>
      obtain ⟨next,kept,ok⟩ := okBind ok
      cases ok
      obtain ⟨c,held,rfl,done,unclosed,sameIndex,called,named,stored⟩ := closeCallMeans kept
      obtain ⟨e,found,kind⟩ := known (id,c) (lookupMem held)
      have same : wire = c.name := Document.str.inj (facts.named.symm.trans named)
      have kinds : d.kind = c.kind := by
        rw [← same,facts.found] at found
        rw [Option.some.inj found,kind]
      have closes : NativeCloses native id c.arguments := by
        refine ⟨typed,call,?_,?_⟩
        · rw [rawIs]
          exact facts.id.symm.trans idIs
        · rw [rawIs]
          exact stored
      have payload : ∃ payload, Payload c payload ∧ itemFields.get (payloadField d.kind) = .str payload := by
        cases which : d.kind with
        | function =>
          refine ⟨c.arguments,?_,(facts.arguments which).trans stored⟩
          rw [Payload,← kinds,which]
        | custom =>
          obtain ⟨a,value,argued,read,input⟩ := facts.input which rfl
          refine ⟨value,?_,input⟩
          have equal : a = c.arguments := Document.str.inj (argued.symm.trans stored)
          rw [Payload,← kinds,which,← equal]
          exact read
      obtain ⟨payload,paid,delivered⟩ := payload
      refine ⟨.closed held done unclosed paid closes ?_,passNumbers _ rfl rfl⟩
      rw [callEventPut,event]
      change some (some id,CallEvent.closed (some index) (itemFields.get (text "call_id")).text? d.kind
        (itemFields.get (payloadField d.kind)).text?) = _
      have called' : itemFields.get (text "call_id") = .str c.callId := called
      rw [called',delivered,kinds,sameIndex]
      rfl
  · rw [if_neg call] at ok
    cases ok
    have raw : item = native.get (text "item") := by
      rw [Codec.item,if_neg call] at translated
      cases translated
      rfl
    have silent : callKind item = none := by
      rw [raw]
      exact otherItemSilent (by simpa using call) plain
    refine ⟨.quiet ?_,passNumbers _ rfl rfl⟩
    rw [callEventPut,itemTyped native item added typed]
    unfold itemCallEvent
    dsimp only
    rw [Fields.getPutSame,silent]
    rfl

theorem otherTypeSilent {event : Fields} {type : Text} (typed : event.get (text "type") = .str type)
    (notAdded : type ≠ text itemAdded) (notDone : type ≠ text itemDone) (notDelta : type ≠ text argumentsDelta)
    (notArguments : type ≠ text argumentsDone) (notInput : type ≠ text inputDelta) (notInputDone : type ≠ text inputDone) :
    callEvent event = none := by
  unfold callEvent
  rw [typed]
  dsimp only
  rw [if_neg notAdded,if_neg notDone,if_neg notDelta,if_neg notArguments,if_neg notInput,if_neg notInputDone]

theorem openCallMeans {event : Fields} {allowed : List String} {state : Call} (ok : openCall event allowed state = .ok ()) :
    state.done = false ∧ state.closed = false := by
  have all := demandOk ok
  simp only [Bool.and_eq_true,Bool.not_eq_true'] at all
  exact ⟨all.1.2,all.2⟩

theorem sizeMeans {t : Text} {n : Nat} (ok : size t = .ok n) : ∃ bytes, encode t = some bytes ∧ bytes.length = n := by
  unfold size at ok
  split at ok
  · next bytes encoded =>
    cases ok
    exact ⟨bytes,encoded,rfl⟩
  · cases ok

theorem deltaEffect {id : Text} {c : Call} (typed : native.get (text "type") = .str (text argumentsDelta))
    (identified : native.get (text "item_id") = .str id) (held : codec.calls.lookup id = some c)
    (ok : codec.deltaEvent native id c = .ok (codec',out)) :
    Effect codec.tools codec.calls native codec'.calls out ∧ Numbers codec codec' out := by
  obtain ⟨_,opened,ok⟩ := okBind ok
  obtain ⟨part,parted,ok⟩ := okBind ok
  obtain ⟨bytes,sized,ok⟩ := okBind ok
  obtain ⟨_,fits,ok⟩ := okBind ok
  have live := (openCallMeans opened).1
  have limits := demandOk fits
  simp only [Bool.and_eq_true,decide_eq_true_eq] at limits
  obtain ⟨encoded,isEncoded,counted⟩ := sizeMeans sized
  have small : Small part := ⟨encoded,isEncoded,by rw [counted]; exact limits.1.1⟩
  have ended := Except.ok.inj ok
  split at ended
  · next kind =>
    cases ended
    exact ⟨.customDelta held live kind small,rfl,rfl,by simp⟩
  · next kind =>
    cases ended
    refine ⟨.functionDelta held live kind small ?_,passNumbers _ rfl rfl⟩
    rw [callEventPut]
    unfold callEvent
    rw [typed,identified,textOfMeans parted]
    rfl

theorem publicNameMeans {event event' : Fields} {name : Text} (ok : codec.publicName event name = .ok event') {k : Text}
    (other : k ≠ text "name") : event'.get k = event.get k := by
  unfold Codec.publicName at ok
  split at ok
  · obtain ⟨d,_,ok⟩ := okBind ok
    cases ok
    exact Fields.getPutOther _ other
  · cases ok
    rfl

theorem inputEventSpoken (id : Text) (c : Call) (part : Text) :
    callEvent (inputEvent id c part) = some (some id,.delta .custom (some part)) := rfl

theorem doneEffect {id : Text} {c : Call} (typed : native.get (text "type") = .str (text argumentsDone))
    (identified : native.get (text "item_id") = .str id) (held : codec.calls.lookup id = some c)
    (ok : codec.doneEvent native id c = .ok (codec',out)) :
    Effect codec.tools codec.calls native codec'.calls out ∧ Numbers codec codec' out := by
  obtain ⟨_,opened,ok⟩ := okBind ok
  dsimp only at ok
  obtain ⟨_,_,ok⟩ := okBind ok
  have live := (openCallMeans opened).1
  split at ok
  · next kind =>
    obtain ⟨_,_,ok⟩ := okBind ok
    obtain ⟨event,named,ok⟩ := okBind ok
    cases ok
    refine ⟨.functionDone held live kind ?_,passNumbers _ rfl rfl⟩
    rw [callEventPut]
    unfold callEvent
    rw [publicNameMeans named (by decide),publicNameMeans named (by decide),typed,identified]
    rfl
  · next kind =>
    obtain ⟨value,read,ok⟩ := okBind ok
    obtain ⟨numbers,spoken,calls⟩ := emitAllNumbers ((chunks value.length value).map (inputEvent id c))
      (codec.putCall id { c with arguments := c.deltas.flatten, deltas := [], done := true })
      (rfl : _ = codec.tools) rfl
    rw [Except.ok.inj ok] at numbers spoken calls
    refine ⟨?_,numbers⟩
    rw [calls]
    refine .customDone held live kind read ?_
    rw [spoken,List.map_map]
    exact List.map_congr_left fun part _ => inputEventSpoken id c part

theorem argumentEffect {done : Bool}
    (typed : native.get (text "type") = .str (text (if done then argumentsDone else argumentsDelta)))
    (announced : ∀ id, native.get (text "item_id") = .str id → id ∈ codec.calls.map Prod.fst)
    (ok : codec.argumentEvent native done = .ok (codec',out)) :
    Effect codec.tools codec.calls native codec'.calls out ∧ Numbers codec codec' out := by
  obtain ⟨id,identified,ok⟩ := okBind ok
  have item := textOfMeans identified
  cases held : codec.calls.lookup id with
  | none =>
    obtain ⟨entry,mem,same⟩ := List.mem_map.mp (announced id item)
    have absent := List.lookup_eq_none_iff.mp held entry mem
    simp [same] at absent
  | some c =>
    rw [held] at ok
    cases done with
    | true => exact doneEffect typed item held ok
    | false => exact deltaEffect typed item held ok

theorem restEffect {type : Text} (typed : native.get (text "type") = .str type) (notAdded : type ≠ text itemAdded)
    (notDone : type ≠ text itemDone) (notDelta : type ≠ text argumentsDelta) (notArguments : type ≠ text argumentsDone)
    (input : type ≠ text inputDelta ∧ type ≠ text inputDone)
    (ok : (match native.get (text "response") with
      | .obj raw => codec.responseEvent native (type = text completed) raw
      | _ => .ok (codec.pass native)) = .ok (codec',out)) :
    Effect codec.tools codec.calls native codec'.calls out ∧ Numbers codec codec' out := by
  split at ok
  · obtain ⟨_,_,ok⟩ := okBind ok
    obtain ⟨response,_,ok⟩ := okBind ok
    cases ok
    refine ⟨.quiet ?_,passNumbers _ rfl rfl⟩
    rw [callEventPut]
    refine otherTypeSilent ?_ notAdded notDone notDelta notArguments input.1 input.2
    rw [Fields.getPutOther _ (by decide),typed]
  · cases ok
    refine ⟨.quiet ?_,passNumbers _ rfl rfl⟩
    rw [callEventPut]
    exact otherTypeSilent typed notAdded notDone notDelta notArguments input.1 input.2

theorem nextSequenceMeans {value : Document} (ok : nextSequence codec value = .ok codec') :
    ∃ n, codec' = { codec with inSequence := n } := by
  unfold nextSequence at ok
  split at ok
  · split at ok
    · cases ok
      exact ⟨_,rfl⟩
    · cases ok
  · cases ok

theorem eventsMeans (ok : codec.events native = .ok (codec',out)) :
    ∃ n type, native.get (text "type") = .str type ∧
      Codec.dispatch { codec with inSequence := n } native type = .ok (codec',out) := by
  obtain ⟨next,sequenced,ok⟩ := okBind ok
  obtain ⟨type,typed,ok⟩ := okBind ok
  obtain ⟨n,rfl⟩ := nextSequenceMeans sequenced
  exact ⟨n,type,textOfMeans typed,ok⟩

theorem dispatchEffect {type : Text} (typed : native.get (text "type") = .str type)
    (plain : PlainCalls codec.calls native) (known : Known codec.tools codec.calls)
    (ok : codec.dispatch native type = .ok (codec',out)) :
    Effect codec.tools codec.calls native codec'.calls out ∧ Numbers codec codec' out := by
  unfold Codec.dispatch at ok
  by_cases added : type = text itemAdded
  · rw [if_pos added] at ok
    exact itemEffect (by rw [typed,added]; rfl) (plain.item type typed (.inl added)) known ok
  rw [if_neg added] at ok
  by_cases done : type = text itemDone
  · rw [if_pos done] at ok
    exact itemEffect (by rw [typed,done]; rfl) (plain.item type typed (.inr done)) known ok
  rw [if_neg done] at ok
  by_cases delta : type = text argumentsDelta
  · rw [if_pos delta] at ok
    exact argumentEffect (by rw [typed,delta]; rfl) (plain.announced type · typed (.inl delta)) ok
  rw [if_neg delta] at ok
  by_cases arguments : type = text argumentsDone
  · rw [if_pos arguments] at ok
    exact argumentEffect (by rw [typed,arguments]; rfl) (plain.announced type · typed (.inr arguments)) ok
  rw [if_neg arguments] at ok
  exact restEffect typed added done delta arguments (plain.input type typed) ok

theorem eventsEffect (plain : PlainCalls codec.calls native) (known : Known codec.tools codec.calls)
    (ok : codec.events native = .ok (codec',out)) :
    Effect codec.tools codec.calls native codec'.calls out ∧ Numbers codec codec' out := by
  obtain ⟨n,type,typed,ok⟩ := eventsMeans ok
  obtain ⟨effect,numbers⟩ := @dispatchEffect { codec with inSequence := n } codec' native out type typed plain known ok
  exact ⟨effect,numbers.tools,numbers.next,numbers.numbered⟩

end Effects

end SlaifGateway.LocalCoding
