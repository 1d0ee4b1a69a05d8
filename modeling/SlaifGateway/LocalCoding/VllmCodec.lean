import SlaifGateway.Library.JsonText

/-! The tool codec of the native vLLM transport: it flattens declared tools to wire names, rewrites
the replayed calls of a request, and translates native items, responses and stream events back. -/
namespace SlaifGateway.LocalCoding
open Library

def maxArgumentBytes : Nat := 1048576
def maxToolItems : Nat := 3
def maxDeltaBytes : Nat := 65536
def maxArgumentEvents : Nat := 65536
def maxSequence : Int := 1000000
def chunkLength : Nat := 16384

inductive CodecError where
  | request
  | replayArguments
  | parse (code : String)
  | attributeError
  | typeError
  | keyError
  deriving DecidableEq, Repr

def bad : CodecError := .parse "vllm_tool_protocol_invalid"

abbrev Checked := Except CodecError

def demand (condition : Bool) (e : CodecError) : Checked Unit := if condition then .ok () else .error e

def isAlpha (c : CodePoint) : Bool := (65 ≤ c.val && c.val ≤ 90) || (97 ≤ c.val && c.val ≤ 122)
def isNumeral (c : CodePoint) : Bool := 48 ≤ c.val && c.val ≤ 57

def toolName : Text → Bool
  | [] => false
  | c :: rest => (isAlpha c || c.val = 95) && rest.length ≤ 127 &&
      rest.all fun d => isAlpha d || isNumeral d || d.val = 95 || d.val = 46 || d.val = 45

def identifier : Text → Bool
  | [] => false
  | c :: rest => (isAlpha c || isNumeral c) && rest.length ≤ 255 &&
      rest.all fun d => isAlpha d || isNumeral d || d.val = 46 || d.val = 95 || d.val = 58 || d.val = 45

def size (value : Text) : Checked Nat :=
  match encode value with
  | some bytes => .ok bytes.length
  | none => .error bad

-- No caller reads the value of a fraction.
def strictHooks : JsonText.Hooks := ⟨fun t => .float none t,false,true⟩
def uniqueHooks : JsonText.Hooks := ⟨fun t => .float none t,true,true⟩

def completeArguments (arguments : Document) : Bool :=
  match arguments with
  | .str t =>
    match encode t with
    | some bytes => bytes.length ≤ maxArgumentBytes && ((JsonText.loads strictHooks t).any Document.isMapping)
    | none => false
  | _ => false

def functionArguments (arguments : Document) (replay : Bool) : Checked Unit :=
  demand (completeArguments arguments)
    (if replay then .replayArguments else .parse "vllm_function_arguments_invalid")

def customInvalid : CodecError := .parse "vllm_custom_arguments_invalid"

def inputOf : Document → Checked Text
  | .obj [(key,.str value)] => if key = text "input" then .ok value else .error customInvalid
  | _ => .error customInvalid

def jsonInput (arguments : Text) : Checked Text :=
  match JsonText.loads uniqueHooks arguments with
  | none => .error customInvalid
  | some value => do
    let value ← inputOf value
    let bytes ← size value
    demand (bytes ≤ maxArgumentBytes) customInvalid
    .ok value

inductive Kind where
  | function
  | custom
  deriving DecidableEq, Repr

structure Declaration where
  namespaceName : Option Text
  name : Text
  kind : Kind
  deriving DecidableEq

def Declaration.wireName (d : Declaration) : Text :=
  match d.namespaceName with
  | some n => n ++ text "." ++ d.name
  | none => d.name

structure Call where
  name : Text
  index : Int
  callId : Text
  kind : Kind
  arguments : Text := []
  deltas : List Text := []
  argumentBytes : Nat := 0
  done : Bool := false
  closed : Bool := false

structure Codec where
  body : Fields
  originalTools : Document
  tools : List (Text × Declaration)
  calls : List (Text × Call) := []
  inSequence : Int := -1
  outSequence : Nat := 0

-- What a loop over a decoded value takes.
def iterate : Document → Checked (List Document)
  | .arr items => .ok items
  | .obj fields => .ok (fields.map fun f => .str f.1)
  | .str t => .ok (t.map fun c => .str [c])
  | _ => .error .typeError

def mapping : Document → Checked Fields
  | .obj fields => .ok fields
  | _ => .error .attributeError

def hashes : Document → Bool
  | .arr _ | .obj _ => false
  | _ => true

section Declare

def declaredKind (kind : Document) : Checked Kind :=
  if kind.isText "function" then .ok .function
  else if kind.isText "custom" then .ok .custom
  else if hashes kind then .error .request
  else .error .typeError

def describe : Option Document → Checked Text
  | none => .ok (text " Pass the raw custom-tool text as input.")
  | some (.str t) => .ok (t ++ text " Pass the raw custom-tool text as input.")
  | some _ => .error .typeError

def inputSchema : Document :=
  .obj [(text "type",.str (text "object")),
    (text "properties",.obj [(text "input",.obj [(text "type",.str (text "string"))])]),
    (text "required",.arr [.str (text "input")]),(text "additionalProperties",.bool false)]

def convertTool (tool : Fields) (d : Declaration) : Checked Document :=
  match d.kind with
  | .custom => do
    let description ← describe (tool.get? (text "description"))
    .ok (.obj [(text "type",.str (text "function")),(text "name",.str d.wireName),
      (text "description",.str description),(text "parameters",inputSchema),(text "strict",.bool false)])
  | .function => .ok (.obj (tool.put (text "name") (.str d.wireName)))

def declareTool (namespaceName : Option Text) (tool : Document) (tools : List (Text × Declaration))
    (flat : List Document) : Checked (List (Text × Declaration) × List Document) := do
  let tool ← mapping tool
  match tool.get (text "name") with
  | .str name =>
    demand (toolName name) .request
    let kind ← declaredKind (tool.get (text "type"))
    let d : Declaration := ⟨namespaceName,name,kind⟩
    demand (!((tools.map Prod.fst).contains d.wireName) && tools.length < 256) .request
    let converted ← convertTool tool d
    .ok (tools ++ [(d.wireName,d)],flat ++ [converted])
  | _ => .error .request

def declareEntries (namespaceName : Option Text) : List Document → List (Text × Declaration) → List Document →
    Checked (List (Text × Declaration) × List Document)
  | [],tools,flat => .ok (tools,flat)
  | tool :: rest,tools,flat => do
    let (tools,flat) ← declareTool namespaceName tool tools flat
    declareEntries namespaceName rest tools flat

def declareGroup (group : Document) (tools : List (Text × Declaration)) (flat : List Document) :
    Checked (List (Text × Declaration) × List Document) := do
  let fields ← mapping group
  let namespaceName := if (fields.get (text "type")).isText "namespace" then fields.get (text "name") else .null
  match namespaceName with
  | .null => declareEntries none [group] tools flat
  | .str name =>
    demand (toolName name) .request
    let entries ← iterate ((fields.get? (text "tools")).getD (.arr []))
    declareEntries (some name) entries tools flat
  | _ => .error .request

def declareGroups : List Document → List (Text × Declaration) → List Document →
    Checked (List (Text × Declaration) × List Document)
  | [],tools,flat => .ok (tools,flat)
  | group :: rest,tools,flat => do
    let (tools,flat) ← declareGroup group tools flat
    declareGroups rest tools flat

end Declare

section History

def truthy : Document → Bool
  | .null => false
  | .bool b => b
  | .int n => n ≠ 0
  | .float value _ => value ≠ some 0
  | .str t => !t.isEmpty
  | .arr items => !items.isEmpty
  | .obj fields => !fields.isEmpty

-- The text of a value in a formatted string. A container is written with brackets, which no
-- declared name has, so its text is left out.
def formatted : Document → Option Text
  | .str t => some t
  | .null => some (text "None")
  | .bool true => some (text "True")
  | .bool false => some (text "False")
  | .int n => some (Document.decimal n)
  | .float (some _) spelling => some spelling
  | .float none spelling =>
    some (if spelling = text "NaN" then text "nan" else if spelling = text "Infinity" then text "inf" else text "-inf")
  | .arr _ | .obj _ => none

def detailPart : Document → Document
  | .obj part =>
    if (Fields.get part (text "type")).isText "input_image" && !Fields.has part (text "detail") then
      .obj (Fields.put part (text "detail") (.str (text "auto")))
    else .obj part
  | part => part

def detailField (key : Text) (item : Fields) : Fields :=
  match item.get key with
  | .arr parts => item.put key (.arr (parts.map detailPart))
  | _ => item

def withDetail (item : Fields) : Fields :=
  let item := if (item.get (text "role")).isText "user" then detailField (text "content") item else item
  let kind := item.get (text "type")
  if kind.isText "function_call_output" || kind.isText "custom_tool_call_output" then detailField (text "output") item
  else item

-- The declaration a replayed call is looked up under.
def lookUp (tools : List (Text × Declaration)) (item : Fields) : Checked (Option (Text × Declaration)) :=
  let found (wire : Text) := (tools.lookup wire).map fun d => (wire,d)
  let name := item.get (text "name")
  if truthy (item.get (text "namespace")) then
    .ok (do found ((← formatted (item.get (text "namespace"))) ++ text "." ++ (← formatted name)))
  else
    match name with
    | .str t => .ok (found t)
    | name => if hashes name then .ok none else .error .typeError

def convertCall (tools : List (Text × Declaration)) (item : Fields) (kind : Kind) : Checked Fields := do
  match ← lookUp tools item with
  | none => .error .request
  | some (wire,declaration) =>
    demand (declaration.kind = kind) .request
    let item := (item.pop (text "namespace")).put (text "name") (.str wire)
    match kind with
    | .custom =>
      match item.get? (text "input") with
      | none => .error .keyError
      | some input =>
        .ok (((item.put (text "type") (.str (text "function_call"))).pop (text "input")).put (text "arguments")
          (.str (Document.dumps true (.obj [(text "input",input)]))))
    | .function => do
      functionArguments (item.get (text "arguments")) true
      .ok item

def convertItem (tools : List (Text × Declaration)) : Document → Checked Document
  | .obj fields =>
    let item := withDetail fields
    let kind := item.get (text "type")
    if !hashes kind then .error .typeError
    else if kind.isText "custom_tool_call_output" then
      .ok (.obj (item.put (text "type") (.str (text "function_call_output"))))
    else if kind.isText "custom_tool_call" then (convertCall tools item .custom).map .obj
    else if kind.isText "function_call" then (convertCall tools item .function).map .obj
    else .ok (.obj item)
  | item => .ok item

def convertItems (tools : List (Text × Declaration)) : List Document → Checked (List Document)
  | [] => .ok []
  | item :: rest => do
    let head ← convertItem tools item
    let tail ← convertItems tools rest
    .ok (head :: tail)

-- Only a list is rewritten: the keys or characters of another value are texts and stay.
def convertInput (tools : List (Text × Declaration)) : Option Document → Checked (Option Document)
  | none => .ok none
  | some (.arr items) => do
    let items ← convertItems tools items
    .ok (some (.arr items))
  | some input => do
    let _ ← iterate input
    .ok (some input)

def construct (body : Fields) : Checked Codec := do
  let originalTools := (body.get? (text "tools")).getD (.arr [])
  let groups ← iterate originalTools
  let (tools,flat) ← declareGroups groups [] []
  let body := if body.has (text "tools") then body.put (text "tools") (.arr flat) else body
  let input ← convertInput tools (body.get? (text "input"))
  .ok { body := match input with
          | some input => body.put (text "input") input
          | none => body
        originalTools := originalTools
        tools := tools }

end History

section Items

def withoutAuthority (item : Fields) (key : String) : Checked Fields := do
  demand (item.get (text key)).isNull (.parse "vllm_native_authority_not_supported")
  .ok (item.pop (text key))

def namespaceFits (value : Document) (d : Declaration) : Bool :=
  match value with
  | .null => true
  | .str t => some t = d.namespaceName
  | _ => false

def declaredFields (item : Fields) (d : Declaration) : Fields :=
  let item := item.put (text "name") (.str d.name)
  match d.namespaceName with
  | some n => item.put (text "namespace") (.str n)
  | none => item.pop (text "namespace")

def customItem (item : Fields) (added : Bool) : Checked Fields :=
  match item.get (text "arguments") with
  | .str arguments => do
    let bytes ← size arguments
    demand (bytes ≤ maxArgumentBytes) bad
    demand (!added || arguments.isEmpty) bad
    let item := (item.pop (text "arguments")).put (text "type") (.str (text "custom_tool_call"))
    if added then .ok (item.put (text "input") (.str []))
    else do
      let input ← jsonInput arguments
      .ok (item.put (text "input") (.str input))
  | _ => .error bad

def functionCall (raw : Document) : Bool := raw.isMapping && (raw.fields.get (text "type")).isText "function_call"

def declarationOf (codec : Codec) (name : Document) : Checked Declaration :=
  match name with
  | .str wire =>
    match codec.tools.lookup wire with
    | some d => .ok d
    | none => .error bad
  | _ => .error bad

def Codec.callItem (codec : Codec) (raw : Fields) (added : Bool) : Checked Fields := do
  let item ← withoutAuthority raw "async"
  let item ← withoutAuthority item "caller"
  let d ← declarationOf codec (item.get (text "name"))
  demand (namespaceFits (item.get (text "namespace")) d) bad
  let item := declaredFields item d
  match d.kind with
  | .custom => customItem item added
  | .function => do
    demand (added || completeArguments (item.get (text "arguments"))) (.parse "vllm_function_arguments_invalid")
    .ok item

def Codec.item (codec : Codec) (raw : Document) (added : Bool) : Checked Document :=
  if functionCall raw then (codec.callItem raw.fields added).map .obj else .ok raw

def terminalMismatch : CodecError := .parse "vllm_terminal_call_mismatch"

def isIdentifier : Document → Bool
  | .str t => identifier t
  | _ => false

def Codec.callAt (codec : Codec) (index : Nat) : Checked (Text × Call) :=
  match codec.calls.filter fun entry => entry.2.index = (index : Int) with
  | [entry] => .ok entry
  | _ => .error terminalMismatch

def sameText (value : Document) (t : Text) : Bool :=
  match value with
  | .str u => u = t
  | _ => false

def terminalItem (codec : Codec) (index : Nat) (raw canonical : Fields) : Checked (Text × Fields) := do
  let (itemId,state) ← codec.callAt index
  demand (state.closed && sameText (raw.get (text "arguments")) state.arguments &&
    sameText (raw.get (text "name")) state.name) terminalMismatch
  demand (isIdentifier (raw.get (text "id")) && isIdentifier (raw.get (text "call_id"))) terminalMismatch
  demand ((raw.get (text "status")).isNull || (raw.get (text "status")).isText "completed") terminalMismatch
  .ok (itemId,((canonical.put (text "id") (.str itemId)).put (text "call_id") (.str state.callId)).put (text "status")
    (.str (text "completed")))

def Codec.outputItems (codec : Codec) (terminal : Bool) : Nat → List Document → Checked (List Document × List Text)
  | _,[] => .ok ([],[])
  | index,raw :: rest => do
    let canonical ← codec.item raw false
    if terminal && functionCall raw then do
      let (itemId,bound) ← terminalItem codec index raw.fields canonical.fields
      let (converted,seen) ← codec.outputItems terminal (index + 1) rest
      .ok (.obj bound :: converted,itemId :: seen)
    else do
      let (converted,seen) ← codec.outputItems terminal (index + 1) rest
      .ok (canonical :: converted,seen)

def Codec.response (codec : Codec) (raw : Fields) (terminal : Bool) : Checked Fields :=
  match (raw.get? (text "output")).getD (.arr []) with
  | .arr output => do
    demand (output.length ≤ maxToolItems) terminalMismatch
    let (converted,seen) ← codec.outputItems terminal 0 output
    demand (!terminal || (codec.calls.map Prod.fst).all seen.contains) terminalMismatch
    let response := if raw.has (text "output") then raw.put (text "output") (.arr converted) else raw
    .ok (if response.has (text "tools") then response.put (text "tools") codec.originalTools else response)
  | _ => .error terminalMismatch

end Items

section Events

def itemAdded : String := "response.output_item.added"
def itemDone : String := "response.output_item.done"
def argumentsDelta : String := "response.function_call_arguments.delta"
def argumentsDone : String := "response.function_call_arguments.done"
def inputDelta : String := "response.custom_tool_call_input.delta"
def inputDone : String := "response.custom_tool_call_input.done"
def completed : String := "response.completed"

abbrev Step := Checked (Codec × List Fields)

def Codec.emit (codec : Codec) (event : Fields) : Codec × Fields :=
  ({ codec with outSequence := codec.outSequence + 1 },event.put (text "sequence_number") (.int codec.outSequence))

def Codec.pass (codec : Codec) (event : Fields) : Codec × List Fields :=
  let (codec,event) := codec.emit event
  (codec,[event])

def Codec.emitAll (codec : Codec) : List Fields → Codec × List Fields
  | [] => (codec,[])
  | event :: rest =>
    let (codec,event) := codec.emit event
    let (codec,events) := codec.emitAll rest
    (codec,event :: events)

def Codec.putCall (codec : Codec) (id : Text) (call : Call) : Codec :=
  { codec with calls := codec.calls.map fun entry => if entry.1 = id then (id,call) else entry }

def outputIndex : Document → Checked Int
  | .int n => if 0 ≤ n ∧ n < maxToolItems then .ok n else .error bad
  | _ => .error bad

def textOf : Document → Checked Text
  | .str t => .ok t
  | _ => .error bad

def Codec.addCall (codec : Codec) (raw item : Fields) (id : Text) (index : Int) : Checked Codec := do
  let callId ← textOf (item.get (text "call_id"))
  demand (!(codec.calls.map Prod.fst).contains id && codec.calls.length < maxToolItems && identifier callId) bad
  demand (!codec.calls.any fun entry => entry.2.index = index) bad
  let name ← textOf (raw.get (text "name"))
  let d ← declarationOf codec (.str name)
  .ok { codec with calls := codec.calls ++ [(id,{ name, index, callId, kind := d.kind })] }

def Codec.closeCall (codec : Codec) (raw item : Fields) (id : Text) (index : Int) : Checked Codec :=
  match codec.calls.lookup id with
  | none => .error bad
  | some state => do
    demand (state.done && !state.closed && state.index = index && sameText (item.get (text "call_id")) state.callId &&
      sameText (raw.get (text "name")) state.name && sameText (raw.get (text "arguments")) state.arguments) bad
    .ok (codec.putCall id { state with closed := true })

def Codec.itemEvent (codec : Codec) (event : Fields) (added : Bool) : Step := do
  let raw := event.get (text "item")
  let item ← codec.item raw added
  let event := event.put (text "item") item
  if functionCall raw then do
    let id ← textOf (item.fields.get (text "id"))
    demand (identifier id) bad
    let index ← outputIndex (event.get (text "output_index"))
    let codec ← if added then codec.addCall raw.fields item.fields id index
      else codec.closeCall raw.fields item.fields id index
    .ok (codec.pass event)
  else .ok (codec.pass event)

def openCall (event : Fields) (allowed : List String) (state : Call) : Checked Unit :=
  demand (event.keysWithin allowed &&
    (match event.get (text "output_index") with | .int n => n = state.index | _ => false) &&
    !state.done && !state.closed) bad

def Codec.deltaEvent (codec : Codec) (event : Fields) (id : Text) (state : Call) : Step := do
  openCall event ["type","sequence_number","item_id","output_index","delta"] state
  let delta ← textOf (event.get (text "delta"))
  let bytes ← size delta
  demand (bytes ≤ maxDeltaBytes && state.argumentBytes + bytes ≤ maxArgumentBytes &&
    state.deltas.length < maxArgumentEvents) bad
  let codec := codec.putCall id
    { state with argumentBytes := state.argumentBytes + bytes, deltas := state.deltas ++ [delta] }
  .ok (match state.kind with
    | .custom => (codec,[])
    | .function => codec.pass event)

def chunks (fuel : Nat) (value : Text) : List Text :=
  match fuel with
  | 0 => []
  | fuel + 1 => if value = [] then [] else value.take chunkLength :: chunks fuel (value.drop chunkLength)

def inputEvent (id : Text) (state : Call) (delta : Text) : Fields :=
  [(text "type",.str (text inputDelta)),(text "item_id",.str id),(text "output_index",.int state.index),
    (text "call_id",.str state.callId),(text "delta",.str delta)]

def Codec.publicName (codec : Codec) (event : Fields) (name : Text) : Checked Fields :=
  if event.has (text "name") then do
    let d ← declarationOf codec (.str name)
    .ok (event.put (text "name") (.str d.name))
  else .ok event

def Codec.doneEvent (codec : Codec) (event : Fields) (id : Text) (state : Call) : Step := do
  openCall event ["type","sequence_number","item_id","output_index","name","arguments"] state
  let joined := state.deltas.flatten
  demand (sameText (event.get (text "arguments")) joined &&
    (!event.has (text "name") || sameText (event.get (text "name")) state.name)) bad
  let ended := codec.putCall id { state with arguments := joined, deltas := [], done := true }
  match state.kind with
  | .function => do
    functionArguments (.str joined) false
    let event ← codec.publicName event state.name
    .ok (ended.pass event)
  | .custom => do
    let value ← jsonInput joined
    .ok (ended.emitAll ((chunks value.length value).map (inputEvent id state)))

def Codec.unknownArguments (codec : Codec) (event : Fields) (done : Bool) : Step :=
  if done && event.has (text "name") then do
    let name ← textOf (event.get (text "name"))
    let d ← declarationOf codec (.str name)
    demand (d.kind = .function) bad
    .ok (codec.pass (event.put (text "name") (.str d.name)))
  else .ok (codec.pass event)

def Codec.argumentEvent (codec : Codec) (event : Fields) (done : Bool) : Step := do
  let id ← textOf (event.get (text "item_id"))
  match codec.calls.lookup id with
  | some state => if done then codec.doneEvent event id state else codec.deltaEvent event id state
  | none => codec.unknownArguments event done

def Codec.responseEvent (codec : Codec) (event : Fields) (terminal : Bool) (raw : Fields) : Step := do
  demand (!terminal || codec.calls.all fun entry => entry.2.closed) bad
  let response ← codec.response raw terminal
  .ok (codec.pass (event.put (text "response") (.obj response)))

def nextSequence (codec : Codec) : Document → Checked Codec
  | .int n => if n = codec.inSequence + 1 ∧ n ≤ maxSequence then .ok { codec with inSequence := n } else .error bad
  | _ => .error bad

def Codec.dispatch (codec : Codec) (event : Fields) (type : Text) : Step :=
  if type = text itemAdded then codec.itemEvent event true
  else if type = text itemDone then codec.itemEvent event false
  else if type = text argumentsDelta then codec.argumentEvent event false
  else if type = text argumentsDone then codec.argumentEvent event true
  else
    match event.get (text "response") with
    | .obj raw => codec.responseEvent event (type = text completed) raw
    | _ => .ok (codec.pass event)

def Codec.events (codec : Codec) (event : Fields) : Step := do
  let codec ← nextSequence codec (event.get (text "sequence_number"))
  let type ← textOf (event.get (text "type"))
  codec.dispatch event type

def Codec.stream (codec : Codec) : List Fields → Step
  | [] => .ok (codec,[])
  | native :: rest => do
    let (codec,first) ← codec.events native
    let (codec,later) ← codec.stream rest
    .ok (codec,first ++ later)

end Events
end SlaifGateway.LocalCoding
