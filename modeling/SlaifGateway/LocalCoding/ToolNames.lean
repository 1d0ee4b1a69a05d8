import SlaifGateway.Library.Outcome
import SlaifGateway.LocalCoding.VllmCodec
import SlaifGateway.Library.JsonRoundTrip

/-! Flattened tool names and the round trip of replayed calls: a call of the history comes back from
its wire form as it was exactly when it spells a declared tool the way the declaration does. -/
namespace SlaifGateway.LocalCoding
open Library

section Checks
variable {α β : Type}

theorem demandOk {condition : Bool} {e : CodecError} {u : Unit} (ok : demand condition e = .ok u) :
    condition = true := by
  unfold demand at ok
  split at ok
  · assumption
  · cases ok

theorem demandTrue {condition : Bool} (holds : condition = true) (e : CodecError) : demand condition e = .ok () := by
  rw [demand,if_pos holds]

end Checks

section Declared

-- Every wire name is the flattened name of its declaration and is declared once.
structure Flattened (tools : List (Text × Declaration)) : Prop where
  distinct : (tools.map Prod.fst).Nodup
  wired : ∀ entry ∈ tools, entry.1 = entry.2.wireName
  named : ∀ entry ∈ tools, entry.2.namespaceName ≠ some []

theorem flattenedAppend {tools : List (Text × Declaration)} {d : Declaration} (flat : Flattened tools)
    (fresh : d.wireName ∉ tools.map Prod.fst) (named : d.namespaceName ≠ some []) :
    Flattened (tools ++ [(d.wireName,d)]) := by
  refine ⟨?_,?_,?_⟩
  · rw [List.map_append,List.nodup_append]
    refine ⟨flat.distinct,by simp,?_⟩
    rintro a mem b single rfl
    simp only [List.map_cons,List.map_nil,List.mem_singleton] at single
    exact fresh (single ▸ mem)
  · intro entry mem
    obtain mem | mem := List.mem_append.mp mem
    · exact flat.wired entry mem
    · rw [List.mem_singleton.mp mem]
  · intro entry mem
    obtain mem | mem := List.mem_append.mp mem
    · exact flat.named entry mem
    · rw [List.mem_singleton.mp mem]
      exact named

theorem declareToolFlat {n : Option Text} {tool : Document} {tools tools' : List (Text × Declaration)}
    {flat flat' : List Document} (named : n ≠ some []) (before : Flattened tools)
    (ok : declareTool n tool tools flat = .ok (tools',flat')) : Flattened tools' := by
  obtain ⟨fields,_,ok⟩ := okBind ok
  split at ok
  · obtain ⟨_,_,ok⟩ := okBind ok
    obtain ⟨kind,_,ok⟩ := okBind ok
    obtain ⟨_,fresh,ok⟩ := okBind ok
    obtain ⟨converted,_,ok⟩ := okBind ok
    cases ok
    have absent := demandOk fresh
    simp only [Bool.and_eq_true,Bool.not_eq_true',List.contains_eq_mem,decide_eq_false_iff_not] at absent
    exact flattenedAppend before absent.1 named
  · cases ok

theorem declareEntriesFlat {n : Option Text} (named : n ≠ some []) (entries : List Document)
    {tools tools' : List (Text × Declaration)} {flat flat' : List Document} (before : Flattened tools)
    (ok : declareEntries n entries tools flat = .ok (tools',flat')) : Flattened tools' := by
  induction entries generalizing tools flat with
  | nil =>
    cases ok
    exact before
  | cons tool rest ih =>
    obtain ⟨⟨middle,list⟩,first,ok⟩ := okBind ok
    exact ih (declareToolFlat named before first) ok

theorem toolNameNonempty {t : Text} (named : toolName t = true) : t ≠ [] := by
  rintro rfl
  cases named

theorem declareGroupFlat {group : Document} {tools tools' : List (Text × Declaration)} {flat flat' : List Document}
    (before : Flattened tools) (ok : declareGroup group tools flat = .ok (tools',flat')) : Flattened tools' := by
  obtain ⟨fields,_,ok⟩ := okBind ok
  dsimp only at ok
  split at ok
  · exact declareEntriesFlat (by simp) _ before ok
  · next name _ =>
    obtain ⟨_,named,ok⟩ := okBind ok
    obtain ⟨entries,_,ok⟩ := okBind ok
    exact declareEntriesFlat (by simpa using toolNameNonempty (demandOk named)) _ before ok
  · cases ok

theorem declareGroupsFlat (groups : List Document) {tools tools' : List (Text × Declaration)}
    {flat flat' : List Document} (before : Flattened tools)
    (ok : declareGroups groups tools flat = .ok (tools',flat')) : Flattened tools' := by
  induction groups generalizing tools flat with
  | nil =>
    cases ok
    exact before
  | cons group rest ih =>
    obtain ⟨⟨middle,list⟩,first,ok⟩ := okBind ok
    exact ih (declareGroupFlat before first) ok

theorem flattenedEmpty : Flattened [] := ⟨by simp,by simp,by simp⟩

theorem flattenedLookup {tools : List (Text × Declaration)} (flat : Flattened tools) {wire : Text} {d : Declaration} :
    tools.lookup wire = some d ↔ (wire,d) ∈ tools := by
  constructor
  · intro found
    obtain ⟨before,after,shape,_⟩ := List.lookup_eq_some_iff.mp found
    rw [shape]
    simp
  · intro mem
    cases found : tools.lookup wire with
    | none =>
      have absent := List.lookup_eq_none_iff.mp found (wire,d) mem
      simp at absent
    | some e =>
      obtain ⟨before,after,shape,_⟩ := List.lookup_eq_some_iff.mp found
      have same := List.inj_on_of_nodup_map flat.distinct (by rw [shape]; simp : (wire,e) ∈ tools) mem rfl
      rw [(Prod.mk.injEq ..).mp same |>.2]

theorem wireNamesDistinct {tools : List (Text × Declaration)} (flat : Flattened tools) {a b : Text × Declaration}
    (first : a ∈ tools) (second : b ∈ tools) (same : a.2.wireName = b.2.wireName) : a = b := by
  apply List.inj_on_of_nodup_map flat.distinct first second
  rw [flat.wired a first,flat.wired b second,same]

end Declared

section Sizes

theorem encodeAtLeast {t : Text} {bytes : List UInt8} (ok : encode t = some bytes) : t.length ≤ bytes.length := by
  induction t generalizing bytes with
  | nil => simp
  | cons c rest ih =>
    simp only [encode,Option.bind_eq_bind,Option.bind_eq_some_iff,Option.some.injEq] at ok
    obtain ⟨head,first,tail,later,rfl⟩ := ok
    have one : 1 ≤ head.length := by
      unfold encodePoint at first
      split_ifs at first <;> cases first <;> simp
    have more := ih later
    simp only [List.length_cons,List.length_append]
    omega

theorem unicodeEscapeLength (n : Nat) : (Document.unicodeEscape n).length = 6 := by
  have mark : text "\\u" = [92,117] := by decide
  simp [Document.unicodeEscape,mark]

theorem encodePointAtMost {c : CodePoint} {bytes : List UInt8} (ok : encodePoint c = some bytes) :
    bytes.length ≤ (Document.escape true c).length := by
  have one := JsonText.escapeNonempty c
  have wide : 126 < c.val → 6 ≤ (Document.escape true c).length := by
    intro beyond
    have absent : Document.shortEscapes.lookup c.val = none := by
      rw [List.lookup_eq_none_iff]
      intro entry mem
      rw [bne_iff_ne]
      intro same
      have small : entry.1 ≤ 126 := (by decide : ∀ entry ∈ Document.shortEscapes, entry.1 ≤ 126) entry mem
      omega
    unfold Document.escape
    rw [absent]
    dsimp only
    rw [if_neg (by omega),Bool.true_and,if_pos (by simpa using beyond)]
    split
    · exact Nat.le_of_eq (unicodeEscapeLength _).symm
    · rw [List.length_append,unicodeEscapeLength,unicodeEscapeLength]
      omega
  unfold encodePoint at ok
  split_ifs at ok <;> cases ok
  · simpa using one
  all_goals
    have long := wide (by omega)
    simp only [List.length_cons,List.length_nil]
    omega

theorem encodeAtMost {t : Text} {bytes : List UInt8} (ok : encode t = some bytes) :
    bytes.length ≤ (t.flatMap (Document.escape true)).length := by
  induction t generalizing bytes with
  | nil =>
    cases ok
    simp
  | cons c rest ih =>
    simp only [encode,Option.bind_eq_bind,Option.bind_eq_some_iff,Option.some.injEq] at ok
    obtain ⟨head,first,tail,later,rfl⟩ := ok
    have here := encodePointAtMost first
    have more := ih later
    simp only [List.flatMap_cons,List.length_append]
    omega

theorem sizeOk {t : Text} {bytes : List UInt8} (encoded : encode t = some bytes) : size t = .ok bytes.length := by
  rw [size,encoded]

def wrapped (input : Text) : Text := Document.dumps true (.obj [(text "input",.str input)])

theorem wrappedLength (input : Text) : (input.flatMap (Document.escape true)).length ≤ (wrapped input).length := by
  simp only [wrapped,Document.dumps,Document.dumpsFields,Document.quote,List.intercalate,List.intersperse_singleton,
    List.flatten_cons,List.flatten_nil,List.length_append]
  omega

-- The wrapped text of a custom call is read back as it was.
theorem jsonInputWrapped {input : Text} {bytes : List UInt8} (valid : (encode input).isSome)
    (written : encode (wrapped input) = some bytes) (fits : bytes.length ≤ maxArgumentBytes) :
    jsonInput (wrapped input) = .ok input := by
  obtain ⟨raw,encoded⟩ := Option.isSome_iff_exists.mp valid
  have plain := encodeIsSome.mp valid
  have key : ∀ c ∈ text "input", isSurrogate c = false := textPlain (by decide)
  have read : JsonText.loads uniqueHooks (wrapped input) = some (.obj [(text "input",.str input)]) :=
    JsonText.loadsSingle rfl key plain
  have small : raw.length ≤ maxArgumentBytes := by
    have first := encodeAtMost encoded
    have second := wrappedLength input
    have third := encodeAtLeast written
    omega
  have field : inputOf (.obj [(text "input",.str input)]) = .ok input := by
    rw [inputOf,if_pos rfl]
  rw [jsonInput,read]
  change (inputOf (.obj [(text "input",.str input)]) >>= _) = _
  rw [field]
  change (size input >>= _) = _
  rw [sizeOk encoded]
  change (demand (decide (raw.length ≤ maxArgumentBytes)) customInvalid >>= _) = _
  rw [demandTrue (by simpa using small)]
  rfl

end Sizes

section History

def Kind.itemType : Kind → String
  | .function => "function_call"
  | .custom => "custom_tool_call"

-- The replayed calls of a request, with the kind their type states.
def historyCalls (body : Fields) : List (Fields × Kind) :=
  match body.get (text "input") with
  | .arr items => items.filterMap fun item =>
    match item with
    | .obj fields =>
      if (Fields.get fields (text "type")).isText "custom_tool_call" then some (fields,.custom)
      else if (Fields.get fields (text "type")).isText "function_call" then some (fields,.function)
      else none
    | _ => none
  | _ => []

-- The pair a call names: no namespace is a missing or null one.
def callPair (item : Fields) : Option (Option Text × Text) :=
  match item.get (text "namespace"),item.get (text "name") with
  | .null,.str name => some (none,name)
  | .str n,.str name => some (some n,name)
  | _,_ => none

def flatten : Option Text → Text → Text
  | some (c :: rest),name => c :: rest ++ text "." ++ name
  | _,name => name

theorem wireFlatten {d : Declaration} (named : d.namespaceName ≠ some []) :
    d.wireName = flatten d.namespaceName d.name := by
  unfold Declaration.wireName flatten
  split
  · next n same =>
    rw [same] at named
    cases n with
    | nil => exact absurd rfl named
    | cons c rest => rw [same]
  · next same => rw [same]

theorem flattenInjective {n : Option Text} {a b : Text} (same : flatten n a = flatten n b) : a = b := by
  unfold flatten at same
  split at same
  · exact List.append_cancel_left same
  · exact same

theorem detailFieldGet {key k : Text} (item : Fields) (other : k ≠ key) :
    (detailField key item).get k = item.get k := by
  unfold detailField
  split
  · exact Fields.getPutOther _ other
  · rfl

theorem detailFieldFind {key k : Text} (item : Fields) (other : k ≠ key) :
    (detailField key item).get? k = item.get? k := by
  unfold detailField
  split
  · rw [Fields.getPut,if_neg other]
  · rfl

theorem withDetailFind {k : Text} (item : Fields) (content : k ≠ text "content") (output : k ≠ text "output") :
    (withDetail item).get? k = item.get? k := by
  unfold withDetail
  dsimp only
  split <;> split
  all_goals first
    | rw [detailFieldFind _ output,detailFieldFind _ content]
    | rw [detailFieldFind _ output]
    | rw [detailFieldFind _ content]
    | rfl

theorem withDetailGet {k : Text} (item : Fields) (content : k ≠ text "content") (output : k ≠ text "output") :
    (withDetail item).get k = item.get k := by
  rw [Fields.get,withDetailFind item content output,Fields.get]

-- What a converted call is: the wire fields over what the item had.
structure Converted (tools : List (Text × Declaration)) (item : Fields) (kind : Kind) (wire : Text) (d : Declaration)
    (converted : Fields) : Prop where
  found : lookUp tools item = .ok (some (wire,d))
  kinds : d.kind = kind
  name : converted.get (text "name") = .str wire
  type : converted.get (text "type") = .str (text "function_call") ∨ (kind = .function ∧
    converted.get (text "type") = item.get (text "type"))
  space : converted.get (text "namespace") = .null
  others : ∀ k, k ≠ text "name" → k ≠ text "namespace" → k ≠ text "type" → k ≠ text "input" → k ≠ text "arguments" →
    converted.get k = item.get k
  arguments : kind = .function → converted.get (text "arguments") = item.get (text "arguments") ∧
    completeArguments (item.get (text "arguments"))
  input : kind = .custom → ∃ value, item.get? (text "input") = some value ∧
    converted.get (text "arguments") = .str (Document.dumps true (.obj [(text "input",value)]))

theorem functionConverted {tools : List (Text × Declaration)} {item : Fields} {wire : Text} {d : Declaration}
    (found : lookUp tools item = .ok (some (wire,d))) (kinds : d.kind = .function)
    (complete : completeArguments (item.get (text "arguments"))) :
    Converted tools item .function wire d ((item.pop (text "namespace")).put (text "name") (.str wire)) where
  found := found
  kinds := kinds
  name := Fields.getPutSame _ _ _
  type := by
    rw [Fields.getPutOther _ (by decide),Fields.getPoppedOther (by decide)]
    exact .inr ⟨rfl,rfl⟩
  space := by rw [Fields.getPutOther _ (by decide),Fields.getPoppedSame]
  others := fun k name space _ _ _ => by rw [Fields.getPutOther _ name,Fields.getPoppedOther space]
  arguments := fun _ => ⟨by rw [Fields.getPutOther _ (by decide),Fields.getPoppedOther (by decide)],complete⟩
  input := fun other => by cases other

theorem customConverted {tools : List (Text × Declaration)} {item : Fields} {wire : Text} {d : Declaration}
    {value : Document} (found : lookUp tools item = .ok (some (wire,d))) (kinds : d.kind = .custom)
    (present : item.get? (text "input") = some value) :
    Converted tools item .custom wire d
      (((((item.pop (text "namespace")).put (text "name") (.str wire)).put (text "type")
        (.str (text "function_call"))).pop (text "input")).put (text "arguments")
          (.str (Document.dumps true (.obj [(text "input",value)])))) where
  found := found
  kinds := kinds
  name := by
    rw [Fields.getPutOther _ (by decide),Fields.getPoppedOther (by decide),Fields.getPutOther _ (by decide),
      Fields.getPutSame]
  type := by
    rw [Fields.getPutOther _ (by decide),Fields.getPoppedOther (by decide),Fields.getPutSame]
    exact .inl rfl
  space := by
    rw [Fields.getPutOther _ (by decide),Fields.getPoppedOther (by decide),Fields.getPutOther _ (by decide),
      Fields.getPutOther _ (by decide),Fields.getPoppedSame]
  others := fun k name space type input arguments => by
    rw [Fields.getPutOther _ arguments,Fields.getPoppedOther input,Fields.getPutOther _ type,
      Fields.getPutOther _ name,Fields.getPoppedOther space]
  arguments := fun other => by cases other
  input := fun _ => ⟨value,present,Fields.getPutSame _ _ _⟩

theorem convertCallMeans {tools : List (Text × Declaration)} {item converted : Fields} {kind : Kind}
    (ok : convertCall tools item kind = .ok converted) : ∃ wire d, Converted tools item kind wire d converted := by
  obtain ⟨found,looked,ok⟩ := okBind ok
  cases found with
  | none => cases ok
  | some entry =>
    obtain ⟨wire,d⟩ := entry
    obtain ⟨_,fits,ok⟩ := okBind ok
    have kinds : d.kind = kind := by simpa using demandOk fits
    cases kind with
    | custom =>
      dsimp only at ok
      have kept : ((item.pop (text "namespace")).put (text "name") (.str wire)).get? (text "input") =
          item.get? (text "input") := by
        rw [Fields.getPut,if_neg (by decide),Fields.getPopOther (by decide)]
      rw [kept] at ok
      cases present : item.get? (text "input") with
      | none => rw [present] at ok; cases ok
      | some value =>
        rw [present] at ok
        cases ok
        exact ⟨wire,d,customConverted looked kinds present⟩
    | function =>
      obtain ⟨_,complete,ok⟩ := okBind ok
      cases ok
      have whole := demandOk complete
      rw [Fields.getPutOther _ (by decide),Fields.getPoppedOther (by decide)] at whole
      exact ⟨wire,d,functionConverted looked kinds whole⟩

theorem lookUpMeans {tools : List (Text × Declaration)} {item : Fields} {wire : Text} {d : Declaration}
    (ok : lookUp tools item = .ok (some (wire,d))) : tools.lookup wire = some d := by
  have known : ∀ w : Text, ((tools.lookup w).map fun d => (w,d)) = some (wire,d) → tools.lookup wire = some d := by
    intro w found
    obtain ⟨e,looked,same⟩ := Option.map_eq_some_iff.mp found
    cases same
    exact looked
  unfold lookUp at ok
  dsimp only at ok
  split at ok
  · have found := Except.ok.inj ok
    simp only [Option.bind_eq_bind,Option.bind_eq_some_iff] at found
    obtain ⟨a,_,b,_,found⟩ := found
    exact known _ found
  · split at ok
    · exact known _ (Except.ok.inj ok)
    · split at ok <;> cases ok

theorem lookUpFlattens {tools : List (Text × Declaration)} {item : Fields} {wire : Text} {d : Declaration}
    {n : Option Text} {name : Text} (pair : callPair item = some (n,name))
    (ok : lookUp tools item = .ok (some (wire,d))) : wire = flatten n name := by
  have spelled : ∀ w : Text, ((tools.lookup w).map fun d => (w,d)) = some (wire,d) → wire = w := by
    intro w found
    obtain ⟨e,_,same⟩ := Option.map_eq_some_iff.mp found
    cases same
    rfl
  unfold callPair at pair
  unfold lookUp at ok
  dsimp only at ok
  split at pair
  · next space named =>
    cases pair
    rw [space,named] at ok
    exact spelled _ (Except.ok.inj ok)
  · next n' name' space named =>
    cases pair
    rw [space,named] at ok
    cases n' with
    | nil => exact spelled _ (Except.ok.inj ok)
    | cons c rest => exact spelled _ (Except.ok.inj ok)
  · cases pair

structure SameCall (kind : Kind) (item back : Fields) : Prop where
  type : back.get (text "type") = item.get (text "type")
  space : back.get (text "namespace") = item.get (text "namespace")
  name : back.get (text "name") = item.get (text "name")
  id : back.get (text "id") = item.get (text "id")
  callId : back.get (text "call_id") = item.get (text "call_id")
  payload : match kind with
    | .function => back.get (text "arguments") = item.get (text "arguments")
    | .custom => back.get (text "input") = item.get (text "input")

-- A custom input is valid Unicode whose wrapped text keeps within the argument limit.
def Replayable (kind : Kind) (item : Fields) : Prop :=
  kind = .custom → ∃ input bytes, item.get? (text "input") = some (.str input) ∧ (encode input).isSome ∧
    encode (wrapped input) = some bytes ∧ bytes.length ≤ maxArgumentBytes

def Unauthorized (item : Fields) : Prop := (item.get (text "async")).isNull ∧ (item.get (text "caller")).isNull

theorem withoutAuthorityOk {item : Fields} {key : String} (absent : (item.get (text key)).isNull) :
    withoutAuthority item key = .ok (item.pop (text key)) := by
  rw [withoutAuthority,demandTrue absent]
  rfl

def spaceValue : Option Text → Document
  | some n => .str n
  | none => .null

theorem declaredGet (item : Fields) (d : Declaration) :
    (declaredFields item d).get (text "name") = .str d.name ∧
    (declaredFields item d).get (text "namespace") = spaceValue d.namespaceName ∧
    ∀ k, k ≠ text "name" → k ≠ text "namespace" → (declaredFields item d).get k = item.get k := by
  unfold declaredFields
  cases d.namespaceName with
  | some n =>
    refine ⟨?_,Fields.getPutSame _ _ _,fun k name space => ?_⟩
    · rw [Fields.getPutOther _ (by decide),Fields.getPutSame]
    · rw [Fields.getPutOther _ space,Fields.getPutOther _ name]
  | none =>
    refine ⟨?_,Fields.getPoppedSame _ _,fun k name space => ?_⟩
    · rw [Fields.getPoppedOther (by decide),Fields.getPutSame]
    · rw [Fields.getPoppedOther space,Fields.getPutOther _ name]

theorem isTextOf {value : Document} {s : String} (same : value = .str (text s)) : value.isText s = true := by
  rw [same]
  simp [Document.isText]

theorem isTextMeans {value : Document} {s : String} (is : value.isText s = true) : value = .str (text s) := by
  unfold Document.isText at is
  split at is
  · simp only [decide_eq_true_eq] at is
    rw [is]
  · cases is

def unguarded (converted : Fields) : Fields := (converted.pop (text "async")).pop (text "caller")

theorem unguardedGet (converted : Fields) {k : Text} (async : k ≠ text "async") (caller : k ≠ text "caller") :
    (unguarded converted).get k = converted.get k := by
  rw [unguarded,Fields.getPoppedOther caller,Fields.getPoppedOther async]

variable {codec : Codec} {item converted : Fields} {kind : Kind} {wire : Text} {d : Declaration}

-- The wire call up to the branch on its kind.
theorem callItemOpens (call : Converted codec.tools item kind wire d converted) (free : Unauthorized converted) :
    codec.callItem converted false = (match d.kind with
      | .custom => customItem (declaredFields (unguarded converted) d) false
      | .function => do
        demand (completeArguments ((declaredFields (unguarded converted) d).get (text "arguments")))
          (.parse "vllm_function_arguments_invalid")
        .ok (declaredFields (unguarded converted) d)) := by
  have second : ((converted.pop (text "async")).get (text "caller")).isNull := by
    rw [Fields.getPoppedOther (by decide)]
    exact free.2
  have named : (unguarded converted).get (text "name") = .str wire := by
    rw [unguardedGet converted (by decide) (by decide),call.name]
  have space : (unguarded converted).get (text "namespace") = .null := by
    rw [unguardedGet converted (by decide) (by decide),call.space]
  have declared : declarationOf codec (.str wire) = .ok d := by
    rw [declarationOf,lookUpMeans call.found]
  rw [Codec.callItem,withoutAuthorityOk free.1]
  change (withoutAuthority (converted.pop (text "async")) "caller" >>= _) = _
  rw [withoutAuthorityOk second]
  change (declarationOf codec ((unguarded converted).get (text "name")) >>= _) = _
  rw [named,declared]
  change (demand (namespaceFits ((unguarded converted).get (text "namespace")) d) bad >>= _) = _
  rw [space]
  rfl

theorem functionBack (call : Converted codec.tools item .function wire d converted) (free : Unauthorized converted) :
    codec.callItem converted false = .ok (declaredFields (unguarded converted) d) := by
  obtain ⟨same,complete⟩ := call.arguments rfl
  rw [callItemOpens call free,call.kinds]
  dsimp only
  rw [(declaredGet _ d).2.2 _ (by decide) (by decide),unguardedGet converted (by decide) (by decide),same,
    demandTrue complete]
  rfl

theorem customBack (call : Converted codec.tools item .custom wire d converted) (free : Unauthorized converted)
    {input : Text} {bytes : List UInt8} (present : item.get? (text "input") = some (.str input))
    (valid : (encode input).isSome) (written : encode (wrapped input) = some bytes)
    (fits : bytes.length ≤ maxArgumentBytes) :
    codec.callItem converted false = .ok ((((declaredFields (unguarded converted) d).pop (text "arguments")).put
      (text "type") (.str (text "custom_tool_call"))).put (text "input") (.str input)) := by
  obtain ⟨value,stored,arguments⟩ := call.input rfl
  rw [present] at stored
  cases stored
  have held : (declaredFields (unguarded converted) d).get (text "arguments") = .str (wrapped input) := by
    rw [(declaredGet _ d).2.2 _ (by decide) (by decide),unguardedGet converted (by decide) (by decide),arguments]
    rfl
  rw [callItemOpens call free,call.kinds]
  dsimp only
  rw [customItem,held]
  dsimp only
  rw [sizeOk written]
  change (demand (decide (bytes.length ≤ maxArgumentBytes)) bad >>= _) = _
  rw [demandTrue (by simpa using fits)]
  change (jsonInput (wrapped input) >>= _) = _
  rw [jsonInputWrapped valid written fits]
  rfl

theorem spacePair {n : Option Text} {name : Text} (pair : callPair item = some (n,name)) :
    item.get (text "name") = .str name ∧ item.get (text "namespace") = spaceValue n := by
  unfold callPair at pair
  split at pair
  · next space named =>
    cases pair
    exact ⟨named,space⟩
  · next space named =>
    cases pair
    exact ⟨named,space⟩
  · cases pair

-- A call whose pair is the declared one comes back as it was.
theorem callComesBack (call : Converted codec.tools item kind wire d converted) (free : Unauthorized converted)
    (typed : item.get (text "type") = .str (text kind.itemType))
    (pair : callPair item = some (d.namespaceName,d.name)) (replayable : Replayable kind item) :
    ∃ back, codec.item (.obj converted) false = .ok (.obj back) ∧ SameCall kind item back := by
  obtain ⟨named,space⟩ := spacePair pair
  have isCall : functionCall (.obj converted) = true := by
    have type : converted.get (text "type") = .str (text "function_call") := by
      obtain type | ⟨rfl,type⟩ := call.type
      · exact type
      · rw [type,typed]
        rfl
    unfold functionCall
    rw [Bool.and_eq_true]
    exact ⟨rfl,isTextOf type⟩
  have kept : ∀ k, k ≠ text "name" → k ≠ text "namespace" → k ≠ text "type" → k ≠ text "input" →
      k ≠ text "arguments" → k ≠ text "async" → k ≠ text "caller" →
      (declaredFields (unguarded converted) d).get k = item.get k := by
    intro k notName notSpace notType notInput notArguments notAsync notCaller
    rw [(declaredGet _ d).2.2 k notName notSpace,unguardedGet converted notAsync notCaller,
      call.others k notName notSpace notType notInput notArguments]
  have nameBack : (declaredFields (unguarded converted) d).get (text "name") = item.get (text "name") := by
    rw [(declaredGet _ d).1,named]
  have spaceBack : (declaredFields (unguarded converted) d).get (text "namespace") = item.get (text "namespace") := by
    rw [(declaredGet _ d).2.1,space]
  have idBack := kept (text "id") (by decide) (by decide) (by decide) (by decide) (by decide) (by decide) (by decide)
  have callBack :=
    kept (text "call_id") (by decide) (by decide) (by decide) (by decide) (by decide) (by decide) (by decide)
  cases kind with
  | function =>
    refine ⟨declaredFields (unguarded converted) d,?_,?_,spaceBack,nameBack,idBack,callBack,?_⟩
    · rw [Codec.item,if_pos isCall]
      change (codec.callItem converted false).map Document.obj = _
      rw [functionBack call free]
      rfl
    · rw [(declaredGet _ d).2.2 _ (by decide) (by decide),unguardedGet converted (by decide) (by decide)]
      obtain type | ⟨_,type⟩ := call.type
      · rw [type,typed]
        rfl
      · exact type
    · dsimp only
      rw [(declaredGet _ d).2.2 _ (by decide) (by decide),unguardedGet converted (by decide) (by decide),
        (call.arguments rfl).1]
  | custom =>
    obtain ⟨input,bytes,present,valid,written,fits⟩ := replayable rfl
    have beyond : ∀ k, k ≠ text "input" → k ≠ text "type" → k ≠ text "arguments" →
        ((((declaredFields (unguarded converted) d).pop (text "arguments")).put (text "type")
          (.str (text "custom_tool_call"))).put (text "input") (.str input)).get k =
        (declaredFields (unguarded converted) d).get k := by
      intro k notInput notType notArguments
      rw [Fields.getPutOther _ notInput,Fields.getPutOther _ notType,Fields.getPoppedOther notArguments]
    refine ⟨_,?_,?_,(beyond _ (by decide) (by decide) (by decide)).trans spaceBack,
      (beyond _ (by decide) (by decide) (by decide)).trans nameBack,
      (beyond _ (by decide) (by decide) (by decide)).trans idBack,
      (beyond _ (by decide) (by decide) (by decide)).trans callBack,?_⟩
    · rw [Codec.item,if_pos isCall]
      change (codec.callItem converted false).map Document.obj = _
      rw [customBack call free present valid written fits]
      rfl
    · rw [Fields.getPutOther _ (by decide),Fields.getPutSame,typed]
      rfl
    · dsimp only
      rw [Fields.getPutSame,Fields.get,present,Option.getD_some]

-- What the codec owes to a replayed call: it comes back as it was, and it reaches a declared tool's
-- wire name only under the declared pair.
def HistoryCall (codec : Codec) (item : Fields) (kind : Kind) : Prop :=
  ∀ converted : Fields, convertItem codec.tools (.obj item) = .ok (.obj converted) →
    (Replayable kind item → ∃ back, codec.item (.obj converted) false = .ok (.obj back) ∧ SameCall kind item back) ∧
    ∀ entry ∈ codec.tools, converted.get (text "name") = .str entry.2.wireName →
      callPair item = some (entry.2.namespaceName,entry.2.name)

-- The call names its tool by texts, with the dot where the declaration has it, and asks for no native authority.
def WellSpelled (codec : Codec) (item : Fields) (kind : Kind) : Prop :=
  (∃ n name, callPair item = some (n,name) ∧
    ∀ entry ∈ codec.tools, entry.2.wireName = flatten n name → entry.2.namespaceName = n) ∧
  (Replayable kind item → Unauthorized item)

theorem historyCallTyped {body : Fields} (mem : (item,kind) ∈ historyCalls body) :
    item.get (text "type") = .str (text kind.itemType) ∧
      ∃ items, body.get (text "input") = .arr items ∧ .obj item ∈ items := by
  unfold historyCalls at mem
  split at mem
  · next items stored =>
    obtain ⟨entry,source,made⟩ := List.mem_filterMap.mp mem
    cases entry with
    | obj fields =>
      dsimp only at made
      split at made
      · next custom =>
        cases made
        exact ⟨isTextMeans custom,items,stored,source⟩
      · split at made
        · next function =>
          cases made
          exact ⟨isTextMeans function,items,stored,source⟩
        · cases made
    | _ => cases made
  · cases mem

theorem convertItemCall (tools : List (Text × Declaration)) (typed : item.get (text "type") = .str (text kind.itemType)) :
    convertItem tools (.obj item) = (convertCall tools (withDetail item) kind).map .obj := by
  have same : (withDetail item).get (text "type") = .str (text kind.itemType) := by
    rw [withDetailGet item (by decide) (by decide),typed]
  unfold convertItem
  dsimp only
  rw [same]
  cases kind <;> rfl

theorem convertItemsMem {tools : List (Text × Declaration)} {items converted : List Document}
    (ok : convertItems tools items = .ok converted) : ∀ entry ∈ items, ∃ out, convertItem tools entry = .ok out := by
  induction items generalizing converted with
  | nil => simp
  | cons head rest ih =>
    obtain ⟨out,first,ok⟩ := okBind ok
    obtain ⟨tail,later,_⟩ := okBind ok
    intro entry mem
    obtain rfl | mem := List.mem_cons.mp mem
    · exact ⟨out,first⟩
    · exact ih later entry mem

theorem constructMeans {body : Fields} (built : construct body = .ok codec) :
    Flattened codec.tools ∧ codec.calls = [] ∧ codec.inSequence = -1 ∧ codec.outSequence = 0 ∧
      ∀ items, body.get (text "input") = .arr items → ∀ entry ∈ items, ∃ out, convertItem codec.tools entry = .ok out := by
  obtain ⟨groups,_,built⟩ := okBind built
  obtain ⟨⟨tools,flat⟩,declared,built⟩ := okBind built
  obtain ⟨input,converted,built⟩ := okBind built
  cases built
  refine ⟨declareGroupsFlat groups flattenedEmpty declared,rfl,rfl,rfl,?_⟩
  intro items stored entry mem
  have kept : (if body.has (text "tools") then body.put (text "tools") (.arr flat) else body).get? (text "input") =
      body.get? (text "input") := by
    split
    · rw [Fields.getPut,if_neg (by decide)]
    · rfl
  rw [kept] at converted
  cases found : body.get? (text "input") with
  | none => rw [Fields.get,found] at stored; cases stored
  | some value =>
    rw [Fields.get,found,Option.getD_some] at stored
    subst stored
    rw [found] at converted
    obtain ⟨out,all,_⟩ := okBind converted
    exact convertItemsMem all entry mem

theorem unauthorizedMoves (call : Converted codec.tools (withDetail item) kind wire d converted) :
    Unauthorized converted ↔ Unauthorized item := by
  unfold Unauthorized
  rw [call.others _ (by decide) (by decide) (by decide) (by decide) (by decide),
    call.others _ (by decide) (by decide) (by decide) (by decide) (by decide),
    withDetailGet item (by decide) (by decide),withDetailGet item (by decide) (by decide)]

theorem callPairDetail (item : Fields) : callPair (withDetail item) = callPair item := by
  unfold callPair
  rw [withDetailGet item (by decide) (by decide),withDetailGet item (by decide) (by decide)]

theorem replayableDetail (item : Fields) : Replayable kind (withDetail item) ↔ Replayable kind item := by
  unfold Replayable
  rw [withDetailFind item (by decide) (by decide)]

theorem sameCallDetail {back : Fields} (same : SameCall kind (withDetail item) back) : SameCall kind item back := by
  have plain : ∀ k, k ≠ text "content" → k ≠ text "output" → (withDetail item).get k = item.get k :=
    fun k content output => withDetailGet item content output
  refine ⟨?_,?_,?_,?_,?_,?_⟩
  · rw [same.type,plain _ (by decide) (by decide)]
  · rw [same.space,plain _ (by decide) (by decide)]
  · rw [same.name,plain _ (by decide) (by decide)]
  · rw [same.id,plain _ (by decide) (by decide)]
  · rw [same.callId,plain _ (by decide) (by decide)]
  · have payload := same.payload
    cases kind with
    | function =>
      dsimp only at payload ⊢
      rw [payload,plain _ (by decide) (by decide)]
    | custom =>
      dsimp only at payload ⊢
      rw [payload,plain _ (by decide) (by decide)]

-- The declaration a well-spelled call reaches is its own.
theorem spelledPair (flat : Flattened codec.tools)
    (call : Converted codec.tools (withDetail item) kind wire d converted) {n : Option Text} {name : Text}
    (pair : callPair item = some (n,name))
    (dots : ∀ entry ∈ codec.tools, entry.2.wireName = flatten n name → entry.2.namespaceName = n) :
    callPair item = some (d.namespaceName,d.name) := by
  have mem : (wire,d) ∈ codec.tools := (flattenedLookup flat).mp (lookUpMeans call.found)
  have spelled : wire = flatten n name := lookUpFlattens (by rw [callPairDetail]; exact pair) call.found
  have wired : wire = d.wireName := flat.wired _ mem
  have space : d.namespaceName = n := dots _ mem (by rw [← spelled,← wired])
  have names : d.name = name := by
    apply flattenInjective (n := n)
    rw [← spelled,wired,wireFlatten (flat.named _ mem),space]
  rw [pair,space,names]

theorem wellSpelledHistory (flat : Flattened codec.tools) (typed : item.get (text "type") = .str (text kind.itemType))
    (spelled : WellSpelled codec item kind) : HistoryCall codec item kind := by
  obtain ⟨⟨n,name,pair,dots⟩,plain⟩ := spelled
  intro converted ok
  rw [convertItemCall codec.tools typed] at ok
  obtain ⟨fields,made,same⟩ := okMap ok
  cases same
  obtain ⟨wire,d,call⟩ := convertCallMeans made
  have own := spelledPair flat call pair dots
  refine ⟨?_,?_⟩
  · intro replayable
    have free := (unauthorizedMoves call).mpr (plain replayable)
    have typed' : (withDetail item).get (text "type") = .str (text kind.itemType) := by
      rw [withDetailGet item (by decide) (by decide),typed]
    obtain ⟨back,run,kept⟩ := callComesBack call free typed' (by rw [callPairDetail]; exact own)
      ((replayableDetail item).mpr replayable)
    exact ⟨back,run,sameCallDetail kept⟩
  · intro entry mem named
    have mine : (wire,d) ∈ codec.tools := (flattenedLookup flat).mp (lookUpMeans call.found)
    rw [call.name] at named
    have equal := wireNamesDistinct flat mem mine (by
      rw [← flat.wired _ mine]
      exact (Document.str.inj named).symm)
    rw [equal]
    exact own

theorem historySpelled (flat : Flattened codec.tools) (typed : item.get (text "type") = .str (text kind.itemType))
    {out : Document} (accepted : convertItem codec.tools (.obj item) = .ok out) (history : HistoryCall codec item kind) :
    WellSpelled codec item kind := by
  have ok := accepted
  rw [convertItemCall codec.tools typed] at ok
  obtain ⟨fields,made,rfl⟩ := okMap ok
  obtain ⟨wire,d,call⟩ := convertCallMeans made
  have mine : (wire,d) ∈ codec.tools := (flattenedLookup flat).mp (lookUpMeans call.found)
  have wired : wire = d.wireName := flat.wired _ mine
  obtain ⟨returns,owned⟩ := history fields accepted
  have own := owned (wire,d) mine (by rw [call.name,wired])
  refine ⟨⟨d.namespaceName,d.name,own,?_⟩,?_⟩
  · intro entry mem same
    have equal := wireNamesDistinct flat mem mine (by rw [same,wireFlatten (flat.named _ mine)])
    rw [equal]
  · intro replayable
    obtain ⟨back,run,_⟩ := returns replayable
    rw [← unauthorizedMoves call]
    have isCall : functionCall (.obj fields) = true := by
      have type : fields.get (text "type") = .str (text "function_call") := by
        obtain type | ⟨rfl,type⟩ := call.type
        · exact type
        · rw [type,withDetailGet item (by decide) (by decide),typed]
          rfl
      unfold functionCall
      rw [Bool.and_eq_true]
      exact ⟨rfl,isTextOf type⟩
    rw [Codec.item,if_pos isCall] at run
    obtain ⟨_,opened,_⟩ := okMap run
    obtain ⟨_,async,opened⟩ := okBind opened
    obtain ⟨_,caller,_⟩ := okBind opened
    obtain ⟨_,first,rest⟩ := okBind async
    obtain ⟨_,second,_⟩ := okBind caller
    cases rest
    have callerNull := demandOk second
    rw [Fields.getPoppedOther (by decide)] at callerNull
    exact ⟨demandOk first,callerNull⟩

def DistinctWireNames (codec : Codec) : Prop :=
  ∀ a ∈ codec.tools, ∀ b ∈ codec.tools,
    (a.2.namespaceName,a.2.name) ≠ (b.2.namespaceName,b.2.name) → a.2.wireName ≠ b.2.wireName

theorem historyRoundTripsIff {body : Fields} (built : construct body = .ok codec) :
    (DistinctWireNames codec ∧ ∀ call ∈ historyCalls body, HistoryCall codec call.1 call.2) ↔
      ∀ call ∈ historyCalls body, WellSpelled codec call.1 call.2 := by
  obtain ⟨flat,_,_,_,accepted⟩ := constructMeans built
  constructor
  · rintro ⟨_,history⟩ call mem
    obtain ⟨typed,items,stored,source⟩ := historyCallTyped mem
    obtain ⟨out,converted⟩ := accepted items stored _ source
    exact historySpelled flat typed converted (history call mem)
  · intro spelled
    refine ⟨?_,?_⟩
    · intro a first b second different same
      exact different (by rw [wireNamesDistinct flat first second same])
    · intro call mem
      obtain ⟨typed,_⟩ := historyCallTyped mem
      exact wellSpelledHistory flat typed (spelled call mem)

theorem constructTools {body : Fields} {tools : List (Text × Declaration)}
    (run : (construct body).toOption.map Codec.tools = some tools) :
    ∃ codec, construct body = .ok codec ∧ codec.tools = tools := by
  cases built : construct body with
  | error e => rw [built] at run; cases run
  | ok codec =>
    rw [built] at run
    exact ⟨codec,rfl,Option.some.inj run⟩

def namespacedCall : Fields :=
  [(text "type",.str (text "function_call")),(text "namespace",.str (text "a")),(text "name",.str (text "b")),
    (text "call_id",.str (text "c1")),(text "arguments",.str (text "\x7b\x7d"))]

def namespacedRequest : Fields :=
  [(text "tools",.arr [.obj [(text "type",.str (text "namespace")),(text "name",.str (text "a")),
      (text "tools",.arr [.obj [(text "type",.str (text "function")),(text "name",.str (text "b"))]])]]),
    (text "input",.arr [.obj namespacedCall])]

theorem historyRoundTripsNamespaced : ∃ codec, construct namespacedRequest = .ok codec ∧
    historyCalls namespacedRequest = [(namespacedCall,.function)] ∧ DistinctWireNames codec ∧
      ∀ call ∈ historyCalls namespacedRequest, HistoryCall codec call.1 call.2 := by
  obtain ⟨codec,built,tools⟩ := @constructTools namespacedRequest
    [(text "a.b",⟨some (text "a"),text "b",.function⟩)] (by decide +kernel)
  have calls : historyCalls namespacedRequest = [(namespacedCall,.function)] := rfl
  refine ⟨codec,built,calls,(historyRoundTripsIff built).mpr ?_⟩
  intro call mem
  rw [calls,List.mem_singleton] at mem
  subst mem
  refine ⟨⟨some (text "a"),text "b",rfl,?_⟩,fun _ => ⟨rfl,rfl⟩⟩
  intro entry member _
  rw [tools,List.mem_singleton] at member
  rw [member]

-- A top-level tool whose own name has the dot.
def dottedRequest : Fields :=
  [(text "tools",.arr [.obj [(text "type",.str (text "function")),(text "name",.str (text "a.b"))]]),
    (text "input",.arr [.obj namespacedCall])]

theorem dottedHistoryReached : ∃ codec, construct dottedRequest = .ok codec ∧
    ¬ (DistinctWireNames codec ∧ ∀ call ∈ historyCalls dottedRequest, HistoryCall codec call.1 call.2) := by
  obtain ⟨codec,built,tools⟩ := @constructTools dottedRequest
    [(text "a.b",⟨none,text "a.b",.function⟩)] (by decide +kernel)
  refine ⟨codec,built,fun claimed => ?_⟩
  obtain ⟨flat,_,_,_,accepted⟩ := constructMeans built
  obtain ⟨out,converted⟩ := accepted [.obj namespacedCall] rfl (.obj namespacedCall) (by simp)
  have spelled := historySpelled flat rfl converted (claimed.2 (namespacedCall,.function) (by
    rw [show historyCalls dottedRequest = [(namespacedCall,.function)] from rfl]
    simp))
  obtain ⟨⟨n,name,pair,dots⟩,_⟩ := spelled
  cases pair
  have space := dots (text "a.b",⟨none,text "a.b",.function⟩) (by rw [tools]; simp) (by decide)
  cases space

end History

end SlaifGateway.LocalCoding
