import SlaifGateway.Library.Document
import Mathlib.Data.List.Sort
import Mathlib.Data.List.Lex
import Mathlib.Order.Fin.Basic
import Mathlib.Data.Rat.Defs
import Mathlib.Algebra.Order.Ring.Unbundled.Rat

/-! Value rules for inert client metadata: the rule language, its compiler from a preset
document, and the split of an object into its core part and its declared metadata. -/
namespace SlaifGateway.Dialect
open Library

def maxRuleDepth : Nat := 6
def maxRuleNodes : Nat := 256
def maxRuleFields : Nat := 32
def maxValueBytes : Nat := 65536
def maxArrayItems : Nat := 64
def maxEnumValues : Nat := 32

def featureNames : List String :=
  ["schema_property_names","sparse_visible_reasoning","empty_visible_reasoning","sparse_function_events"]

def optionalFeatureNames : List String := ["tool_output_images"]

def scopes : List String :=
  ["request","message.assistant","message.user","message.developer","message.system",
    "part.output_text","part.input_text","part.input_image","part.input_file","part.input_audio",
    "item.function_call","item.function_call_output",
    "item.custom_tool_call","item.custom_tool_call_output","item.reasoning","item.compaction"]

def authorityMarkers : List String :=
  ["auth","secret","password","credential","header","cookie","provider","endpoint",
    "capabilit","approval","permission","execution","connector","mcp","signing",
    "token","budget","limit","quota","billing","cost","tool","stream","sandbox",
    "api_key","apikey","bearer","session","thread","tenant","principal","identity",
    "request_id","replay"]

def coreFields : List String :=
  ["type","id","role","content","text","name","namespace","arguments","input",
    "output","call_id","encrypted_content","summary","internal_chat_message_metadata_passthrough",
    "model","tools","tool_choice","store","background","conversation","previous_response_id",
    "instructions","stream","include","reasoning","client_metadata","prompt_cache_key",
    "parallel_tool_calls","max_output_tokens","max_tool_calls","temperature","top_p",
    "metadata","truncation","user","service_tier","safety_identifier","stream_options",
    "cache_control","route","url","base_url",
    "image_url","detail","file_id","file_data","file_url","filename","audio","format",
    "encoding","data"]

def protectedFields (scope : Text) : List Text :=
  coreFields.map text ++ if (text "item.").isPrefixOf scope then [text "status"] else []

structure CompatibilityRuleError where
  code : String := "dialect_rule_invalid"
  field : Option Text := none
  deriving DecidableEq

def isNameStart (c : CodePoint) : Bool := 97 ≤ c.val && c.val ≤ 122
def isNamePart (c : CodePoint) : Bool := isNameStart c || (48 ≤ c.val && c.val ≤ 57) || c.val = 95

def isName : Text → Bool
  | [] => false
  | c :: rest => isNameStart c && rest.all isNamePart && rest.length ≤ 63

def authorityMarked (t : Text) : Bool := authorityMarkers.any fun marker => contains (text marker) t

def fieldNameValid (scope : Option Text) (t : Text) : Bool :=
  isName t && !authorityMarked t && match scope with
    | none => true
    | some s => !(protectedFields s).contains t

def scalar : Document → Bool
  | .null | .str _ | .bool _ | .int _ => true
  | _ => false

def same : Document → Document → Bool
  | .null,.null => true
  | .bool a,.bool b => a = b
  | .int a,.int b => a = b
  | .str a,.str b => a = b
  | _,_ => false

inductive ValueRule where
  | enum (values : List Document)
  | null
  | boolean
  | integer (minimum maximum : Int)
  | number (minimum maximum : Rat)
  | string (minimum maximum : Int)
  | array (maximum : Int) (child : ValueRule)
  | object (maximum : Nat) (fields : List (Text × Bool × ValueRule))
  | oneOf (children : List ValueRule)

namespace ValueRule

mutual
def accepts : ValueRule → Document → Bool
  | .enum values,value => values.any fun item => same value item
  | .null,value => value.isNull
  | .boolean,value => value.bool?.isSome
  | .integer minimum maximum,value =>
    match value with
    | .int n => minimum ≤ n && n ≤ maximum
    | _ => false
  | .number minimum maximum,value =>
    match value with
    | .int n => minimum ≤ (n : Rat) && (n : Rat) ≤ maximum
    | .float (some x) _ => minimum ≤ x && x ≤ maximum
    | _ => false
  | .string minimum maximum,value =>
    match value with
    | .str t =>
      match encode t with
      | some bytes => minimum ≤ (bytes.length : Int) && (bytes.length : Int) ≤ maximum
      | none => false
    | _ => false
  | .array maximum child,value =>
    match value with
    | .arr items => (items.length : Int) ≤ maximum && items.all fun item => accepts child item
    | _ => false
  | .object maximum fields,value =>
    match value with
    | .obj values =>
      values.length ≤ maximum && ((Fields.keys values).all fun k => (fields.map Prod.fst).contains k) &&
        acceptsFields fields values
    | _ => false
  | .oneOf children,value => acceptsAny children value

def acceptsFields : List (Text × Bool × ValueRule) → Fields → Bool
  | [],_ => true
  | (name,required,rule) :: rest,values =>
    (match values.get? name with
      | some item => accepts rule item
      | none => !required) && acceptsFields rest values

def acceptsAny : List ValueRule → Document → Bool
  | [],_ => false
  | rule :: rest,value => accepts rule value || acceptsAny rest value
end

mutual
def onlyEmpty : ValueRule → Bool
  | .null => true
  | .string _ maximum => maximum = 0
  | .array maximum _ => maximum = 0
  | .object _ fields => fields.isEmpty
  | .enum values => values.all fun v => v.isNull || v.isText ""
  | .oneOf children => onlyEmptyAll children
  | _ => false

def onlyEmptyAll : List ValueRule → Bool
  | [] => true
  | rule :: rest => onlyEmpty rule && onlyEmptyAll rest
end

end ValueRule

inductive Action where
  | preserve
  | drop
  deriving DecidableEq

structure FieldRule where
  name : Text
  action : Action
  value : ValueRule

structure DialectRules where
  features : List Text
  extensions : List (Text × List FieldRule)
  customTools : List (Text × Text × Text)

-- The object a caller hands over: a mapping has each key once.
structure Mapping where
  fields : Fields
  distinct : fields.keys.Nodup

inductive SplitFailure where
  | rule (error : CompatibilityRuleError)
  | unicodeEncodeError
  deriving DecidableEq

def splitField (rule : FieldRule) (item : Document) (preserved : Fields) : Except SplitFailure Fields :=
  let invalid := .error (.rule ⟨"dialect_value_invalid",some rule.name⟩)
  if item.finite then
    match encode (item.dumps false) with
    | none => invalid
    | some encoded =>
      if maxValueBytes < encoded.length || !rule.value.accepts item then invalid
      else if rule.action = .preserve then .ok (preserved.put rule.name item)
      else .ok preserved
  else invalid

def splitFields : List FieldRule → Fields → Fields → Except SplitFailure (Fields × Fields)
  | [],original,preserved => .ok (original,preserved)
  | rule :: rest,original,preserved =>
    match original.get? rule.name with
    | none => splitFields rest original preserved
    | some item => do
      let kept ← splitField rule item preserved
      splitFields rest (original.pop rule.name) kept

def DialectRules.rulesFor (rules : DialectRules) (scope : Text) : List FieldRule :=
  (rules.extensions.lookup scope).getD []

def DialectRules.split (rules : DialectRules) (value : Mapping) (scope : Text) :
    Except SplitFailure (Fields × Fields × Nat) :=
  let rules := rules.rulesFor scope
  if rules.any fun rule => value.fields.has rule.name then do
    let (original,preserved) ← splitFields rules value.fields []
    if preserved.isEmpty then .ok (original,preserved,0)
    else
      match encode ((Document.obj preserved).dumps false) with
      | none => .error .unicodeEncodeError
      | some encoded =>
        if maxValueBytes < encoded.length then .error (.rule ⟨"dialect_value_invalid",none⟩)
        else .ok (original,preserved,encoded.length)
  else .ok (value.fields,[],0)

abbrev Compile := StateT Nat (Except CompatibilityRuleError)

def check (condition : Bool) : Compile Unit := if condition then pure () else throw {}

def required {α : Type} : Option α → Compile α
  | some a => pure a
  | none => throw {}

def integer (value : Document) (minimum maximum : Int) : Compile Int :=
  match value with
  | .int n => if minimum ≤ n ∧ n ≤ maximum then pure n else throw {}
  | _ => throw {}

def fieldName (scope : Option Text) (name : Text) : Compile Text :=
  if fieldNameValid scope name then pure name else throw {}

def numberValue : Document → Option Rat
  | .int n => some n
  | .float value _ => value
  | _ => none

def sorted (fields : Fields) : Fields := fields.insertionSort fun a b => a.1 ≤ b.1

def enumValueValid : Document → Bool
  | .str t => ((encode t).map fun bytes => decide (bytes.length ≤ 256)).getD false
  | .int n => -(2 ^ 31) ≤ n && n < 2 ^ 31
  | value => scalar value

def repeated : List Document → Bool
  | [] => false
  | v :: rest => rest.any (same v) || repeated rest

-- `levels` counts the depths left down to `maxRuleDepth`.
def parseValue : Nat → Document → Compile ValueRule
  | 0,_ => throw {}
  | levels + 1,document => do
    let fields ← required document.mapping?
    modify (· + 1)
    check ((← get) ≤ maxRuleNodes)
    let kind := fields.get (text "kind")
    if kind.isText "null" then
      check (fields.keysAre ["kind"])
      return .null
    else if kind.isText "boolean" then
      check (fields.keysAre ["kind"])
      return .boolean
    else if kind.isText "enum" then
      check (fields.keysAre ["kind","values"])
      let values ← required (fields.get (text "values")).items?
      check (1 ≤ values.length && values.length ≤ maxEnumValues)
      check (values.all enumValueValid)
      check (!repeated values)
      return .enum values
    else if kind.isText "integer" then
      check (fields.keysAre ["kind","minimum","maximum"])
      let minimum ← integer (fields.get (text "minimum")) (-(2 ^ 31)) (2 ^ 31 - 1)
      let maximum ← integer (fields.get (text "maximum")) minimum (2 ^ 31 - 1)
      return .integer minimum maximum
    else if kind.isText "string" then
      check (fields.keysAre ["kind","minimum","maximum"])
      let minimum ← integer (fields.get (text "minimum")) 0 maxValueBytes
      let maximum ← integer (fields.get (text "maximum")) minimum maxValueBytes
      return .string minimum maximum
    else if kind.isText "number" then
      check (fields.keysAre ["kind","minimum","maximum"])
      let minimum ← required (numberValue (fields.get (text "minimum")))
      let maximum ← required (numberValue (fields.get (text "maximum")))
      check (-(10 ^ 12 : Rat) ≤ minimum && minimum ≤ maximum && maximum ≤ (10 ^ 12 : Rat))
      return .number minimum maximum
    else if kind.isText "array" then
      check (fields.keysAre ["kind","max_items","items"])
      let maximum ← integer (fields.get (text "max_items")) 0 maxArrayItems
      let child ← parseValue levels (fields.get (text "items"))
      return .array maximum child
    else if kind.isText "object" then
      check (fields.keysAre ["kind","fields"])
      let raw ← required (fields.get (text "fields")).mapping?
      check (raw.length ≤ maxRuleFields)
      let members ← (sorted raw).mapM fun (name,rule) => do
        let name ← fieldName none name
        let rule ← required rule.mapping?
        check (rule.keysAre ["required","value"])
        let needed ← required (rule.get (text "required")).bool?
        let value ← parseValue levels (rule.get (text "value"))
        return (name,needed,value)
      return .object members.length members
    else if kind.isText "one_of" then
      check (fields.keysAre ["kind","rules"])
      let raw ← required (fields.get (text "rules")).items?
      check (1 ≤ raw.length && raw.length ≤ 4)
      let children ← raw.mapM (parseValue levels)
      return .oneOf children
    else throw {}

def parseAction (document : Document) : Compile Action :=
  if document.isText "preserve" then pure .preserve
  else if document.isText "drop" then pure .drop
  else throw {}

def parseField (scope name : Text) (field : Document) : Compile FieldRule := do
  let name ← fieldName (some scope) name
  let field ← required field.mapping?
  check (field.keysAre ["action","value"])
  let action ← parseAction (field.get (text "action"))
  let rule ← parseValue (maxRuleDepth + 1) (field.get (text "value"))
  check (action ≠ .drop || rule.onlyEmpty)
  return ⟨name,action,rule⟩

def parseExtensions : Fields → Nat → Compile (List (Text × List FieldRule))
  | [],_ => pure []
  | (scope,values) :: rest,totalFields => do
    let values ← required values.mapping?
    check (values.length ≤ maxRuleFields)
    let fields ← (sorted values).mapM fun (name,field) => parseField scope name field
    check (totalFields + fields.length ≤ maxRuleFields)
    let others ← parseExtensions rest (totalFields + fields.length)
    return (scope,fields) :: others

def parseTool (tool : Document) (custom : List (Text × Text × Text)) : Compile (Text × Text × Text) := do
  let tool ← required tool.mapping?
  check (tool.keysAre ["namespace","name","type"])
  let namespaceName ← required (tool.get (text "namespace")).text?
  let name ← required (tool.get (text "name")).text?
  let kind ← required (tool.get (text "type")).text?
  check (isName namespaceName && isName name && isName kind)
  check (kind = text "custom")
  check (!custom.contains (namespaceName,name,kind))
  return (namespaceName,name,kind)

def parseTools : List Document → List (Text × Text × Text) → Compile (List (Text × Text × Text))
  | [],custom => pure custom
  | tool :: rest,custom => do
    let entry ← parseTool tool custom
    parseTools rest (custom ++ [entry])

def parseRules (document : Document) : Compile DialectRules := do
  let document ← required document.mapping?
  check (document.keysAre ["features","extensions","custom_tools"])
  let features ← required (document.get (text "features")).mapping?
  check ((featureNames.map text).all features.has && features.keysWithin (featureNames ++ optionalFeatureNames))
  check (features.all fun f => f.2.bool?.isSome)
  let raw ← required (document.get (text "extensions")).mapping?
  check (raw.keysWithin scopes)
  let extensions ← parseExtensions (sorted raw) 0
  let customTools ← required (document.get (text "custom_tools")).items?
  check (customTools.length ≤ maxRuleFields)
  let custom ← parseTools customTools []
  return ⟨(features.filter fun f => f.2.bool? = some true).map Prod.fst,extensions,custom⟩

-- Every failure of the compiler is the one fixed error, also the type and encoding errors of its parts.
def parseDialectRules (document : Document) : Except CompatibilityRuleError DialectRules :=
  (parseRules document).run' 0

end SlaifGateway.Dialect
