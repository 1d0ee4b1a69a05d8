import SlaifGateway.Library.Document

/-! The Codex 0.149 Responses dialect: the walkers over untrusted declarations, the recursive tool
check, the tool choice, and the normalized request. Only the exceptions of the source's own
operations appear beside its selection error. -/
namespace SlaifGateway.Clients
open Library

inductive Raised where
  | selection (message code : String)
  | typeError
  | unicodeEncodeError
  | recursionError
  deriving DecidableEq, Repr

def error (message : String) (code : String := "codex_0149_request_invalid") : Raised := .selection message code

def authorityShape : String := "codex_0149_authority_shape"

def supportedFields : List String :=
  ["model","input","instructions","max_output_tokens","max_tool_calls","temperature","top_p","metadata","stream",
    "store","text","service_tier","tools","tool_choice","previous_response_id","conversation","client_metadata",
    "include","parallel_tool_calls","prompt_cache_key","reasoning"]

def forbiddenAuthorityTypes : List String :=
  ["web_search_preview","web_search_preview_2025_03_11","web_search_2025_08_26","file_search","code_interpreter",
    "computer","computer_use","computer_use_preview","image_generation","mcp","shell","local_shell","apply_patch"]

def forbiddenAuthorityKeys : List String :=
  ["authorization","api_key","apikey","headers","server_url","connector","mcp_server"]

def candidateTypes : List String := ["tool_search","web_search"]

def unsafeMarkers : List String := ["bearer","api_key","apikey","authorization","secret","password","token"]

def maxDeclarationDepth : Nat := 32

inductive ToolType where
  | function
  | custom
  | namespace
  | toolSearch
  | webSearch
  deriving DecidableEq, Repr

namespace ToolType

def name : ToolType → String
  | function => "function"
  | custom => "custom"
  | .namespace => "namespace"
  | toolSearch => "tool_search"
  | webSearch => "web_search"

def all : List ToolType := [function,custom,.namespace,toolSearch,webSearch]

def ofText (t : Text) : Option ToolType := all.find? fun kind => text kind.name = t

def isCandidate (kind : ToolType) : Bool := candidateTypes.contains kind.name

def fields : ToolType → List String
  | function => ["type","name","description","parameters","strict"]
  | custom => ["type","name","description","format"]
  | .namespace => ["type","name","description","tools"]
  | toolSearch => ["type","description","execution","parameters"]
  | webSearch => ["type","external_web_access","search_content_types"]

end ToolType

def within (names : List String) (t : Text) : Bool := (names.map text).contains t

def isLetter (c : CodePoint) : Bool := 97 ≤ c.val && c.val ≤ 122

def isTokenPart (c : CodePoint) : Bool :=
  isLetter c || (48 ≤ c.val && c.val ≤ 57) || c.val = 95 || c.val = 46 || c.val = 45

def safeToken : Text → Bool
  | [] => false
  | c :: rest => isLetter c && rest.all isTokenPart && rest.length ≤ 63

def checkAll {α : Type} (check : α → Except Raised Unit) : List α → Except Raised Unit
  | [] => .ok ()
  | a :: rest => do
    check a
    checkAll check rest

def onlyIf (condition : Bool) (check : Except Raised Unit) : Except Raised Unit :=
  if condition then check else .ok ()

def safeShapeFields (value : Fields) (allowed : List String) (label : String) : Except Raised Unit :=
  let unknown := value.keys.filter fun k => !within allowed k
  if unknown.any fun k => within forbiddenAuthorityKeys (lower k) then
    .error (error ("The Codex 0.149 " ++ label ++ " shape contains an authority field") authorityShape)
  else if unknown ≠ [] then .error (error ("The Codex 0.149 " ++ label ++ " shape contains an unknown field"))
  else .ok ()

section Walk
variable (onField : Nat → Text × Document → Option Raised) (onText : Text → Option Raised)

def settle : Option Raised → Except Raised Unit
  | some raised => .error raised
  | none => .ok ()

def tooDeep : Raised := error "The Codex 0.149 declaration is too deeply nested"

-- The common walk: the depth first, then what each field or text of the value is checked for.
mutual
def walk (depth : Nat) : Document → Except Raised Unit
  | .obj fields => if maxDeclarationDepth < depth then .error tooDeep else walkFields depth fields
  | .arr items => if maxDeclarationDepth < depth then .error tooDeep else walkItems depth items
  | .str t => if maxDeclarationDepth < depth then .error tooDeep else settle (onText t)
  | _ => if maxDeclarationDepth < depth then .error tooDeep else .ok ()

def walkFields (depth : Nat) : List (Text × Document) → Except Raised Unit
  | [] => .ok ()
  | (key,child) :: rest => do
    settle (onField depth (key,child))
    walk (depth + 1) child
    walkFields depth rest

def walkItems (depth : Nat) : List Document → Except Raised Unit
  | [] => .ok ()
  | child :: rest => do
    walk (depth + 1) child
    walkItems depth rest
end
end Walk

def typeWithin (names : List String) (field : Text × Document) : Bool :=
  field.1 = text "type" && match field.2 with
    | .str t => within names t
    | _ => false

def forbiddenField (depth : Nat) (field : Text × Document) : Option Raised :=
  if within forbiddenAuthorityKeys (lower field.1) then
    some (error "The Codex 0.149 declaration contains an authority field" authorityShape)
  else if 0 < depth && typeWithin forbiddenAuthorityTypes field then
    some (error "The Codex 0.149 declaration contains a nested authority shape" authorityShape)
  else none

def walkForbiddenKeys (value : Document) : Except Raised Unit := walk forbiddenField (fun _ => none) 0 value

def unsafeValue (t : Text) : Option Raised :=
  if contains (text "://") t || unsafeMarkers.any fun marker => contains (text marker) (lower t) then
    some (error "The Codex 0.149 candidate contains an authority value" authorityShape)
  else none

def walkUnsafeCandidateValues (value : Document) : Except Raised Unit := walk (fun _ _ => none) unsafeValue 0 value

def nestedCandidate (depth : Nat) (field : Text × Document) : Option Raised :=
  if 0 < depth && typeWithin candidateTypes field then
    some (error "The Codex 0.149 declaration contains a nested search declaration" authorityShape)
  else none

def rejectNestedCandidateTypes (value : Document) : Except Raised Unit := walk nestedCandidate (fun _ => none) 0 value

def isToken : Document → Bool
  | .str t => safeToken t
  | _ => false

def toolSearchShaped (value : Fields) : Bool :=
  (value.get (text "description")).text?.isSome && isToken (value.get (text "execution")) &&
    (value.get (text "parameters")).isMapping

def webSearchShaped (value : Fields) : Bool :=
  (value.get (text "external_web_access")).bool?.isSome &&
    match value.get (text "search_content_types") with
    | .arr items => !items.isEmpty && items.length ≤ 8 && items.all isToken
    | _ => false

def candidateShape : String := "codex_0149_candidate_shape"

def validateCandidate (kind : ToolType) (value : Fields) : Except Raised Unit :=
  if !value.keysAre kind.fields then
    .error (error "The Codex 0.149 adapter-managed tool shape is not the captured shape" candidateShape)
  else if kind = .toolSearch then
    if toolSearchShaped value then .ok ()
    else .error (error "The Codex 0.149 tool_search candidate has invalid field types" candidateShape)
  else if webSearchShaped value then .ok ()
  else .error (error "The Codex 0.149 web_search candidate has invalid field types" candidateShape)

def toolTypeName (value : Fields) : Except Raised Text :=
  match value.get (text "type") with
  | .str t => if safeToken t then .ok t else .error (error "The Codex 0.149 tool declaration type is invalid")
  | _ => .error (error "The Codex 0.149 tool declaration type is invalid")

def toolKind (name : Text) : Except Raised ToolType :=
  if within forbiddenAuthorityTypes name then
    .error (error "The Codex 0.149 request contains an unsupported authority shape" authorityShape)
  else
    match ToolType.ofText name with
    | some kind => .ok kind
    | none => .error (error "The Codex 0.149 tool declaration type is unknown")

-- The type and shape of a declaration, and its walks; what a namespace holds comes after.
def validateShape (value : Fields) : Except Raised ToolType := do
  let name ← toolTypeName value
  let kind ← toolKind name
  safeShapeFields value kind.fields "tool"
  onlyIf kind.isCandidate (validateCandidate kind value)
  walkForbiddenKeys (.obj value)
  onlyIf kind.isCandidate (walkUnsafeCandidateValues (.obj value))
  .ok kind

def invalidNamespace : Raised := error "The Codex 0.149 namespace declaration has invalid tools"

mutual
def validateTool : Document → Except Raised (Option ToolType)
  | .obj value => do
    let kind ← validateShape value
    onlyIf (kind = .namespace) (validateNamespace value)
    .ok (if kind.isCandidate then some kind else none)
  | _ => .error (error "The Codex 0.149 tool declaration is not an object")

def validateNamespace : List (Text × Document) → Except Raised Unit
  | [] => .error invalidNamespace
  | (key,.arr nested) :: rest =>
    if key = text "tools" then
      if nested.isEmpty || 32 < nested.length then .error invalidNamespace else validateNested nested
    else validateNamespace rest
  | (key,_) :: rest => if key = text "tools" then .error invalidNamespace else validateNamespace rest

def validateNested : List Document → Except Raised Unit
  | [] => .ok ()
  | child :: rest => do
    let candidate ← validateTool child
    if candidate.isSome then
      .error (error "The Codex 0.149 namespace contains a search authority" authorityShape)
    else validateNested rest
end

def validateTools : List Document → List ToolType → Except Raised (List ToolType)
  | [],candidates => .ok candidates
  | tool :: rest,candidates => do
    match ← validateTool tool with
    | some candidate =>
      validateTools rest (if candidates.contains candidate then candidates else candidates ++ [candidate])
    | none => validateTools rest candidates

def unsupportedChoice : Raised := error "The Codex 0.149 tool choice is unsupported"
def searchChoice : Raised := error "The Codex 0.149 request explicitly requires a search tool" authorityShape

-- Membership in a set hashes the value first.
def hashable : Document → Bool
  | .arr _ | .obj _ => false
  | _ => true

def validateToolChoice (value : Document) (candidates : List ToolType) (localTools : Bool) : Except Raised Unit :=
  match value with
  | .null => .ok ()
  | .str t =>
    if within candidateTypes t then .error searchChoice
    else if t = text "required" && !candidates.isEmpty && !localTools then
      .error (error "The Codex 0.149 request requires an adapter-managed search tool" authorityShape)
    else if within ["auto","none","required"] t then .ok ()
    else .error unsupportedChoice
  | .obj fields => do
    safeShapeFields fields ["type","name"] "tool choice"
    let choice := Fields.get fields (text "type")
    if !hashable choice then .error .typeError
    else match choice with
      | .str t =>
        if within candidateTypes t then .error searchChoice
        else if within ["function","custom"] t then .ok ()
        else .error unsupportedChoice
      | _ => .error unsupportedChoice
  | _ => .error (error "The Codex 0.149 tool choice is invalid")

inductive ValueClass where
  | boolean
  | string
  | array
  | object
  | other
  deriving DecidableEq, Repr

def valueClass : Document → ValueClass
  | .bool _ => .boolean
  | .str _ => .string
  | .arr _ => .array
  | .obj _ => .object
  | _ => .other

def capturedFieldValueClasses : List (String × ValueClass) :=
  [("client_metadata",.object),("include",.array),("input",.array),("instructions",.string),("model",.string),
    ("parallel_tool_calls",.boolean),("prompt_cache_key",.string),("reasoning",.object),("store",.boolean),
    ("stream",.boolean),("text",.object),("tool_choice",.string),("tools",.array)]

def checkCaptured (body : Fields) (entry : String × ValueClass) : Except Raised Unit :=
  match body.get? (text entry.1) with
  | none => .ok ()
  | some value =>
    if valueClass value = entry.2 || (entry.1 = "tool_choice" && value.isMapping) then .ok ()
    else .error (error ("The Codex 0.149 " ++ entry.1 ++ " field has an invalid captured value class")
      "codex_0149_field_shape")

def localTool : Document → Bool
  | .obj tool => match Fields.get tool (text "type") with
    | .str t => within ["function","custom","namespace"] t
    | _ => false
  | _ => false

def toolDeclaration : String := "codex_0149_tool_declaration"

-- The local declarations in order: a function or custom tool with its name.
def declaredToolTaxonomy : List Document → List (Text × ToolType) → Except Raised (List (Text × ToolType))
  | [],declarations =>
    if 32 < declarations.length then
      .error (error "The Codex 0.149 local tool declaration set is too large" toolDeclaration)
    else .ok declarations
  | .obj tool :: rest,declarations =>
    let kind := if (Fields.get tool (text "type")).isText "function" then some ToolType.function
      else if (Fields.get tool (text "type")).isText "custom" then some ToolType.custom else none
    match kind with
    | none => declaredToolTaxonomy rest declarations
    | some kind =>
      match Fields.get tool (text "name") with
      | .str name =>
        if !safeToken name then
          .error (error "The Codex 0.149 local tool declaration has no bounded name" toolDeclaration)
        else if declarations.contains (name,kind) then
          .error (error "The Codex 0.149 local tool declaration is duplicated" toolDeclaration)
        else declaredToolTaxonomy rest (declarations ++ [(name,kind)])
      | _ => .error (error "The Codex 0.149 local tool declaration has no bounded name" toolDeclaration)
  | _ :: rest,declarations => declaredToolTaxonomy rest declarations

def isEmptyMapping : Document → Bool
  | .obj [] => true
  | _ => false

def isEmptyArray : Document → Bool
  | .arr [] => true
  | _ => false

def isFalse : Document → Bool
  | .bool false => true
  | _ => false

def isTrue : Document → Bool
  | .bool true => true
  | _ => false

def zeroArgumentParameters (parameters : Fields) : Bool :=
  (parameters.keysAre ["type","properties","additionalProperties"] ||
    parameters.keysAre ["type","properties","additionalProperties","required"]) &&
  (parameters.get (text "type")).isText "object" && isEmptyMapping (parameters.get (text "properties")) &&
  isFalse (parameters.get (text "additionalProperties")) &&
  (!parameters.has (text "required") || isEmptyArray (parameters.get (text "required")))

def zeroArgumentName (declarations : List (Text × ToolType)) : Document → Option Text
  | .obj tool =>
    if (Fields.get tool (text "type")).isText "function" then
      match Fields.get tool (text "name"),Fields.get tool (text "parameters") with
      | .str name,.obj parameters =>
        if declarations.contains (name,.function) && zeroArgumentParameters parameters &&
            (!Fields.has tool (text "strict") || isTrue (Fields.get tool (text "strict"))) then some name
        else none
      | _,_ => none
    else none
  | _ => none

def zeroArgumentFunctionNames (body : Fields) : Except Raised (List Text) :=
  match body.get (text "tools") with
  | .arr tools => do
    let declarations ← declaredToolTaxonomy tools []
    .ok (tools.filterMap (zeroArgumentName declarations))
  | _ => .ok []

def isHex (c : CodePoint) : Bool := (48 ≤ c.val && c.val ≤ 57) || (97 ≤ c.val && c.val ≤ 102)

-- The texts that are the spelling of the identifier they are read as.
def canonicalUuid (t : Text) : Bool :=
  t.length = 36 && t.zipIdx.all fun entry =>
    if [8,13,18,23].contains entry.2 then entry.1.val = 45 else isHex entry.1

def identityShape : String := "codex_0149_identity_shape"

def checkAlias (item : Text) : Except Raised Unit :=
  if (encode item).isNone then .error .unicodeEncodeError
  else if canonicalUuid item then .ok ()
  else .error (error "The Codex 0.149 session alias is not canonical" identityShape)

def transientIdentityHints : Option Document → Except Raised (Option Text)
  | none => .ok none
  | some (.obj metadata) =>
    match Fields.get metadata (text "session_id"),Fields.get metadata (text "thread_id") with
    | .str session,.str thread => do
      checkAlias session
      checkAlias thread
      if session = thread then .ok (some session)
      else .error (error "The Codex 0.149 session aliases are ambiguous" identityShape)
    | _,_ => .error (error "The Codex 0.149 session aliases are unavailable" identityShape)
  | some _ => .error (error "The Codex 0.149 client metadata is invalid" identityShape)

mutual
def height : Document → Nat
  | .arr items => heightItems items + 1
  | .obj fields => heightFields fields + 1
  | _ => 0

def heightItems : List Document → Nat
  | [] => 0
  | d :: rest => max (height d) (heightItems rest)

def heightFields : List (Text × Document) → Nat
  | [] => 0
  | (_,d) :: rest => max (height d) (heightFields rest)
end

-- `room` is the nesting that the interpreter's stack still allows a recursive copy.
def deepCopy (room : Nat) (body : Fields) : Except Raised Fields :=
  if height (.obj body) ≤ room then .ok body else .error .recursionError

structure CanonicalRequest where
  endpoint : String
  body : Fields
  capabilityIntents : List String
  candidates : List ToolType
  zeroArgumentFunctionNames : List Text
  identityHint : Option Text

def toolsOf (body : Fields) : Document := (body.get? (text "tools")).getD (.arr [])

def toolList (body : Fields) : Except Raised (List Document) :=
  match toolsOf body with
  | .arr tools => if 64 < tools.length then .error (error "The Codex 0.149 tools field is invalid") else .ok tools
  | _ => .error (error "The Codex 0.149 tools field is invalid")

def normalize (room : Nat) (endpoint : String) (body : Fields) : Except Raised CanonicalRequest := do
  onlyIf (endpoint ≠ "/v1/responses")
    (.error (error "The Codex 0.149 client module supports Responses create only"))
  onlyIf (!body.keysWithin supportedFields) (.error (error "The Codex 0.149 request contains an unknown field"))
  checkAll (checkCaptured body) capturedFieldValueClasses
  let tools ← toolList body
  let candidates ← validateTools tools []
  validateToolChoice (body.get (text "tool_choice")) candidates (tools.any localTool)
  walkForbiddenKeys (toolsOf body)
  checkAll rejectNestedCandidateTypes tools
  let copy ← deepCopy room body
  let names ← zeroArgumentFunctionNames body
  let hint ← transientIdentityHints (body.get? (text "client_metadata"))
  .ok ⟨endpoint,copy,if candidates.isEmpty then [] else ["adapter_managed_codex_search"],candidates,names,hint⟩

end SlaifGateway.Clients
