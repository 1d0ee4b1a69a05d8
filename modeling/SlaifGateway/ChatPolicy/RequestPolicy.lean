import SlaifGateway.ChatPolicy.RequestCaps

/-! `ChatCompletionRequestPolicy.apply` of `services/request_policy.py`, with the field policy, the capability
policy and the input estimate it calls. -/
namespace SlaifGateway.ChatPolicy
open Library Library.Tx

section Fields

def fieldRegistry : List String :=
  ["model","messages","temperature","top_p","stop","seed","user","logit_bias","logprobs","top_logprobs",
    "presence_penalty","frequency_penalty","stream","stream_options","max_tokens","max_completion_tokens","n","tools",
    "tool_choice","functions","function_call","response_format","metadata","reasoning_effort","parallel_tool_calls",
    "modalities","audio","prediction","service_tier","web_search_options","external_web_access","background","store",
    "previous_response_id","conversation","defer_loading"]

def finding (param : Text) (code message : String) : Option PolicyError := some ⟨param,code,text message⟩

def isTrue : Document → Bool
  | .bool b => b
  | _ => false

def findingForKnownField (field : Text) (value : Document) (trustedDiscovery : Bool) : Option PolicyError :=
  if field = text "web_search_options" then
    if trustedDiscovery then none
    else finding field "web_search_not_allowed" "Chat Completions web search is not enabled by this gateway."
  else if field = text "external_web_access" then
    finding field "web_search_not_allowed" "External web access is not enabled by this gateway."
  else if field = text "background" ∧ isTrue value = true then
    finding field "background_not_allowed" "Background provider execution is not enabled by this gateway."
  else if field = text "store" ∧ isTrue value = true then
    finding field "background_not_allowed" "Provider-side stored state is not enabled by this gateway."
  else if field = text "previous_response_id" then
    finding field "background_not_allowed" "Provider-side response state is not enabled by this gateway."
  else if field = text "conversation" then
    finding field "background_not_allowed" "Provider-side conversation state is not enabled by this gateway."
  else if field = text "defer_loading" then
    finding field "hosted_tool_not_allowed" "Deferred hosted-tool loading is not enabled by this gateway."
  else if field = text "service_tier" ∧ ¬(value.isNull = true ∨ value.isText "auto" = true) then
    finding field "service_tier_not_supported"
      "Non-default Chat Completions service tiers are not enabled because gateway pricing is not service-tier aware."
  else none

def fieldFinding (trustedDiscovery : Bool) (field : Text × Document) : Option PolicyError :=
  if field.1 ∈ fieldRegistry.map text then findingForKnownField field.1 field.2 trustedDiscovery
  else finding field.1 "unknown_chat_completion_field"
    "Unknown Chat Completions request field is not enabled by this gateway."

def contentPartTypes : List String := ["text","video_url","image_url","file","input_audio"]

def supportedPart (part : Document) : Bool :=
  part.text?.isSome ||
    (part.isMapping && (part.fields.get (text "type")).text?.any (contentPartTypes.map text).contains)

def messageFinding : List Document → ℕ → Option PolicyError
  | [], _ => none
  | message :: rest, index =>
    match ((message.fields.get (text "content")).items?.getD []).findIdx? fun part => !supportedPart part with
    | some part => finding (dot (item (dot (item (text "messages") index) "content") part) "type")
        "unsupported_chat_completion_modality"
        "Only documented Chat Completions content-part types enabled by this gateway may be used in message content."
    | none => messageFinding rest (index + 1)

def raiseFinding (found : Option PolicyError) : Checked Unit :=
  match found with
  | some error => throw (.refused error)
  | none => pure ()

def enforceFieldPolicy (payload : Fields) (trustedDiscovery : Bool) : Checked Unit := do
  raiseFinding (payload.findSome? (fieldFinding trustedDiscovery))
  raiseFinding (messageFinding ((payload.get (text "messages")).items?.getD []) 0)

end Fields

section Capabilities
variable (trustedDiscovery allowUnknownHostedTools allowExternalAuthority : Bool)

def searchModels : List String := ["gpt-5-search-api","gpt-4o-search-preview","gpt-4o-mini-search-preview"]

def isSearchSpecificModel (model : Text) : Bool :=
  (searchModels.map text).contains (lower (stripText model)) || endsWith (lower (stripText model)) "-search-preview"

def deniedWebSearchToolTypes : List String := ["web_search","web_search_preview"]

def deniedHostedToolTypes : List String :=
  ["file_search","code_interpreter","computer","computer_use","image_generation","tool_search"]

def providerSideMarkers : List String := ["server_url","connector_id","authorization","require_approval"]

def providerSideMarker (value : Fields) : Option Text :=
  value.keys.find? fun key => (providerSideMarkers.map text).contains (lower (stripText key))

def unknownToolType (param : Text) : PolicyError :=
  ⟨param,"unknown_tool_type_not_allowed",text "Unknown Chat Completions tool types are not enabled by this gateway."⟩

def connectors (param : Text) : PolicyError :=
  ⟨param,"mcp_connectors_not_allowed",text "Provider-side MCP/connectors are not enabled by this gateway."⟩

def webSearchTools (param : Text) : PolicyError :=
  ⟨param,"web_search_not_allowed",text "Chat Completions web search tools are not enabled by this gateway."⟩

def hostedTools (param : Text) : PolicyError :=
  ⟨param,"hosted_tool_not_allowed",text "Hosted provider-side tools are not enabled by this gateway."⟩

-- The findings of the fields alone.
def fieldFindings (payload : Fields) (model : Text) : List PolicyError :=
  (if isSearchSpecificModel model && !trustedDiscovery then [⟨text "model","search_model_requires_hosted_web_search",
    text ("Search-specific Chat Completions models require hosted web search policy support, " ++
      "which is not enabled by this gateway.")⟩] else []) ++
  (if payload.has (text "web_search_options") && !trustedDiscovery then [⟨text "web_search_options",
    "web_search_not_allowed",text "Chat Completions web search is not enabled by this gateway."⟩] else []) ++
  (if isTrue (payload.get (text "background")) then [⟨text "background","background_not_allowed",
    text "Background provider execution is not enabled by this gateway."⟩] else []) ++
  (if isTrue (payload.get (text "store")) then [⟨text "store","background_not_allowed",
    text "Provider-side stored state is not enabled by this gateway."⟩] else []) ++
  (if payload.has (text "previous_response_id") then [⟨text "previous_response_id","background_not_allowed",
    text "Provider-side response state is not enabled by this gateway."⟩] else []) ++
  (if payload.has (text "external_web_access") then [⟨text "external_web_access","web_search_not_allowed",
    text "External web access is not enabled by this gateway."⟩] else []) ++
  (if payload.has (text "defer_loading") then [⟨text "defer_loading","hosted_tool_not_allowed",
    text "Deferred hosted-tool loading is not enabled by this gateway."⟩] else [])

-- A tool is looked up by its type, which need not be a text.
def typeFindings (type : Document) (param : Text) : Checked (List PolicyError) := do
  let localTool ← isAmong type ["function","custom"]
  let webSearch ← isAmong type deniedWebSearchToolTypes
  let mcp ← isAmong type ["mcp"]
  let hosted ← isAmong type deniedHostedToolTypes
  pure (if localTool then []
    else if webSearch then if trustedDiscovery then [] else [webSearchTools param]
    else if mcp then [connectors param]
    else if hosted then if trustedDiscovery then [] else [hostedTools param]
    else if trustedDiscovery && allowUnknownHostedTools then [] else [unknownToolType param])

def toolFindings (index : ℕ) (tool : Document) : Checked (List PolicyError) :=
  let param := item (text "tools") index
  match tool with
  | .obj fields =>
    match if allowExternalAuthority then none else providerSideMarker fields with
    | some marker => pure [connectors (param ++ text "." ++ marker)]
    | none => typeFindings trustedDiscovery allowUnknownHostedTools (Fields.get fields (text "type")) (dot param "type")
  | _ => pure [unknownToolType (dot param "type")]

def toolListFindings : List Document → ℕ → Checked (List PolicyError)
  | [], _ => pure []
  | tool :: rest, index => do
    let here ← toolFindings trustedDiscovery allowUnknownHostedTools allowExternalAuthority index tool
    let later ← toolListFindings rest (index + 1)
    pure (here ++ later)

def choiceFindings (type : Document) : Checked (List PolicyError) :=
  let param := text "tool_choice.type"
  if type.isNull then pure []
  else do
    let localTool ← isAmong type ["function","custom"]
    let webSearch ← isAmong type deniedWebSearchToolTypes
    let mcp ← isAmong type ["mcp"]
    let hosted ← isAmong type deniedHostedToolTypes
    pure (if localTool then []
      else if mcp then [connectors param]
      else if trustedDiscovery && (webSearch || hosted || allowUnknownHostedTools) then []
      else if webSearch then [webSearchTools param]
      else if hosted then [hostedTools param] else [unknownToolType param])

def toolChoiceFindings (choice : Document) : Checked (List PolicyError) :=
  match choice with
  | .obj fields => do
    let type ← choiceFindings trustedDiscovery allowUnknownHostedTools (Fields.get fields (text "type"))
    pure ((if allowExternalAuthority then []
      else (providerSideMarker fields).toList.map fun marker => connectors (text "tool_choice." ++ marker)) ++ type)
  | _ => pure []

-- All findings are made before the first one is raised.
def enforceCapabilityPolicy (payload : Fields) (model : Text) : Checked Unit := do
  let tools ← toolListFindings trustedDiscovery allowUnknownHostedTools allowExternalAuthority
    ((payload.get (text "tools")).items?.getD []) 0
  let choice ← toolChoiceFindings trustedDiscovery allowUnknownHostedTools allowExternalAuthority
    (payload.get (text "tool_choice"))
  raiseFinding (fieldFindings trustedDiscovery payload model ++ tools ++ choice).head?

end Capabilities

section Estimates
variable (py : Interpreter)

-- `apply` turns a ValueError of the estimate into this error.
def notSerializable : Raised :=
  refusal (text "request") "invalid_request_body" "Request body contains a field that is not JSON-serializable."

def bytesToTokens (size : ℕ) : ℕ := max 1 ((size + 2) / 3)

def estimateTextTokens (t : Text) : Checked ℕ := do
  let size ← orRaise ((encode t).map List.length) notSerializable
  pure (bytesToTokens size)

def estimateWritten (value : Document) : Checked ℕ := do
  let size ← canonicalBytes py value notSerializable
  pure (bytesToTokens size)

mutual
-- Only lists are walked; `room` is what is left of the stack.
def estimateValueTokens : Document → ℕ → Checked ℕ
  | .null, _ => pure 0
  | .str t, _ => estimateTextTokens t
  | .arr items, room => do
    raiseIf (room = 0) (.escaped .recursionError)
    let subtotal ← estimateItems items (room - 1)
    pure (subtotal + 4)
  | .obj fields, _ =>
    match (Fields.get fields (text "text")).text? with
    | some t => do
      let tokens ← estimateTextTokens t
      pure (tokens + 4)
    | none => estimateWritten py (.obj fields)
  | value, _ => estimateWritten py value

def estimateItems : List Document → ℕ → Checked ℕ
  | [], _ => pure 0
  | value :: rest, room => do
    let here ← estimateValueTokens value room
    let later ← estimateItems rest room
    pure (here + later)
end

def estimateMessages : List Fields → Checked ℕ
  | [] => pure 0
  | message :: rest => do
    let here ← estimateItems py (message.map Prod.snd) py.walkRoom
    let later ← estimateMessages rest
    pure (16 + here + later)

structure NonMessageEstimate where
  countedFields : List Text := []
  countedBytes : ℕ := 0

def isContainer : Document → Bool
  | .arr _ | .obj _ => true
  | _ => false

def estimateFields : Fields → Checked NonMessageEstimate
  | [] => pure {}
  | (field,value) :: rest =>
    if field = text "messages" ∨ isContainer value = false then estimateFields rest
    else do
      let size ← canonicalBytes py (.obj [(field,value)]) notSerializable
      let later ← estimateFields rest
      pure ⟨field :: later.countedFields,size + later.countedBytes⟩

def sortedFields (body : Fields) : Fields := body.mergeSort fun a b => decide (a.1 ≤ b.1)

-- The bytes of the media URLs of one part.
def mediaBytes (part : Document) : Checked ℕ :=
  match part with
  | .obj fields => do
    let media ← isAmong (Fields.get fields (text "type")) ["image_url","video_url"]
    let url := ((Fields.get fields (((Fields.get fields (text "type")).text?).getD [])).fields.get (text "url")).text?
    if media then
      match url with
      | some url => byteLength url
      | none => pure 0
    else pure 0
  | _ => pure 0

def mediaBytesOfParts : List Document → Checked ℕ
  | [] => pure 0
  | part :: rest => do
    let here ← mediaBytes part
    let later ← mediaBytesOfParts rest
    pure (here + later)

def mediaBytesOfMessages : List Fields → Checked ℕ
  | [] => pure 0
  | message :: rest => do
    let here ← mediaBytesOfParts ((message.get (text "content")).items?.getD [])
    let later ← mediaBytesOfMessages rest
    pure (here + later)

end Estimates

section Apply
variable (py : Interpreter) (settings : Settings)

def numeric : Document → Option Rat
  | .int n => some n
  | .bool b => some (if b then 1 else 0)
  | .float value _ => value
  | _ => none

mutual
-- `==` of two decoded values.
def same : Document → Document → Bool
  | .null, .null => true
  | .str s, .str t => s = t
  | .arr items, .arr others => sameItems items others
  | .obj fields, .obj others => fields.length = others.length && sameFields fields others
  | a, b => ((numeric a).bind fun x => (numeric b).map fun y => decide (x = y)).getD false

def sameItems : List Document → List Document → Bool
  | [], [] => true
  | a :: rest, b :: others => same a b && sameItems rest others
  | _, _ => false

def sameFields : List (Text × Document) → Fields → Bool
  | [], _ => true
  | (k,d) :: rest, others =>
    (match others.get? k with
      | some other => same d other
      | none => false) && sameFields rest others
end

def validateChoiceCount (value : Document) : Checked ℤ :=
  if value.isNull then pure 1
  else do
    let n ← expect ((int? value).filter fun n => decide (1 ≤ n)) (text "n") "chat_choice_count_invalid"
      "The 'n' field must be a positive integer."
    require (n ≤ settings.chatMaxChoicesPerRequest) (text "n") "chat_choice_count_limit_exceeded"
      "The 'n' field exceeds the configured maximum number of Chat Completions choices."
    pure n

def messageFields : List Document → ℕ → Checked (List Fields)
  | [], _ => pure []
  | message :: rest, index => do
    let fields ← orRaise message.mapping? (.refused ⟨text "messages","invalid_messages",
      text "Message at index " ++ Document.decimal index ++ text " must be an object."⟩)
    raiseIf ((fields.get (text "role")).text?.isNone) (.refused ⟨text "messages","invalid_messages",
      text "Message at index " ++ Document.decimal index ++ text " must include a string 'role'."⟩)
    let later ← messageFields rest (index + 1)
    pure (fields :: later)

def validatedMessages (value : Document) : Checked (List Fields) := do
  let messages ← expect value.items? (text "messages") "invalid_messages" "The 'messages' field must be a list."
  messageFields messages 0

def validateOutputTokenValue (value : Document) (param : String) : Checked ℤ := do
  let limit ← orRaise ((int? value).filter fun n => decide (0 < n)) (.refused ⟨text param,"invalid_output_token_limit",
    text ("The '" ++ param ++ "' field must be a positive integer.")⟩)
  raiseIf (settings.hardMaxOutputTokens < limit) (.refused ⟨text param,"output_token_limit_exceeded",
    text ("The '" ++ param ++ "' field exceeds the configured hard maximum (") ++
      Document.decimal settings.hardMaxOutputTokens ++ text ")."⟩)
  pure limit

structure OutputLimit where
  limit : ℤ
  injectedDefault : Bool
  body : Fields

def resolveOutputTokenLimit (body : Fields) : Checked OutputLimit := do
  let maxTokens := body.get (text "max_tokens")
  let maxCompletionTokens := body.get (text "max_completion_tokens")
  require (maxTokens.isNull = true ∨ maxCompletionTokens.isNull = true ∨ same maxTokens maxCompletionTokens = true)
    (text "max_completion_tokens") "ambiguous_output_token_limit"
    "Request must not set both 'max_tokens' and 'max_completion_tokens' with different values."
  if maxCompletionTokens.isNull = false then do
    let limit ← validateOutputTokenValue settings maxCompletionTokens "max_completion_tokens"
    pure ⟨limit,false,body⟩
  else if maxTokens.isNull = false then do
    let limit ← validateOutputTokenValue settings maxTokens "max_tokens"
    pure ⟨limit,false,body⟩
  else pure ⟨settings.defaultMaxOutputTokens,true,
    body.put (text "max_completion_tokens") (.int settings.defaultMaxOutputTokens)⟩

def includeUsage (options : Fields) : Document := .obj (options.put (text "include_usage") (.bool true))

def forceStreamingUsageMetadata (body : Fields) : Checked Fields :=
  let options := body.get (text "stream_options")
  if isTrue (body.get (text "stream")) = false then pure body
  else if options.isNull then pure (body.put (text "stream_options") (includeUsage []))
  else do
    let given ← expect options.mapping? (text "stream_options") "invalid_stream_options"
      "The 'stream_options' field must be an object when streaming is enabled."
    pure (body.put (text "stream_options") (includeUsage given))

structure PolicyResult where
  effectiveBody : Fields
  requestedOutputTokens : ℤ
  effectiveOutputTokens : ℤ
  effectiveOutputTokensPerChoice : ℤ
  effectiveChoiceCount : ℤ
  estimatedInputTokens : ℕ
  estimatedMessageInputTokens : ℕ
  estimatedNonMessageInputTokens : ℕ
  estimatedNonMessageInputBytes : ℕ
  estimatedNonMessageInputFields : List Text
  injectedDefaultOutputTokens : Bool

def preliminaryEstimate (messages : List Fields) (total : ℕ) (deferMediaLimit : Bool) : Checked ℕ :=
  if deferMediaLimit then do
    let encoded ← mediaBytesOfMessages messages
    pure (max 1 (total - encoded / 3))
  else pure total

def inputLimitError : Raised :=
  .refused ⟨text "request","input_token_limit_exceeded",
    text "Estimated input size exceeds the configured hard maximum (" ++
      Document.decimal settings.hardMaxInputTokens ++ text ")."⟩

def apply (body : Fields) (capabilityPolicyMode : Text) (deferMediaLimit : Bool) : Checked PolicyResult := do
  raiseIf (py.copyRoom < Document.height (.obj body)) (.escaped .recursionError)
  let trustedDiscovery := decide (capabilityPolicyMode = text "trusted_calibration_discovery")
  enforceFieldPolicy body trustedDiscovery
  enforceRequestCaps py settings body
  let choices ← validateChoiceCount settings (body.get (text "n"))
  let messages ← validatedMessages (body.get (text "messages"))
  let output ← resolveOutputTokenLimit settings body
  let effective ← forceStreamingUsageMetadata output.body
  -- The caps leave only a model that is a text.
  enforceCapabilityPolicy trustedDiscovery settings.trustedCalibrationAllowUnknownHostedTools
    settings.trustedCalibrationAllowExternalAuthority effective ((effective.get (text "model")).text?.getD [])
  let messageTokens ← estimateMessages py messages
  let others ← estimateFields py (sortedFields effective)
  let total := messageTokens + others.countedBytes
  let preliminary ← preliminaryEstimate messages total deferMediaLimit
  raiseIf (settings.hardMaxInputTokens < preliminary) (inputLimitError settings)
  pure {
    effectiveBody := effective
    requestedOutputTokens := output.limit
    effectiveOutputTokens := output.limit * choices
    effectiveOutputTokensPerChoice := output.limit
    effectiveChoiceCount := choices
    estimatedInputTokens := total
    estimatedMessageInputTokens := messageTokens
    estimatedNonMessageInputTokens := others.countedBytes
    estimatedNonMessageInputBytes := others.countedBytes
    estimatedNonMessageInputFields := others.countedFields
    injectedDefaultOutputTokens := output.injectedDefault }

end Apply

end SlaifGateway.ChatPolicy
