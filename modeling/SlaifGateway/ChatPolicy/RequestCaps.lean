import SlaifGateway.ChatPolicy.MessageCaps

/-! `services/chat_completion_request_caps.py`: the other fields of a Chat Completions body, and
`enforce_chat_completion_request_caps` over all of them. -/
namespace SlaifGateway.ChatPolicy
open Library Library.Tx

section Scalars
variable (py : Interpreter) (settings : Settings)

-- `float(value)`: an integer from here on does not fit.
@[irreducible] def floatOverflow : ℕ := 2 ^ 1024 - 2 ^ 970

-- `math.isfinite(float(value)) and minimum <= value <= maximum`
def withinRange (value : Document) (minimum maximum : ℤ) : Checked Bool :=
  match value with
  | .int n => if floatOverflow ≤ n.natAbs then throw (.escaped .overflowError) else pure (decide (minimum ≤ n ∧ n ≤ maximum))
  | .float (some x) _ => pure (decide ((minimum : Rat) ≤ x ∧ x ≤ maximum))
  | _ => pure false

def isNumber : Document → Bool
  | .int _ | .float _ _ => true
  | _ => false

def outsideMessage (param : String) : Text := text ("The '" ++ param ++ "' field is outside the supported range.")

def validateNumberRange (value : Document) (param : String) (minimum maximum : ℤ) : Checked Unit :=
  if value.isNull then pure ()
  else do
    raiseIf (isNumber value = false)
      (.refused ⟨text param,"chat_field_invalid_type",text ("The '" ++ param ++ "' field must be a number.")⟩)
    let fits ← withinRange value minimum maximum
    raiseIf (fits = false) (.refused ⟨text param,"chat_field_value_out_of_range",outsideMessage param⟩)

def validateBool (value : Document) (param : String) : Checked Unit :=
  raiseIf (value.isNull = false ∧ value.bool?.isNone)
    (.refused ⟨text param,"chat_field_invalid_type",text ("The '" ++ param ++ "' field must be a boolean.")⟩)

def int? : Document → Option ℤ
  | .int n => some n
  | _ => none

def validateTopLogprobs (payload : Fields) : Checked Unit :=
  if (payload.get (text "top_logprobs")).isNull then pure ()
  else do
    let count ← expect (int? (payload.get (text "top_logprobs"))) (text "top_logprobs") "chat_field_invalid_type"
      "The 'top_logprobs' field must be an integer."
    require (0 ≤ count ∧ count ≤ 20) (text "top_logprobs") "chat_field_value_out_of_range"
      "The 'top_logprobs' field must be between 0 and 20."
    require ((payload.get (text "logprobs")).bool? = some true) (text "top_logprobs") "chat_field_value_out_of_range"
      "The 'top_logprobs' field requires 'logprobs' to be true."

def validateChoices (value : Document) : Checked Unit :=
  if value.isNull then pure ()
  else do
    let n ← expect ((int? value).filter fun n => decide (1 ≤ n)) (text "n") "chat_choice_count_invalid"
      "The 'n' field must be a positive integer."
    require (n ≤ settings.chatMaxChoicesPerRequest) (text "n") "chat_choice_count_limit_exceeded"
      "The 'n' field exceeds the configured maximum number of Chat Completions choices."

def reasoningEffortValues : List String := ["minimal","low","medium","high"]

def validateScalarControls (payload : Fields) : Checked Unit := do
  validateNumberRange (payload.get (text "temperature")) "temperature" 0 2
  validateNumberRange (payload.get (text "top_p")) "top_p" 0 1
  validateNumberRange (payload.get (text "presence_penalty")) "presence_penalty" (-2) 2
  validateNumberRange (payload.get (text "frequency_penalty")) "frequency_penalty" (-2) 2
  validateBool (payload.get (text "stream")) "stream"
  validateBool (payload.get (text "logprobs")) "logprobs"
  validateBool (payload.get (text "parallel_tool_calls")) "parallel_tool_calls"
  require ((payload.get (text "seed")).isNull = true ∨ (int? (payload.get (text "seed"))).isSome = true) (text "seed")
    "chat_field_invalid_type" "The 'seed' field must be an integer."
  validateTopLogprobs payload
  validateChoices settings (payload.get (text "n"))
  require ((payload.get (text "reasoning_effort")).isNull = true ∨
    (payload.get (text "reasoning_effort")).text?.any (reasoningEffortValues.map text).contains = true)
    (text "reasoning_effort") "chat_field_value_out_of_range"
    "The 'reasoning_effort' field must be one of: minimal, low, medium, high."

def validateLogitBiases : Fields → Checked Unit
  | [] => pure ()
  | (_,bias) :: rest => do
    require (isNumber bias = true) (text "logit_bias") "chat_field_invalid_type"
      "The 'logit_bias' field values must be numbers."
    let fits ← withinRange bias (-100) 100
    require (fits = true) (text "logit_bias") "chat_field_value_out_of_range"
      "The 'logit_bias' field values must be between -100 and 100."
    validateLogitBiases rest

def validateLogitBias (value : Document) : Checked Unit :=
  if value.isNull then pure ()
  else do
    let biases ← expect value.mapping? (text "logit_bias") "chat_field_invalid_type"
      "The 'logit_bias' field must be a JSON object."
    let size ← jsonSize py value (text "logit_bias")
    require (size ≤ settings.chatMaxLogitBiasBytes) (text "logit_bias") "chat_field_too_large"
      "The 'logit_bias' field exceeds the gateway size limit."
    validateLogitBiases biases

def validateTexts (param : Text) (maxBytes : ℤ) (code message : String) : List Text → Checked Unit
  | [] => pure ()
  | t :: rest => do
    validateStringBytes t param maxBytes code message
    validateTexts param maxBytes code message rest

def stopSequences : Document → Option (List Text)
  | .str t => some [t]
  | .arr items => items.mapM Document.text?
  | _ => none

def validateStop (value : Document) : Checked Unit :=
  if value.isNull then pure ()
  else do
    let sequences ← expect (stopSequences value) (text "stop") "chat_field_invalid_type"
      "The 'stop' field must be a string or a list of strings."
    require (sequences.length ≤ settings.chatMaxStopSequences) (text "stop") "chat_stop_sequence_limit_exceeded"
      "The 'stop' field includes too many stop sequences."
    validateTexts (text "stop") settings.chatMaxStopSequenceBytes "chat_field_too_large"
      "A stop sequence exceeds the gateway size limit." sequences

def validateUser (value : Document) : Checked Unit :=
  if value.isNull then pure ()
  else do
    let user ← expect value.text? (text "user") "chat_field_invalid_type" "The 'user' field must be a string."
    validateStringBytes user (text "user") settings.chatMaxUserFieldBytes "chat_field_too_large"
      "The 'user' field exceeds the gateway size limit."

end Scalars

section AudioOutput
variable (settings : Settings)

-- The modalities of the request, each known and none twice.
def validateModalities : List Document → ℕ → List Text → Checked (List Text)
  | [], _, seen => pure seen
  | entry :: rest, index, seen => do
    let modality ← expect (nonemptyText entry) (item (text "modalities") index) "chat_audio_modality_invalid"
      "Chat Completions modalities must be strings."
    require (modality ∉ seen) (item (text "modalities") index) "chat_audio_modality_invalid"
      "Chat Completions modalities must not contain duplicates."
    require (modality ∈ ["text","audio"].map text) (item (text "modalities") index) "chat_audio_modality_not_supported"
      "Only text and audio Chat Completions modalities are recognized by this gateway."
    validateModalities rest (index + 1) (modality :: seen)

def audioRequested (modalities : Document) : Checked Bool :=
  if modalities.isNull then pure false
  else do
    let entries ← expect (modalities.items?.filter fun items => !items.isEmpty) (text "modalities")
      "chat_audio_modality_invalid" "Chat Completions modalities must be a non-empty list of strings."
    let seen ← validateModalities entries 0 []
    require (text "audio" ∈ seen → text "text" ∈ seen) (text "modalities") "chat_audio_modality_not_supported"
      "Audio output requires Chat Completions modalities to be text and audio."
    pure (decide (text "audio" ∈ seen))

def validateVoice (voice : Document) : Checked Unit := do
  require (voice.isMapping = true → settings.chatAllowCustomAudioOutputVoices = true) (text "audio.voice")
    "chat_audio_output_custom_voice_not_supported"
    "Custom Chat Completions audio output voices are not enabled by this gateway."
  require (voice.isMapping = false) (text "audio.voice") "chat_audio_output_custom_voice_not_supported"
    "Custom Chat Completions audio output voices require a separate policy."
  let name ← expect (nonemptyText voice) (text "audio.voice") "chat_audio_output_voice_not_supported"
    "Chat Completions audio output must include a supported voice."
  require (name ∈ allowed settings.chatAllowedAudioOutputVoices) (text "audio.voice")
    "chat_audio_output_voice_not_supported" "The Chat Completions audio output voice is not supported by this gateway."

def validateAudioConfig (payload : Fields) : Checked Unit := do
  require ((payload.get (text "stream")).bool? ≠ some true) (text "stream") "chat_streaming_audio_output_not_supported"
    "Streaming Chat Completions audio output is not supported by this gateway."
  require (∀ n ∈ int? (payload.get (text "n")), n ≤ 1) (text "n") "chat_audio_output_multiple_choices_not_supported"
    "Multiple Chat Completions choices with audio output are not enabled by this gateway."
  let audio ← expect (payload.get (text "audio")).mapping? (text "audio") "chat_audio_output_config_invalid"
    "Chat Completions audio output requires an audio config object."
  onlyKeys audio ["format","voice"] (text "audio") "chat_audio_output_config_invalid"
    "Audio output config may only include documented Chat Completions audio fields."
  let format ← expect (nonemptyText (audio.get (text "format"))) (text "audio.format")
    "chat_audio_output_format_not_supported" "Chat Completions audio output must include a supported audio format."
  require (format ∈ allowed settings.chatAllowedAudioOutputFormats) (text "audio.format")
    "chat_audio_output_format_not_supported" "The Chat Completions audio output format is not supported by this gateway."
  validateVoice settings (audio.get (text "voice"))

def validateAudioOutput (payload : Fields) : Checked Unit := do
  let requested ← audioRequested (payload.get (text "modalities"))
  require (requested = false → (payload.get (text "audio")).isNull = true) (text "audio")
    "chat_audio_output_config_invalid"
    "Chat Completions audio output config requires modalities to request audio output."
  if requested then validateAudioConfig settings payload else pure ()

end AudioOutput

section Tools
variable (py : Interpreter) (settings : Settings)

def nonblankText (value : Document) : Option Text := value.text?.filter fun t => !blank t

-- A description, or any text that need not be there.
def validateOptionalText (value : Document) (param : Text) (maxBytes : ℤ) (code kindCode kindMessage message : String) :
    Checked Unit :=
  if value.isNull then pure ()
  else do
    let t ← expect value.text? param kindCode kindMessage
    validateStringBytes t param maxBytes code message

-- The bytes of the schema.
def validateFunctionDefinition (value : Document) (param : Text) : Checked ℕ := do
  let function ← expect value.mapping? param "chat_field_invalid_type" "Function tools must include a function object."
  let name ← expect (nonblankText (function.get (text "name"))) (dot param "name") "chat_field_invalid_type"
    "Function tool names must be non-empty strings."
  validateStringBytes name (dot param "name") settings.chatMaxToolNameBytes "chat_field_too_large"
    "A function tool name exceeds the gateway size limit."
  validateOptionalText (function.get (text "description")) (dot param "description")
    settings.chatMaxToolDescriptionBytes "chat_field_too_large" "chat_field_invalid_type"
    "Function tool descriptions must be strings." "A function tool description exceeds the gateway size limit."
  let parameters := function.get (text "parameters")
  if parameters.isNull then pure 0
  else do
    require (parameters.isMapping = true) (dot param "parameters") "chat_field_invalid_type"
      "Function tool parameters must be a JSON object."
    let size ← jsonSize py parameters (dot param "parameters")
    require (size ≤ settings.chatMaxSingleToolSchemaBytes) (dot param "parameters") "chat_tool_schema_too_large"
      "A function tool schema exceeds the gateway size limit."
    pure size

def customFormatTypes : List String := ["text","grammar"]
def customGrammarSyntaxes : List String := ["lark","regex"]

def validateGrammar (format : Fields) (param : Text) : Checked Unit := do
  onlyKeys format ["type","grammar"] param "chat_custom_tool_invalid_shape"
    "Grammar custom tool format may only include documented fields."
  let grammar ← expect (format.get (text "grammar")).mapping? (dot param "grammar") "chat_custom_tool_invalid_shape"
    "Grammar custom tool format must include a grammar object."
  onlyKeys grammar ["definition","syntax"] (dot param "grammar") "chat_custom_tool_invalid_shape"
    "Custom tool grammar may only include documented fields."
  let known ← isAmong (grammar.get (text "syntax")) customGrammarSyntaxes
  require (known = true) (dot param "grammar.syntax") "chat_custom_tool_format_not_supported"
    "Custom tool grammar syntax is not supported by this gateway."
  let definition ← expect (grammar.get (text "definition")).text? (dot param "grammar.definition")
    "chat_custom_tool_invalid_type" "Custom tool grammar definition must be a string."
  validateStringBytes definition (dot param "grammar.definition") settings.chatMaxCustomToolGrammarBytes
    "chat_custom_tool_grammar_too_large" "A custom tool grammar definition exceeds the gateway size limit."

def validateCustomToolFormat (value : Document) (param : Text) : Checked Unit := do
  let format ← expect value.mapping? param "chat_custom_tool_invalid_shape" "Custom tool format must be an object."
  let size ← jsonSize py value param
  require (size ≤ settings.chatMaxCustomToolFormatBytes) param "chat_custom_tool_too_large"
    "A custom tool format exceeds the gateway size limit."
  let known ← isAmong (format.get (text "type")) customFormatTypes
  require (known = true) (dot param "type") "chat_custom_tool_format_not_supported"
    "Custom tool format type is not supported by this gateway."
  if (format.get (text "type")).isText "text" then
    require (format.keysAre ["type"] = true) param "chat_custom_tool_invalid_shape"
      "Text custom tool format may only include documented fields."
  else validateGrammar settings format param

def validateCustomTool (tool : Fields) (param : Text) : Checked Unit := do
  onlyKeys tool ["type","custom"] param "chat_custom_tool_invalid_shape"
    "Custom tools may only include documented Chat Completions custom-tool fields."
  let custom ← expect (tool.get (text "custom")).mapping? (dot param "custom") "chat_custom_tool_invalid_shape"
    "Custom tools must include a custom object."
  onlyKeys custom ["name","description","format"] (dot param "custom") "chat_custom_tool_invalid_shape"
    "Custom tools may only include documented Chat Completions custom-tool fields."
  let name ← expect (nonblankText (custom.get (text "name"))) (dot param "custom.name") "chat_custom_tool_invalid_type"
    "Custom tool names must be non-empty strings."
  validateStringBytes name (dot param "custom.name") settings.chatMaxCustomToolNameBytes "chat_custom_tool_too_large"
    "A custom tool name exceeds the gateway size limit."
  validateOptionalText (custom.get (text "description")) (dot param "custom.description")
    settings.chatMaxCustomToolDescriptionBytes "chat_custom_tool_too_large" "chat_custom_tool_invalid_type"
    "Custom tool descriptions must be strings." "A custom tool description exceeds the gateway size limit."
  if (custom.get (text "format")).isNull then pure ()
  else validateCustomToolFormat py settings (custom.get (text "format")) (dot param "custom.format")

-- The custom tools so far and the bytes of the schemas.
def validateToolList : List Document → ℕ → ℕ → ℕ → Checked (ℕ × ℕ)
  | [], _, customTools, schemaBytes => pure (customTools,schemaBytes)
  | tool :: rest, index, customTools, schemaBytes => do
    let fields ← expect tool.mapping? (item (text "tools") index) "chat_field_invalid_type" "Each tool must be an object."
    if (fields.get (text "type")).isText "custom" then do
      validateCustomTool py settings fields (item (text "tools") index)
      validateToolList rest (index + 1) (customTools + 1) schemaBytes
    else if (fields.get (text "type")).isText "function" then do
      let size ← validateFunctionDefinition py settings (fields.get (text "function"))
        (dot (item (text "tools") index) "function")
      validateToolList rest (index + 1) customTools (schemaBytes + size)
    else validateToolList rest (index + 1) customTools schemaBytes

def validateTools (value : Document) : Checked Unit :=
  if value.isNull then pure ()
  else do
    let tools ← expect value.items? (text "tools") "chat_field_invalid_type" "The 'tools' field must be a list."
    require (tools.length ≤ settings.chatMaxToolsPerRequest) (text "tools") "chat_tool_count_exceeded"
      "The request includes too many Chat Completions tools."
    let totals ← validateToolList py settings tools 0 0 0
    require (totals.1 ≤ settings.chatMaxCustomToolsPerRequest) (text "tools") "chat_custom_tool_count_exceeded"
      "The request includes too many Chat Completions custom tools."
    require (totals.2 ≤ settings.chatMaxTotalToolSchemaBytes) (text "tools") "chat_tool_schema_too_large"
      "The total function-tool schema size exceeds the gateway size limit."

def validateFunctionList : List Document → ℕ → ℕ → Checked ℕ
  | [], _, schemaBytes => pure schemaBytes
  | function :: rest, index, schemaBytes => do
    let size ← validateFunctionDefinition py settings function (item (text "functions") index)
    validateFunctionList rest (index + 1) (schemaBytes + size)

def validateLegacyFunctions (value : Document) : Checked Unit :=
  if value.isNull then pure ()
  else do
    let functions ← expect value.items? (text "functions") "chat_field_invalid_type"
      "The 'functions' field must be a list."
    require (functions.length ≤ settings.chatMaxFunctionsPerRequest) (text "functions") "chat_tool_count_exceeded"
      "The request includes too many legacy Chat Completions functions."
    let total ← validateFunctionList py settings functions 0 0
    require (total ≤ settings.chatMaxTotalToolSchemaBytes) (text "functions") "chat_tool_schema_too_large"
      "The total legacy function schema size exceeds the gateway size limit."

-- A name that need not be there.
def validateChoiceName (value : Document) (param : Text) : Checked Unit :=
  if value.isNull then pure ()
  else do
    let name ← expect (nonblankText value) param "chat_field_invalid_type"
      "Function choice names must be non-empty strings."
    validateStringBytes name param settings.chatMaxToolNameBytes "chat_field_too_large"
      "A function choice name exceeds the gateway size limit."

def choiceError (param : String) (field code start ending : String) : Raised :=
  .refused ⟨text (param ++ field),code,text (start ++ param ++ field ++ ending)⟩

def validateFunctionChoice (value : Document) (param : String) : Checked Unit :=
  if value.isNull || value.text?.isSome then pure ()
  else do
    let choice ← orRaise value.mapping? (choiceError param "" "chat_field_invalid_type" "The '"
      "' field must be a string or object.")
    let size ← jsonSize py value (text param)
    raiseIf (settings.chatMaxSingleToolSchemaBytes < size) (choiceError param "" "chat_tool_schema_too_large" "The '"
      "' field exceeds the gateway size limit.")
    let function := choice.get (text "function")
    if function.isNull then pure ()
    else do
      let named ← orRaise function.mapping? (choiceError param ".function" "chat_field_invalid_type" "The '"
        "' field must be an object.")
      validateChoiceName settings (named.get (text "name")) (dot (text param) "function.name")
    validateChoiceName settings (choice.get (text "name")) (dot (text param) "name")

def customToolNames (tools : Document) : List Text :=
  (tools.items?.getD []).filterMap fun tool =>
    if tool.isMapping && (tool.fields.get (text "type")).isText "custom" then
      ((tool.fields.get (text "custom")).fields.get (text "name")).text?
    else none

def validateCustomToolChoice (choice : Fields) (tools : Document) : Checked Unit := do
  onlyKeys choice ["type","custom"] (text "tool_choice") "chat_custom_tool_choice_invalid"
    "Custom tool choice may only include documented fields."
  let custom ← expect (choice.get (text "custom")).mapping? (text "tool_choice.custom") "chat_custom_tool_choice_invalid"
    "Custom tool choice must include a custom object."
  onlyKeys custom ["name"] (text "tool_choice.custom") "chat_custom_tool_choice_invalid"
    "Custom tool choice may only include documented fields."
  let name ← expect (nonblankText (custom.get (text "name"))) (text "tool_choice.custom.name")
    "chat_custom_tool_choice_invalid" "Custom tool choice names must be non-empty strings."
  validateStringBytes name (text "tool_choice.custom.name") settings.chatMaxCustomToolNameBytes
    "chat_custom_tool_choice_invalid" "A custom tool choice name exceeds the gateway size limit."
  require (name ∈ customToolNames tools) (text "tool_choice.custom.name") "chat_custom_tool_choice_invalid"
    "Custom tool choice must reference a declared custom tool."

def toolChoiceModes : List String := ["none","auto","required"]

def validateChoiceObject (value : Document) (tools : Document) : Checked Unit := do
  let choice ← expect value.mapping? (text "tool_choice") "chat_field_invalid_type"
    "The 'tool_choice' field must be a string or object."
  if (choice.get (text "type")).isText "function" then validateFunctionChoice py settings value "tool_choice"
  else if (choice.get (text "type")).isText "custom" then validateCustomToolChoice settings choice tools
  else
    require ((choice.get (text "type")).isNull = false) (text "tool_choice") "chat_custom_tool_choice_invalid"
      "The 'tool_choice' field must use a supported Chat Completions tool-choice shape."

def validateToolChoice (value tools : Document) : Checked Unit :=
  match value with
  | .null => pure ()
  | .str mode => require (mode ∈ toolChoiceModes.map text) (text "tool_choice") "chat_custom_tool_choice_invalid"
    "The 'tool_choice' field must be none, auto, required, or a supported tool choice object."
  | _ => validateChoiceObject py settings value tools

def usesCustomTools (payload : Fields) : Bool :=
  ((payload.get (text "tools")).items?.getD []).any (fun tool =>
    tool.isMapping && (tool.fields.get (text "type")).isText "custom") ||
    ((payload.get (text "tool_choice")).isMapping &&
      ((payload.get (text "tool_choice")).fields.get (text "type")).isText "custom")

end Tools

section Requests
variable (py : Interpreter) (settings : Settings)

def responseFormatTypes : List String := ["text","json_object","json_schema"]

def validateResponseFormat (value : Document) : Checked Unit :=
  if value.isNull then pure ()
  else do
    let format ← expect value.mapping? (text "response_format") "chat_field_invalid_type"
      "The 'response_format' field must be a JSON object."
    let known ← isAmong (format.get (text "type")) responseFormatTypes
    require (known = true) (text "response_format.type") "chat_field_value_out_of_range"
      "The 'response_format.type' field must be text, json_object, or json_schema."
    if (format.get (text "type")).isText "json_schema" then do
      require ((format.get (text "json_schema")).isMapping = true) (text "response_format.json_schema")
        "chat_field_invalid_type" "The 'response_format.json_schema' field must be a JSON object."
      let size ← jsonSize py (format.get (text "json_schema")) (text "response_format.json_schema")
      require (size ≤ settings.chatMaxResponseFormatSchemaBytes) (text "response_format.json_schema")
        "chat_response_format_schema_too_large" "The response format JSON schema exceeds the gateway size limit."
    else pure ()

def validateMetadata (value : Document) : Checked Unit :=
  if value.isNull then pure ()
  else do
    let metadata ← expect value.mapping? (text "metadata") "chat_field_invalid_type"
      "The 'metadata' field must be a JSON object."
    require (metadata.length ≤ settings.chatMaxMetadataKeys) (text "metadata") "chat_field_too_many_items"
      "The 'metadata' field includes too many keys."
    validateTexts (text "metadata") settings.chatMaxMetadataKeyBytes "chat_field_too_large"
      "A metadata key exceeds the gateway size limit." metadata.keys
    let size ← jsonSize py value (text "metadata")
    require (size ≤ settings.chatMaxMetadataBytes) (text "metadata") "chat_metadata_too_large"
      "The 'metadata' field exceeds the gateway size limit."

-- An object of at most so many bytes.
def validateObjectSize (value : Document) (param : String) (maxBytes : ℤ) (kindCode : String) : Checked Unit :=
  if value.isNull then pure ()
  else do
    raiseIf (value.isMapping = false)
      (.refused ⟨text param,kindCode,text ("The '" ++ param ++ "' field must be a JSON object.")⟩)
    let size ← jsonSize py value (text param)
    raiseIf (maxBytes < size)
      (.refused ⟨text param,"chat_field_too_large",text ("The '" ++ param ++ "' field exceeds the gateway size limit.")⟩)

def validatePrediction (value : Document) : Checked Unit :=
  validateObjectSize py value "prediction" settings.chatMaxPredictionBytes "chat_field_invalid_type"

def validateStreamOptions (value : Document) : Checked Unit :=
  validateObjectSize py value "stream_options" settings.chatMaxStreamOptionsBytes "invalid_stream_options"

def enforceRequestCaps (payload : Fields) : Checked Unit := do
  require (nonblankText (payload.get (text "model"))).isSome (text "model") "chat_field_invalid_type"
    "The 'model' field must be a non-empty string."
  validateMessages py settings (payload.get (text "messages"))
  validateScalarControls settings payload
  validateAudioOutput settings payload
  validateStop settings (payload.get (text "stop"))
  validateUser settings (payload.get (text "user"))
  validateLogitBias py settings (payload.get (text "logit_bias"))
  validateTools py settings (payload.get (text "tools"))
  validateLegacyFunctions py settings (payload.get (text "functions"))
  validateToolChoice py settings (payload.get (text "tool_choice")) (payload.get (text "tools"))
  require (¬((payload.get (text "stream")).bool? = some true ∧ usesCustomTools payload = true)) (text "stream")
    "chat_streaming_custom_tool_not_supported"
    "Streaming Chat Completions custom tools are not enabled by this gateway."
  validateFunctionChoice py settings (payload.get (text "function_call")) "function_call"
  validateResponseFormat py settings (payload.get (text "response_format"))
  validateMetadata py settings (payload.get (text "metadata"))
  validatePrediction py settings (payload.get (text "prediction"))
  validateStreamOptions py settings (payload.get (text "stream_options"))

end Requests

end SlaifGateway.ChatPolicy
