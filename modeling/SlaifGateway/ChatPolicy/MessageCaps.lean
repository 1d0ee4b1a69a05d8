import SlaifGateway.ChatPolicy.Checks

/-! `services/chat_completion_request_caps.py`: the messages of a Chat Completions body and their content parts. -/
namespace SlaifGateway.ChatPolicy
open Library Library.Tx

section Media
variable (py : Interpreter) (settings : Settings)

def imageDetailValues : List String := ["auto","low","high"]

def supportedImageMimeTypes : List String := ["image/png","image/jpeg","image/webp","image/gif"]

-- `value.partition(",")`: what stands before the first comma, and behind it.
def comma (t : Text) : Text × Option Text :=
  match t.dropWhile fun c => c.val ≠ 44 with
  | [] => (t,none)
  | _ :: rest => (t.takeWhile fun c => c.val ≠ 44,some rest)

def endsWith (t : Text) (ending : String) : Bool := (text ending).isSuffixOf t

-- `header[len("data:") : -len(";base64")].lower()`
def mimeType (header : Text) : Text := lower ((header.drop 5).take (header.length - 5 - 7))

def validateImageDataUrl (value param : Text) : Checked Unit := do
  require (settings.chatAllowImageDataUrls = true) param "chat_image_data_url_not_allowed"
    "Base64 image data URLs are not enabled by this gateway."
  validateStringBytes value param settings.chatMaxImageDataUrlBytes "chat_image_data_url_too_large"
    "An image data URL exceeds the gateway size limit."
  let encoded ← expect (comma value).2 param "chat_image_url_invalid" "Image data URLs must be base64 data URLs."
  require (endsWith (comma value).1 ";base64" = true) param "chat_image_url_invalid"
    "Image data URLs must use base64 encoding."
  require (mimeType (comma value).1 ∈ supportedImageMimeTypes.map text) param "chat_image_mime_not_supported"
    "The image data URL MIME type is not supported by this gateway."
  require (encoded ≠ []) param "chat_image_url_invalid" "Image data URLs must include base64 data."
  require (py.decodable encoded = true) param "chat_image_url_invalid" "Image data URLs must include valid base64 data."

def validateRemoteImageUrl (value param : Text) : Checked Unit := do
  require (settings.chatAllowRemoteImageUrls = true) param "chat_image_url_invalid"
    "Remote image URLs are not enabled by this gateway."
  validateStringBytes value param settings.chatMaxImageUrlBytes "chat_image_url_too_large"
    "An image URL exceeds the gateway size limit."
  let parsed ← orRaise (py.urlsplit value) (.escaped .valueError)
  require (parsed.scheme ∈ ["http","https"].map text ∧ parsed.netloc ≠ []) param "chat_image_url_invalid"
    "Image URLs must use http or https."
  require (parsed.username.isNone ∧ parsed.password.isNone) param "chat_image_url_invalid"
    "Image URLs must not include embedded credentials."

def nonemptyText (value : Document) : Option Text := value.text?.filter (· ≠ [])

def validateImagePart (part : Fields) (param messageRole : Text) : Checked Unit := do
  require (messageRole = text "user") (dot param "type") "chat_image_part_invalid_shape"
    "Chat Completions image content parts are supported only on user messages."
  onlyKeys part ["type","image_url"] param "chat_image_part_invalid_shape"
    "Image content parts may only include documented Chat Completions image fields."
  let imageUrl ← expect (part.get (text "image_url")).mapping? (dot param "image_url") "chat_image_part_invalid_shape"
    "Chat Completions image content parts must include an image_url object."
  onlyKeys imageUrl ["url","detail"] (dot param "image_url") "chat_image_part_invalid_shape"
    "Image URL objects may only include documented Chat Completions image fields."
  let url ← expect (nonemptyText (imageUrl.get (text "url"))) (dot param "image_url.url") "chat_image_url_invalid"
    "Chat Completions image URLs must be non-empty strings."
  if (imageUrl.get (text "detail")).isNull then pure ()
  else do
    let known ← isAmong (imageUrl.get (text "detail")) imageDetailValues
    require (known = true) (dot param "image_url.detail") "chat_image_detail_invalid"
      "Chat Completions image detail must be auto, low, or high."
  if startsWith url "data:" then validateImageDataUrl py settings url (dot param "image_url.url")
  else validateRemoteImageUrl py settings url (dot param "image_url.url")

def base64Char (c : CodePoint) : Bool :=
  (65 ≤ c.val && c.val ≤ 90) || (97 ≤ c.val && c.val ≤ 122) || (48 ≤ c.val && c.val ≤ 57) || c.val = 43 || c.val = 47

-- `^[A-Za-z0-9+/]*={0,2}$` of the whole text.
def base64Shape (t : Text) : Bool :=
  let padding := t.dropWhile base64Char
  padding.length ≤ 2 && padding.all fun c => c.val = 61

def validateBase64Payload (value param : Text) (code message : String) : Checked Unit := do
  let normalized := value.filter fun c => !isSpace c
  require (normalized ≠ [] ∧ normalized.length % 4 = 0 ∧ base64Shape normalized = true) param code message
  require (py.decodable normalized = true) param code message

def filenameExtension (value : Text) : Text :=
  let after := value.reverse.takeWhile fun c => c.val ≠ 46
  if after.length = value.length ∨ after.length + 1 = value.length ∨ after = [] then []
  else lower (value.drop (value.length - after.length - 1))

def validateFilename (value param : Text) : Checked Unit := do
  validateStringBytes value param settings.chatMaxFileNameBytes "chat_file_name_too_large"
    "A Chat Completions file name exceeds the gateway size limit."
  require (stripText value = value ∧ value ∉ ["",".",".."].map text) param "chat_file_name_invalid"
    "Chat Completions file names must be safe."
  require (value.all fun c => c.val ≠ 47 ∧ c.val ≠ 92 ∧ c.val ≠ 58) param "chat_file_name_invalid"
    "Chat Completions file names must be safe."
  require (value.all fun c => 32 ≤ c.val ∧ c.val ≠ 127) param "chat_file_name_invalid"
    "Chat Completions file names must be safe."
  require (filenameExtension value ∈ allowed settings.chatAllowedFileExtensions) param "chat_file_mime_not_supported"
    "The Chat Completions file type is not supported by this gateway."

def validateFileDataUrl (value filename param : Text) : Checked Unit := do
  require (settings.chatAllowFileDataUrls = true) param "chat_file_data_url_not_allowed"
    "File data URLs are not enabled by this gateway."
  validateStringBytes value param settings.chatMaxFileDataBytes "chat_file_data_too_large"
    "A Chat Completions file payload exceeds the gateway size limit."
  let encoded ← expect (comma value).2 param "chat_file_data_invalid" "File data URLs must include base64 data."
  require (endsWith (comma value).1 ";base64" = true) param "chat_file_data_invalid"
    "File data URLs must use base64 encoding."
  require (mimeType (comma value).1 ∈ allowed settings.chatAllowedFileMimeTypes) param "chat_file_mime_not_supported"
    "The Chat Completions file MIME type is not supported by this gateway."
  require (filenameExtension filename ∈ allowed settings.chatAllowedFileExtensions) param "chat_file_mime_not_supported"
    "The Chat Completions file type is not supported by this gateway."
  require (encoded ≠ []) param "chat_file_data_invalid" "File data URLs must include base64 data."
  validateBase64Payload py encoded param "chat_file_data_invalid" "Chat Completions file data must be valid base64."

def remote (value : Text) : Bool := startsWith value "http://" || startsWith value "https://"

def validateFileData (value filename param : Text) : Checked Unit := do
  require (remote value = false) param "chat_file_url_not_supported"
    "Chat Completions file URLs are not enabled by this gateway."
  if startsWith value "data:" then validateFileDataUrl py settings value filename param
  else do
    validateStringBytes value param settings.chatMaxFileDataBytes "chat_file_data_too_large"
      "A Chat Completions file payload exceeds the gateway size limit."
    validateBase64Payload py value param "chat_file_data_invalid" "Chat Completions file data must be valid base64."

-- `for key in file_obj`, with an answer of its own for a URL.
def validateFileKeys (file : Fields) (param : Text) : Checked Unit :=
  match file.keys.find? fun key => decide (key ∉ ["file_data","file_id","filename"].map text) with
  | some key =>
    if key = text "url" then refuse (dot param "file.url") "chat_file_url_not_supported"
      "Chat Completions file URLs are not enabled by this gateway."
    else refuse (dot param "file." ++ key) "chat_file_part_invalid_shape"
      "File objects may only include documented Chat Completions file fields."
  | none => pure ()

-- A file id is refused whatever it is.
def refuseFileId (fileId : Document) (param : Text) : Checked Unit := do
  require ((nonemptyText fileId).isSome ∧ settings.chatAllowFileIds = true) param "chat_file_id_not_supported"
    "Chat Completions file IDs are not enabled by this gateway."
  refuse param "chat_file_id_not_supported"
    "Chat Completions file IDs require a Files API ownership policy and are not enabled."

def validateFilePart (part : Fields) (param messageRole : Text) : Checked Unit := do
  require (messageRole = text "user") (dot param "type") "chat_file_part_invalid_shape"
    "Chat Completions file content parts are supported only on user messages."
  onlyKeys part ["type","file"] param "chat_file_part_invalid_shape"
    "File content parts may only include documented Chat Completions file fields."
  let file ← expect (part.get (text "file")).mapping? (dot param "file") "chat_file_part_invalid_shape"
    "Chat Completions file content parts must include a file object."
  validateFileKeys file param
  require (¬(file.has (text "file_data") = true ∧ file.has (text "file_id") = true)) (dot param "file")
    "chat_file_part_invalid_shape" "Chat Completions file inputs must not include both file_data and file_id."
  if file.has (text "file_id") then refuseFileId settings (file.get (text "file_id")) (dot param "file.file_id")
  else pure ()
  let filename ← expect (nonemptyText (file.get (text "filename"))) (dot param "file.filename") "chat_file_name_invalid"
    "Inline Chat Completions file inputs must include a safe filename."
  validateFilename settings filename (dot param "file.filename")
  let fileData ← expect (nonemptyText (file.get (text "file_data"))) (dot param "file.file_data") "chat_file_data_invalid"
    "Inline Chat Completions file inputs must include base64 file_data."
  validateFileData py settings fileData filename (dot param "file.file_data")

def validateAudioInputData (value param : Text) : Checked Unit := do
  require (remote value = false) param "chat_audio_url_not_supported"
    "Chat Completions audio URLs are not enabled by this gateway."
  require (startsWith value "data:" = false) param "chat_audio_data_url_not_allowed"
    "Audio input data URLs are not enabled by this gateway."
  validateStringBytes value param settings.chatMaxAudioInputDataBytes "chat_audio_data_too_large"
    "A Chat Completions audio input payload exceeds the gateway size limit."
  validateBase64Payload py value param "chat_audio_data_invalid"
    "Chat Completions audio input data must be valid base64."

def validateAudioInputPart (part : Fields) (param messageRole : Text) : Checked Unit := do
  require (messageRole = text "user") (dot param "type") "chat_audio_part_invalid_shape"
    "Chat Completions audio input content parts are supported only on user messages."
  onlyKeys part ["type","input_audio"] param "chat_audio_part_invalid_shape"
    "Audio input content parts may only include documented Chat Completions audio fields."
  let input ← expect (part.get (text "input_audio")).mapping? (dot param "input_audio") "chat_audio_part_invalid_shape"
    "Chat Completions audio input content parts must include an input_audio object."
  onlyKeys input ["data","format"] (dot param "input_audio") "chat_audio_part_invalid_shape"
    "Audio input objects may only include documented Chat Completions audio fields."
  let data ← expect (nonemptyText (input.get (text "data"))) (dot param "input_audio.data") "chat_audio_data_invalid"
    "Chat Completions audio input must include base64 audio data."
  let format ← expect (nonemptyText (input.get (text "format"))) (dot param "input_audio.format")
    "chat_audio_format_invalid" "Chat Completions audio input must include an audio format."
  require (format ∈ allowed settings.chatAllowedAudioInputFormats) (dot param "input_audio.format")
    "chat_audio_format_not_supported" "The Chat Completions audio input format is not supported by this gateway."
  validateAudioInputData py settings data (dot param "input_audio.data")

def videoHeaders : List String := ["data:video/mp4;base64","data:video/webm;base64"]

def validateVideoPart (part : Fields) (param messageRole : Text) : Checked Unit := do
  require (messageRole = text "user" ∧ part.keysAre ["type","video_url"] = true) param "chat_video_input_invalid"
    "Video input is a user-only typed video_url part."
  let value := part.get (text "video_url")
  let url ← expect (if value.isMapping && value.fields.keysAre ["url"] then (value.fields.get (text "url")).text? else none)
    param "chat_video_input_invalid" "Video input requires exactly one URL string."
  let size ← byteLength url
  require (size ≤ settings.chatMaxVideoDataUrlBytes) param "chat_video_data_url_too_large"
    "Video input exceeds the byte limit."
  require ((comma url).1 ∈ videoHeaders.map text ∧ ((comma url).2.getD []) ≠ []) param "chat_video_input_invalid"
    "Video input requires an inline MP4 or WebM base64 data URL."
  require (py.decodable ((comma url).2.getD []) = true) param "chat_video_input_invalid"
    "Video input requires valid base64 data."

end Media

section Messages
variable (py : Interpreter) (settings : Settings)

structure PartCounts where
  texts : ℕ := 0
  images : ℕ := 0
  files : ℕ := 0
  audioInputs : ℕ := 0
  videos : ℕ := 0
  textBytes : ℕ := 0

def addText (counts : PartCounts) (t : Text) : Checked PartCounts := do
  let size ← byteLength t
  pure { counts with texts := counts.texts + 1, textBytes := counts.textBytes + size }

-- The parts of one kind: in the message, and with those of the messages before.
def requireCount (here before : ℕ) (perMessage perRequest : ℤ) (param : Text) (code inMessage inRequest : String) :
    Checked Unit := do
  require (here ≤ perMessage) param code inMessage
  require (before + here ≤ perRequest) (text "messages") code inRequest

def addImage (seen counts : PartCounts) (part : Fields) (param partParam messageRole : Text) : Checked PartCounts := do
  validateImagePart py settings part partParam messageRole
  requireCount (counts.images + 1) seen.images settings.chatMaxImagesPerMessage settings.chatMaxImagesPerRequest param
    "chat_image_count_exceeded" "A Chat Completions message includes too many image content parts."
    "The request includes too many Chat Completions image content parts."
  pure { counts with images := counts.images + 1 }

def addFile (seen counts : PartCounts) (part : Fields) (param partParam messageRole : Text) : Checked PartCounts := do
  validateFilePart py settings part partParam messageRole
  requireCount (counts.files + 1) seen.files settings.chatMaxFilesPerMessage settings.chatMaxFilesPerRequest param
    "chat_file_count_exceeded" "A Chat Completions message includes too many file content parts."
    "The request includes too many Chat Completions file content parts."
  pure { counts with files := counts.files + 1 }

def addAudioInput (seen counts : PartCounts) (part : Fields) (param partParam messageRole : Text) :
    Checked PartCounts := do
  validateAudioInputPart py settings part partParam messageRole
  requireCount (counts.audioInputs + 1) seen.audioInputs settings.chatMaxAudioInputsPerMessage
    settings.chatMaxAudioInputsPerRequest param "chat_audio_count_exceeded"
    "A Chat Completions message includes too many audio input content parts."
    "The request includes too many Chat Completions audio input content parts."
  pure { counts with audioInputs := counts.audioInputs + 1 }

def validateObjectPart (seen counts : PartCounts) (part : Fields) (param partParam messageRole : Text) :
    Checked PartCounts :=
  let type := part.get (text "type")
  if type.isText "text" then do
    let t ← expect (part.get (text "text")).text? (dot partParam "text") "chat_field_invalid_type"
      "Chat Completions text content parts must include string text."
    addText counts t
  else if type.isText "video_url" then do
    validateVideoPart py settings part partParam messageRole
    pure counts
  else if type.isText "image_url" then addImage py settings seen counts part param partParam messageRole
  else if type.isText "file" then addFile py settings seen counts part param partParam messageRole
  else if type.isText "input_audio" then addAudioInput py settings seen counts part param partParam messageRole
  else refuse (dot partParam "type") "chat_field_invalid_type"
    "Chat Completions message content parts must be text, image_url, file, or input_audio objects."

def validatePart (seen counts : PartCounts) (part : Document) (param partParam messageRole : Text) :
    Checked PartCounts :=
  match part with
  | .str t => addText counts t
  | _ => do
    let fields ← expect part.mapping? partParam "chat_field_invalid_type"
      "Chat Completions message content parts must be text strings or text objects."
    validateObjectPart py settings seen counts fields param partParam messageRole

def validateParts (seen : PartCounts) (param messageRole : Text) : List Document → ℕ → PartCounts → Checked PartCounts
  | [], _, counts => pure counts
  | part :: rest, index, counts => do
    let counts ← validatePart py settings seen counts part param (item param index) messageRole
    validateParts seen param messageRole rest (index + 1) counts

def validateMessageContent (content : Document) (seen : PartCounts) (param messageRole : Text) : Checked Unit :=
  match content with
  | .null => pure ()
  | .str t => validateStringBytes t param settings.chatMaxMessageContentBytes "chat_field_too_large"
    "A Chat Completions message content field exceeds the gateway size limit."
  | .arr parts => do
    let counts ← validateParts py settings seen param messageRole parts 0 {}
    require (counts.texts ≤ settings.chatMaxTextPartsPerMessage) param "chat_field_too_many_items"
      "A Chat Completions message includes too many text content parts."
    require (counts.textBytes ≤ settings.chatMaxMessageContentBytes) param "chat_field_too_large"
      "A Chat Completions message content field exceeds the gateway size limit."
  | _ => refuse param "chat_field_invalid_type"
    "Chat Completions message content must be a string, null, or a list of supported content parts."

def countParts (content : Document) (type : String) : ℕ :=
  (content.items?.getD []).countP fun part => part.isMapping && (part.fields.get (text "type")).isText type

def addParts (seen : PartCounts) (content : Document) : PartCounts := { seen with
  videos := seen.videos + countParts content "video_url"
  images := seen.images + countParts content "image_url"
  files := seen.files + countParts content "file"
  audioInputs := seen.audioInputs + countParts content "input_audio" }

def requireTotals (seen : PartCounts) : Checked Unit := do
  require (seen.videos ≤ settings.chatMaxVideosPerRequest) (text "messages") "chat_video_count_exceeded"
    "Too many video input parts."
  require (seen.images ≤ settings.chatMaxImagesPerRequest) (text "messages") "chat_image_count_exceeded"
    "The request includes too many Chat Completions image content parts."
  require (seen.files ≤ settings.chatMaxFilesPerRequest) (text "messages") "chat_file_count_exceeded"
    "The request includes too many Chat Completions file content parts."
  require (seen.audioInputs ≤ settings.chatMaxAudioInputsPerRequest) (text "messages") "chat_audio_count_exceeded"
    "The request includes too many Chat Completions audio input content parts."

def validateMessage (message : Document) (index : ℕ) (seen : PartCounts) : Checked PartCounts := do
  let fields ← expect message.mapping? (text "messages") "invalid_messages"
    "Each Chat Completions message must be an object."
  let role ← expect ((fields.get (text "role")).text?.filter fun role => !blank role) (text "messages") "invalid_messages"
    "Each Chat Completions message must include a non-empty string role."
  require (¬(role = text "assistant" ∧ fields.has (text "audio") = true)) (dot (item (text "messages") index) "audio")
    "chat_previous_audio_not_supported" "Assistant previous-audio references are not enabled by this gateway."
  let content := fields.get (text "content")
  validateMessageContent py settings content seen (dot (item (text "messages") index) "content") role
  let seen := addParts seen content
  requireTotals settings seen
  pure seen

def validateEach : List Document → ℕ → PartCounts → Checked Unit
  | [], _, _ => pure ()
  | message :: rest, index, seen => do
    let seen ← validateMessage py settings message index seen
    validateEach rest (index + 1) seen

def validateMessages (value : Document) : Checked Unit := do
  let messages ← expect (value.items?.filter fun items => !items.isEmpty) (text "messages") "invalid_messages"
    "The 'messages' field must be a non-empty list."
  require (messages.length ≤ settings.chatMaxMessagesPerRequest) (text "messages") "chat_message_limit_exceeded"
    "The request includes too many Chat Completions messages."
  validateEach py settings messages 0 {}

end Messages

end SlaifGateway.ChatPolicy
