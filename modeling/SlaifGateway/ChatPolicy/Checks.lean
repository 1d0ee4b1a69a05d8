import SlaifGateway.Library.JsonText
import SlaifGateway.Library.Transaction
import Mathlib.Algebra.Group.Nat.Defs
import Mathlib.Data.List.Lex
import Mathlib.Order.Fin.Basic

/-! The checks of single values of a Chat Completions body. A check returns, refuses
the body with a request policy error, or lets another exception of the interpreter escape. -/
namespace SlaifGateway.ChatPolicy
open Library Library.Tx

section Errors

structure PolicyError where
  param : Text
  code : String
  message : Text
  deriving DecidableEq

inductive Escape where
  | typeError | unicodeError | overflowError | valueError | recursionError
  deriving DecidableEq, Repr

inductive Raised where
  | refused (error : PolicyError)
  | escaped (error : Escape)
  deriving DecidableEq

abbrev Checked := Tx Unit Raised

def refusal (param : Text) (code message : String) : Raised := .refused ⟨param,code,text message⟩

def refuse {α : Type} (param : Text) (code message : String) : Checked α := throw (refusal param code message)

def require (held : Prop) [Decidable held] (param : Text) (code message : String) : Checked Unit :=
  raiseIf (¬held) (refusal param code message)

def expect {α : Type} (found : Option α) (param : Text) (code message : String) : Checked α :=
  orRaise found (refusal param code message)

-- What the interpreter and its library answer: `urlsplit`, `b64decode` and how deep a recursion may go.
structure SplitUrl where
  scheme : Text
  netloc : Text
  username : Option Text
  password : Option Text

structure Interpreter where
  urlsplit : Text → Option SplitUrl
  decodable : Text → Bool
  copyRoom : ℕ
  dumpsRoom : ℕ
  walkRoom : ℕ

end Errors

section Settings

structure Settings where
  chatMaxChoicesPerRequest : ℤ := 4
  chatMaxMessagesPerRequest : ℤ := 128
  chatMaxMessageContentBytes : ℤ := 262144
  chatMaxTextPartsPerMessage : ℤ := 64
  chatMaxVideosPerRequest : ℤ := 1
  chatMaxVideoDataUrlBytes : ℤ := 10485760
  chatMaxImagesPerRequest : ℤ := 8
  chatMaxImagesPerMessage : ℤ := 4
  chatMaxImageUrlBytes : ℤ := 4096
  chatMaxImageDataUrlBytes : ℤ := 10485760
  chatAllowImageDataUrls : Bool := true
  chatAllowRemoteImageUrls : Bool := true
  chatMaxFilesPerRequest : ℤ := 4
  chatMaxFilesPerMessage : ℤ := 2
  chatMaxFileDataBytes : ℤ := 10485760
  chatMaxFileNameBytes : ℤ := 255
  chatAllowFileDataUrls : Bool := false
  chatAllowFileIds : Bool := false
  chatAllowedFileMimeTypes : Text := text "application/pdf,text/plain,text/markdown,text/csv,application/json"
  chatAllowedFileExtensions : Text := text ".pdf,.txt,.md,.csv,.json"
  chatMaxAudioInputsPerRequest : ℤ := 4
  chatMaxAudioInputsPerMessage : ℤ := 2
  chatMaxAudioInputDataBytes : ℤ := 10485760
  chatAllowedAudioInputFormats : Text := text "wav,mp3"
  chatAllowedAudioOutputFormats : Text := text "wav,aac,mp3,flac,opus,pcm16"
  chatAllowedAudioOutputVoices : Text := text "alloy,ash,ballad,coral,echo,fable,nova,onyx,sage,shimmer,marin,cedar"
  chatAllowCustomAudioOutputVoices : Bool := false
  chatMaxToolsPerRequest : ℤ := 64
  chatMaxCustomToolsPerRequest : ℤ := 16
  chatMaxFunctionsPerRequest : ℤ := 64
  chatMaxSingleToolSchemaBytes : ℤ := 65536
  chatMaxTotalToolSchemaBytes : ℤ := 262144
  chatMaxCustomToolFormatBytes : ℤ := 65536
  chatMaxCustomToolGrammarBytes : ℤ := 32768
  chatMaxResponseFormatSchemaBytes : ℤ := 65536
  chatMaxMetadataBytes : ℤ := 16384
  chatMaxMetadataKeys : ℤ := 32
  chatMaxStopSequences : ℤ := 4
  chatMaxStopSequenceBytes : ℤ := 1024
  chatMaxUserFieldBytes : ℤ := 1024
  chatMaxPredictionBytes : ℤ := 65536
  chatMaxStreamOptionsBytes : ℤ := 8192
  chatMaxLogitBiasBytes : ℤ := 16384
  chatMaxToolNameBytes : ℤ := 128
  chatMaxToolDescriptionBytes : ℤ := 4096
  chatMaxCustomToolNameBytes : ℤ := 128
  chatMaxCustomToolDescriptionBytes : ℤ := 4096
  chatMaxMetadataKeyBytes : ℤ := 128
  defaultMaxOutputTokens : ℤ := 1024
  hardMaxOutputTokens : ℤ := 4096
  hardMaxInputTokens : ℤ := 128000
  trustedCalibrationAllowUnknownHostedTools : Bool := true
  trustedCalibrationAllowExternalAuthority : Bool := false

end Settings

section Values

def dot (param : Text) (field : String) : Text := param ++ text ("." ++ field)

def item (param : Text) (index : ℕ) : Text := param ++ text "[" ++ Document.decimal index ++ text "]"

def blank (t : Text) : Bool := t.all isSpace

-- `len(value.encode("utf-8"))`
def byteLength (t : Text) : Checked ℕ := orRaise ((encode t).map List.length) (.escaped .unicodeError)

def validateStringBytes (value param : Text) (maxBytes : ℤ) (code message : String) : Checked Unit := do
  let size ← byteLength value
  require (size ≤ maxBytes) param code message

-- `value in names`: an array or an object cannot be hashed.
def isAmong (value : Document) (names : List String) : Checked Bool :=
  match value with
  | .arr _ | .obj _ => throw (.escaped .typeError)
  | .str t => pure (decide (t ∈ names.map text))
  | _ => pure false

-- `for key in value: if key not in names: raise`
def onlyKeys (fields : Fields) (names : List String) (param : Text) (code message : String) : Checked Unit :=
  match fields.keys.find? fun key => decide (key ∉ names.map text) with
  | some key => refuse (param ++ text "." ++ key) code message
  | none => pure ()

def maxIntDigits : ℕ := 4300

mutual
-- The bytes of the compact text with sorted keys, which the order of the keys does not change; none where it
-- cannot be written.
def canonicalSize : Document → Option ℕ
  | .null => some 4
  | .bool true => some 4
  | .bool false => some 5
  | .int n => if (Nat.toDigits 10 n.natAbs).length ≤ maxIntDigits then some (Document.decimal n).length else none
  | .float _ spelling => some spelling.length
  | .str t => (encode (Document.quote false t)).map List.length
  | .arr items => do
    let inner ← itemsSize items
    some (2 + inner + (items.length - 1))
  | .obj fields => do
    let inner ← fieldsSize fields
    some (2 + inner + (fields.length - 1))

def itemsSize : List Document → Option ℕ
  | [] => some 0
  | d :: rest => do
    let first ← canonicalSize d
    let more ← itemsSize rest
    some (first + more)

def fieldsSize : List (Text × Document) → Option ℕ
  | [] => some 0
  | (k,d) :: rest => do
    let key ← (encode (Document.quote false k)).map List.length
    let first ← canonicalSize d
    let more ← fieldsSize rest
    some (key + 1 + first + more)
end

variable (py : Interpreter)

-- `canonical_json_bytes`, whose ValueError the caller turns into this error.
def canonicalBytes (value : Document) (error : Raised) : Checked ℕ := do
  raiseIf (py.dumpsRoom < value.height) (.escaped .recursionError)
  orRaise (canonicalSize value) error

def jsonSize (value : Document) (param : Text) : Checked ℕ :=
  canonicalBytes py value
    (.refused ⟨param,"chat_field_invalid_type",text "The '" ++ param ++ text "' field must be JSON-serializable."⟩)

-- `item.strip().lower() for item in setting.split(",") if item.strip()`
def allowed (setting : Text) : List Text :=
  ((setting.splitOn 44).filter fun entry => !blank entry).map fun entry => lower (stripText entry)

def startsWith (t : Text) (start : String) : Bool := (text start).isPrefixOf t

end Values

end SlaifGateway.ChatPolicy
