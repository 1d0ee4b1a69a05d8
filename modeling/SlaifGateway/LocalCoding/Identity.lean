import SlaifGateway.Library.Encodings
import Mathlib.Data.Fin.Basic

/-! The opaque identity of a Local Coding request and its signature. Every derived or
signed message is a list of fields joined by newlines, and no admitted field holds one. -/
namespace SlaifGateway.LocalCoding.Identity
open Library

inductive Fault where
  | value (message : String)
  | type (message : String)
  | unicodeEncode
  deriving DecidableEq

abbrev Uuid := Fin (2 ^ 128)

instance uuidNeZero : NeZero (2 ^ 128) := ⟨by decide⟩

def hyphen : CodePoint := 45
def newline : CodePoint := 10

-- `str(uuid)`
def uuidText (u : Uuid) : Text :=
  let hex := fixedHex 32 u.val
  hex.take 8 ++ hyphen :: (hex.drop 8).take 4 ++ hyphen :: (hex.drop 12).take 4 ++ hyphen :: (hex.drop 16).take 4 ++
    hyphen :: hex.drop 20

-- `uuid.UUID(text)`. What it reads beside hexadecimal digits and hyphens (braces, urn:) is
-- refused by the comparison with the canonical text anyhow.
def parseUuid (t : Text) : Option Uuid := do
  let digits ← (t.filter (· ≠ hyphen)).mapM JsonText.hexValue
  if digits.length ≠ 32 then none
  else some (Fin.ofNat _ (digits.foldl (fun n d => 16 * n + d) 0))

inductive IdentityMode where
  | static
  | signedIdentityV1
  deriving DecidableEq

structure RouteContract where
  routeName : Text
  identityMode : IdentityMode
  nonceMinLength : ℕ
  nonceMaxLength : ℕ

structure RequestIdentity where
  principal : Text
  session : Text
  repository : Text
  route : Text
  identityMode : IdentityMode
  deriving DecidableEq

-- SHA-256 and HMAC-SHA-256.
structure Digests where
  sha256 : List UInt8 → List UInt8
  hmac : List UInt8 → List UInt8 → List UInt8

def invalid (label : String) : Fault := .value ("Local Coding " ++ label ++ " is invalid")

-- A value that is no string is `none`.
def boundedIdentityInput (value : Option Text) (label : String) : Except Fault Text :=
  match value with
  | none => .error (invalid label)
  | some t =>
    if t = [] then .error (invalid label)
    else match encode t with
      | none => .error .unicodeEncode
      | some bytes =>
        if 256 < bytes.length then .error (invalid label)
        else if t.any fun c => c.val < 32 || c.val = 127 then .error (invalid label)
        else .ok t

section Derive
variable (digests : Digests)

def opaqueHmac (secret : List UInt8) (domain : String) (values : List Text) : Except Fault Text :=
  match encode (joined newline (text domain :: values)) with
  | none => .error .unicodeEncode
  | some message => .ok (text "h" ++ base64Url (digests.hmac secret message))

def principalDomain : String := "slaif-local-coding:principal:v1"
def sessionDomain : String := "slaif-local-coding:session:v2"
def repositoryDomain : String := "slaif-local-coding:repository:v1"

-- The arguments; one of another type than declared is `none`.
structure DeriveInput where
  ownerId : Option Uuid
  gatewayKeyId : Option Uuid
  identityHints : Option (List (Text × Option Text))
  repositoryScope : Option Text
  route : RouteContract
  derivationSecret : Option (List UInt8)

def checkSecret (secret : Option (List UInt8)) : Except Fault (List UInt8) :=
  match secret with
  | none => .error (.value "Local Coding identity derivation secret is unavailable")
  | some s =>
    if s.length < 32 || 4096 < s.length then
      .error (.value "Local Coding identity derivation secret is unavailable")
    else if s.any fun b => b.toNat < 0x21 || 0x7E < b.toNat then
      .error (.value "Local Coding identity derivation secret is invalid")
    else .ok s

def sessionHint (hints : Option (List (Text × Option Text))) : Except Fault (Option Text) :=
  match hints with
  | none => .error (.type "Local Coding session context is unavailable or ambiguous")
  | some [(key,value)] =>
    if key = text "session_id" then .ok value
    else .error (.value "Local Coding session context is unavailable or ambiguous")
  | some _ => .error (.value "Local Coding session context is unavailable or ambiguous")

def required (id : Option Uuid) (message : String) : Except Fault Uuid := id.elim (.error (.type message)) .ok

def canonicalSession (t : Text) : Except Fault Unit :=
  if (parseUuid t).map uuidText = some t then .ok () else .error (.value "Local Coding session hint is not canonical")

-- The values a static route never looks at are checked in the source's order.
def deriveSigned (input : DeriveInput) : Except Fault RequestIdentity := do
  let secret ← checkSecret input.derivationSecret
  let hint ← sessionHint input.identityHints
  let scope ← boundedIdentityInput input.repositoryScope "repository binding"
  let owner ← required input.ownerId "Local Coding owner truth is unavailable"
  let gatewayKey ← required input.gatewayKeyId "Local Coding Gateway-key truth is unavailable"
  let sessionValue ← boundedIdentityInput hint "session hint"
  canonicalSession sessionValue
  let ownerTruth ← boundedIdentityInput (some (uuidText owner)) "owner truth"
  let principal ← opaqueHmac digests secret principalDomain [ownerTruth]
  let session ← opaqueHmac digests secret sessionDomain [principal,uuidText gatewayKey,sessionValue]
  let repository ← opaqueHmac digests secret repositoryDomain [principal,scope]
  return ⟨principal,session,repository,input.route.routeName,input.route.identityMode⟩

def deriveRequestIdentity (input : DeriveInput) : Except Fault (Option RequestIdentity) :=
  match input.route.identityMode with
  | .static => .ok none
  | .signedIdentityV1 => (deriveSigned digests input).map some

end Derive

section Sign

def isAlnum (c : CodePoint) : Bool :=
  (48 ≤ c.val && c.val ≤ 57) || (65 ≤ c.val && c.val ≤ 90) || (97 ≤ c.val && c.val ≤ 122)

def isOpaque (c : CodePoint) : Bool := isAlnum c || c.val = 95 || c.val = 45

-- `_LOCAL_V1_SIGNED_FIELD_RE.fullmatch`
def isSignedField : Text → Bool
  | [] => false
  | c :: rest => isAlnum c && rest.length ≤ 255 && rest.all isOpaque

def validateSignedField (value : Text) (label : String) : Except Fault Unit :=
  if isSignedField value then .ok () else .error (invalid label)

-- `str.isdigit` beyond ASCII, and whether `float` reads a text and finds it finite.
structure Interpreter where
  digitBeyond : CodePoint → Bool
  float : Text → Option Bool

variable (python : Interpreter) (digests : Digests)

def isDigit (c : CodePoint) : Bool := (48 ≤ c.val && c.val ≤ 57) || (128 ≤ c.val && python.digitBeyond c)

def checkTimestamp (timestamp : Text) : Except Fault Unit :=
  match python.float timestamp with
  | none => .error (.value "could not convert string to float")
  | some finite =>
    if !finite || timestamp.isEmpty || !timestamp.all (isDigit python) then
      .error (.value "Local Coding timestamp is invalid")
    else .ok ()

def canonicalFields (method path : String) (rawQuery body : List UInt8) (identity : RequestIdentity)
    (timestamp nonce : Text) : List Text :=
  [text "slaif-local-coding-identity-v1",text method,text path,hexBytes (digests.sha256 rawQuery),
    hexBytes (digests.sha256 body),identity.principal,identity.session,identity.repository,identity.route,timestamp,nonce]

def canonicalIdentityBytes (method path : String) (rawQuery body : List UInt8) (identity : RequestIdentity)
    (timestamp nonce : Text) : Except Fault (List UInt8) :=
  match encode (joined newline (canonicalFields digests method path rawQuery body identity timestamp nonce)) with
  | none => .error .unicodeEncode
  | some bytes => .ok bytes

def expectedSignature (secret canonical : List UInt8) : Text := text "v1=" ++ hexBytes (digests.hmac secret canonical)

structure IdentityHeaders where
  identityVersion : Text
  principal : Text
  session : Text
  repository : Text
  route : Text
  timestamp : Text
  nonce : Text
  signature : Text
  deriving DecidableEq

structure SignInput where
  identity : RequestIdentity
  body : List UInt8
  route : RouteContract
  timestamp : Text
  nonce : Text

def check (holds : Bool) (message : String) : Except Fault Unit := if holds then .ok () else .error (.value message)

def signIdentity (signingSecret : List UInt8) (input : SignInput) : Except Fault IdentityHeaders := do
  check (input.identity.identityMode = .signedIdentityV1) "Local Coding identity mode is not signed"
  validateSignedField input.identity.principal "principal"
  validateSignedField input.identity.session "session"
  validateSignedField input.identity.repository "repository"
  validateSignedField input.identity.route "route"
  checkTimestamp python input.timestamp
  check (input.identity.route = input.route.routeName) "Local Coding identity route does not match route contract"
  check (input.route.nonceMinLength ≤ input.nonce.length && input.nonce.length ≤ input.route.nonceMaxLength)
    "Local Coding nonce is outside route bounds"
  check (!input.nonce.isEmpty && input.nonce.all isOpaque) "Local Coding nonce is invalid"
  let canonical ← canonicalIdentityBytes digests "POST" "/v1/responses" [] input.body input.identity input.timestamp
    input.nonce
  let signature := expectedSignature digests signingSecret canonical
  return ⟨text "v1",input.identity.principal,input.identity.session,input.identity.repository,input.identity.route,
    input.timestamp,input.nonce,signature⟩

end Sign
end SlaifGateway.LocalCoding.Identity
