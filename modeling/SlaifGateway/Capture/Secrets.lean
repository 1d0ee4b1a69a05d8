import SlaifGateway.Keys.GatewayKey

/-! The credentials that a captured request carries: those of its credential headers, of its
credential query parameters and of the strings under credential keys in its body, each once
and in the order of discovery. -/
namespace SlaifGateway.Capture
open Library Keys
open JsonText (hexValue isBlank)

abbrev Bytes := List UInt8

instance bytesLawful : LawfulBEq Bytes := inferInstance

-- The exceptions that leave the masker: its own, and the one of `str.encode`.
inductive Failure where
  | captureRedaction
  | unicodeEncode
  deriving DecidableEq, Repr

section Latin

def decodeLatin (bytes : Bytes) : Text := bytes.map fun b => point b.toNat

def isLatin (t : Text) : Bool := t.all (·.val < 256)

-- `encode("latin-1", "replace")`
def encodeLatin (t : Text) : Bytes := t.map fun c => if c.val < 256 then c.val.toUInt8 else 63

def encodeLatinStrict (t : Text) : Except Failure Bytes :=
  if isLatin t then .ok (encodeLatin t) else .error .unicodeEncode

def encodeUtf8 (t : Text) : Except Failure Bytes := (encode t).elim (.error .unicodeEncode) .ok

def byte (c : Char) : UInt8 := c.toNat.toUInt8

def ascii (s : String) : Bytes := s.toList.map byte

-- `bytes.strip`
def isByteSpace (b : UInt8) : Bool := b = 32 || (9 ≤ b && b ≤ 13)

def stripBytes (bytes : Bytes) : Bytes := ((bytes.dropWhile isByteSpace).reverse.dropWhile isByteSpace).reverse

def splitBytes (separator : UInt8) (bytes : Bytes) : List Bytes := bytes.splitOnP (· = separator)

-- The two sides of the first separator, when there is one.
def partBytes (separator : UInt8) (bytes : Bytes) : Option (Bytes × Bytes) :=
  if separator ∈ bytes then
    some (bytes.takeWhile (· ≠ separator),(bytes.dropWhile (· ≠ separator)).drop 1)
  else none
end Latin

section Names

def isJoint (c : CodePoint) : Bool := isSpace c || c.val = 95 || c.val = 45

def normalizeFieldName (name : Text) : Text := lower (name.filter fun c => !isJoint c)

def identifierFieldNames : List String := ["session","sessionid","nonce","signature","sig"]

def credentialFieldNames : List String :=
  ["apikey","key","token","accesstoken","refreshtoken","authtoken","idtoken","apitoken","sessiontoken","password",
    "passwd","secret","clientsecret","privatekey","authorization","auth","credential","credentials","bearer"]

def credentialHeaderNames : List String :=
  ["authorization","proxy-authorization","cookie","x-api-key","x-auth-token","x-csrf-token","x-csrftoken","x-api-token",
    "x-access-token","x-refresh-token","x-auth","apikey","api-key","token","x-token"]

def named (names : List String) (t : Text) : Bool := names.any fun name => text name = t
end Names

section Hints
variable (acceptedPrefixes : List Text)

def ellipsis : CodePoint := 0x2026

def gatewayBearerHint (token : Text) : Option Text :=
  let prefixes := acceptedPrefixes.filter (!·.isEmpty)
  if token.isEmpty || prefixes.isEmpty then none
  else match parseGatewayKeyPublicId token prefixes with
    | .error _ => none
    | .ok publicId =>
      (bestMatchingPrefix token prefixes).bind fun matched =>
        if publicId.length < 8 then none else some (matched ++ publicId.take 8 ++ ellipsis :: text "***")

def gatewaySecretSuffix (token : Text) : Option Bytes :=
  if token.isEmpty then none
  else match parseGatewayKeyPublicId token acceptedPrefixes with
    | .error _ => none
    | .ok _ =>
      (bestMatchingPrefix token acceptedPrefixes).bind fun matched =>
        let secret := afterDot (token.drop matched.length)
        if secret.isEmpty then none else some (encodeLatin secret)
end Hints

section Queries

-- `unquote_to_bytes` of the bytes that it decodes.
def unquote : Bytes → Bytes
  | [] => []
  | b :: rest =>
    if b = 37 then
      match rest with
      | high :: low :: more =>
        match hexValue (point high.toNat),hexValue (point low.toNat) with
        | some h,some l => (h * 16 + l).toUInt8 :: unquote more
        | _,_ => b :: unquote (high :: low :: more)
      | [last] => [b,last]
      | [] => [b]
    else b :: unquote rest
  termination_by bytes => bytes.length

-- The text is encoded in UTF-8 before it is decoded; a latin-1 text always can be.
def unquoteText (t : Text) : Bytes := unquote ((encode t).getD [])

def decodeQueryValue (value : Bytes) : List Bytes :=
  let plain := unquoteText (decodeLatin value)
  let form := unquoteText (decodeLatin (value.map fun b => if b = 43 then 32 else b))
  let first := if plain.isEmpty then [] else [plain]
  if form.isEmpty || form ∈ first then first else first ++ [form]
end Queries

section Basic

def base64Value (b : UInt8) : Option Nat :=
  if 65 ≤ b ∧ b ≤ 90 then some (b.toNat - 65)
  else if 97 ≤ b ∧ b ≤ 122 then some (b.toNat - 71)
  else if 48 ≤ b ∧ b ≤ 57 then some (b.toNat + 4)
  else if b = 43 then some 62
  else if b = 47 then some 63
  else none

-- `b64decode(value, validate=True)`: whole groups, the last one padded.
def b64decode : Bytes → Option Bytes
  | [] => some []
  | a :: b :: c :: d :: rest => do
    let w ← base64Value a
    let x ← base64Value b
    if c = 61 ∧ d = 61 ∧ rest = [] then some [(w * 4 + x / 16).toUInt8]
    else
      let y ← base64Value c
      if d = 61 ∧ rest = [] then some [(w * 4 + x / 16).toUInt8,(x % 16 * 16 + y / 4).toUInt8]
      else
        let z ← base64Value d
        let more ← b64decode rest
        some ((w * 4 + x / 16).toUInt8 :: (x % 16 * 16 + y / 4).toUInt8 :: (y % 4 * 64 + z).toUInt8 :: more)
  | _ => none

def basicUserinfoSecrets (value : Bytes) : List Bytes :=
  match b64decode (stripBytes value) with
  | none => []
  | some decoded =>
    if decoded.isEmpty then []
    else
      let user := decoded.takeWhile (· ≠ 58)
      let password := (decoded.dropWhile (· ≠ 58)).drop 1
      decoded :: if !password.isEmpty then [password] else if !user.isEmpty then [user] else []
end Basic

section Strings
variable (decimalDigit : CodePoint → Option Nat)

-- White space for `int`, which leaves the ASCII separators out.
def isIntSpace (c : CodePoint) : Bool := c.val = 32 || (9 ≤ c.val && c.val ≤ 13) || (128 ≤ c.val && isSpace c)

def hexDigit (c : CodePoint) : Option Nat := if c.val < 128 then hexValue c else decimalDigit c

-- Digits with single underscores between them; the flag says that a digit stands last.
def hexDigits : Bool → Nat → Text → Option Nat
  | digit,n,[] => if digit then some n else none
  | digit,n,c :: rest =>
    if c.val = 95 then if digit then hexDigits false n rest else none
    else match hexDigit decimalDigit c with
      | none => none
      | some d => hexDigits true (n * 16 + d) rest

def dropHexMark (t : Text) : Text :=
  if (text "0x").isPrefixOf t || (text "0X").isPrefixOf t then
    if (t.drop 2).head?.any (·.val = 95) then t.drop 3 else t.drop 2
  else t

-- `int(t, 16)`; `none` is its ValueError.
def intBase16 (t : Text) : Option Int :=
  let trimmed := ((t.dropWhile isIntSpace).reverse.dropWhile isIntSpace).reverse
  match trimmed with
  | [] => none
  | c :: rest =>
    if c.val = 45 then (hexDigits decimalDigit false 0 (dropHexMark rest)).map fun n => -n
    else if c.val = 43 then (hexDigits decimalDigit false 0 (dropHexMark rest)).map Int.ofNat
    else (hexDigits decimalDigit false 0 (dropHexMark (c :: rest))).map Int.ofNat

def unicodeEscape (digits : Text) : CodePoint :=
  match intBase16 decimalDigit digits with
  | some n => if 0 ≤ n ∧ n < 0x110000 then point n.toNat else 117
  | none => 117

def shortEscape (c : CodePoint) : CodePoint := ((JsonText.simpleEscapes.lookup c.val).map point).getD c

-- The text of a string whose opening quote is read, and what follows its closing quote.
def readJsonString : Text → Text × Text
  | [] => ([],[])
  | c :: rest =>
    if c.val = 92 then
      match rest with
      | [] => ([],[])
      | e :: more =>
        if e.val = 117 then
          let later := readJsonString (more.drop 4)
          (unicodeEscape decimalDigit (more.take 4) :: later.1,later.2)
        else
          let later := readJsonString more
          (shortEscape e :: later.1,later.2)
    else if c.val = 34 then ([],rest)
    else
      let later := readJsonString rest
      (c :: later.1,later.2)
  termination_by t => t.length
  decreasing_by all_goals simp_wf <;> omega

theorem readShorter (t : Text) : (readJsonString decimalDigit t).2.length ≤ t.length := by
  fun_induction readJsonString decimalDigit t with
  | case1 => exact Nat.le_refl _
  | case2 c slash => exact Nat.zero_le _
  | case3 c slash e more unicode later ih =>
    have shorter : later.2.length ≤ (more.drop 4).length := ih
    rw [List.length_drop] at shorter
    simp only [List.length_cons]
    omega
  | case4 c slash e more other later ih =>
    have shorter : later.2.length ≤ more.length := ih
    simp only [List.length_cons]
    omega
  | case5 c rest other quote => simp
  | case6 c rest other plain later ih =>
    have shorter : later.2.length ≤ rest.length := ih
    simp only [List.length_cons]
    omega

def collects (key : Option Text) (value : Text) : Bool :=
  key.any (named credentialFieldNames) && !key.any (named identifierFieldNames) && !(stripText value).isEmpty

def endsWord (c : CodePoint) : Bool := isBlank c || c.val = 44 || c.val = 125 || c.val = 93

-- Strings that stand where the last key is a credential name; the text need not be JSON.
def scanCredentialStrings (currentKey : Option Text) : Text → List Text
  | [] => []
  | c :: rest =>
    if isBlank c || c.val = 44 then scanCredentialStrings currentKey rest
    else if c.val = 34 then
      let ahead := (readJsonString decimalDigit rest).2.dropWhile isBlank
      if ahead.head?.any (·.val = 58) then
        scanCredentialStrings (some (normalizeFieldName (readJsonString decimalDigit rest).1)) ahead
      else
        (if collects currentKey (readJsonString decimalDigit rest).1 then [(readJsonString decimalDigit rest).1] else []) ++
          scanCredentialStrings none (readJsonString decimalDigit rest).2
    else if c.val = 58 || c.val = 123 || c.val = 91 then scanCredentialStrings currentKey rest
    else if c.val = 125 || c.val = 93 then scanCredentialStrings none rest
    else scanCredentialStrings none (rest.dropWhile (!endsWord ·))
  termination_by t => t.length
  decreasing_by
    all_goals simp_wf
    · have := readShorter decimalDigit rest
      have := (List.dropWhile_sublist isBlank (l := (readJsonString decimalDigit rest).2)).length_le
      omega
    · have := readShorter decimalDigit rest
      omega
    · have := (List.dropWhile_sublist (!endsWord ·) (l := rest)).length_le
      omega

def bodyText (body : Bytes) : Text := (decode body).getD (decodeLatin body)

def credentialStrings (body : Bytes) : List Text := scanCredentialStrings decimalDigit none (bodyText body)

-- The strings in UTF-8, and the note of a body that is not.
def credentialValuesFromBody (body : Bytes) : Except Failure (List Bytes × Option String) :=
  if body.isEmpty then .ok ([],none)
  else do
    let values ← (credentialStrings decimalDigit body).mapM encodeUtf8
    return (values,if (decode body).isNone then some "body_non_utf8" else none)
end Strings

section Headers
variable (acceptedPrefixes : List Text)

-- `text.split(None, 1)`
def splitOnce (t : Text) : List Text :=
  let start := t.dropWhile isSpace
  let rest := (start.dropWhile (!isSpace ·)).dropWhile isSpace
  if start.isEmpty then [] else if rest.isEmpty then [start] else [start.takeWhile (!isSpace ·),rest]

def authorizationSchemes : List String := ["bearer","basic","digest","token"]

def schemeOf (value : Bytes) : Text := lower ((splitOnce (decodeLatin value)).headD [])

def authorizationCredential (value : Bytes) : Bytes :=
  match splitOnce (decodeLatin value) with
  | [_,rest] => if named authorizationSchemes (schemeOf value) then encodeLatin (stripText rest) else stripBytes value
  | _ => stripBytes value

def unquoteCookie (value : Text) : Text :=
  if 2 ≤ value.length && value.head? = value.getLast? && value.head?.any (fun c => c.val = 34 || c.val = 39) then
    stripText (value.tail.dropLast)
  else value

def cookieValues (value : Bytes) : List Bytes :=
  (((decodeLatin value).splitOnP (·.val = 59)).map fun chunk =>
    encodeLatin (unquoteCookie (stripText ((chunk.dropWhile (·.val ≠ 61)).drop 1))))

def headerCredentials (header : Text × Bytes) : List Bytes :=
  let name := lower header.1
  let value := header.2
  if named ["authorization","proxy-authorization"] name then
    let credential := authorizationCredential value
    credential ::
      (if name = text "authorization" then (gatewaySecretSuffix acceptedPrefixes (decodeLatin credential)).toList else []) ++
      (if name = text "proxy-authorization" ∧ schemeOf value = text "basic" then basicUserinfoSecrets credential else [])
  else if name = text "cookie" then cookieValues value
  else if named credentialHeaderNames name then [stripBytes value]
  else []

def queryCredentials (query : Bytes) : List Bytes :=
  (splitBytes 38 query).flatMap fun pair =>
    match partBytes 61 pair with
    | none => []
    | some (name,value) =>
      if named credentialFieldNames (normalizeFieldName (decodeLatin (unquoteText (decodeLatin name)))) then
        decodeQueryValue value
      else []
end Headers

section Collection
variable (decimalDigit : CodePoint → Option Nat) (acceptedPrefixes : List Text)

structure Collected where
  secrets : List (Bytes × Option Text)
  recognizedHint : Option Text

-- `_add`
def Collected.add (c : Collected) (secret : Bytes) : Collected :=
  if secret.isEmpty || secret ∈ c.secrets.map Prod.fst then c
  else
    let hint := gatewayBearerHint acceptedPrefixes (decodeLatin secret)
    ⟨c.secrets ++ [(secret,hint)],c.recognizedHint.or hint⟩

structure Request where
  path : Bytes
  query : Bytes
  headers : List (Text × Bytes)
  body : Bytes

def collectIncomingSecrets (r : Request) : Except Failure (Collected × List String) := do
  let (bodySecrets,note) ← credentialValuesFromBody decimalDigit r.body
  let candidates := r.headers.flatMap (headerCredentials acceptedPrefixes) ++ queryCredentials r.query ++ bodySecrets
  return (candidates.foldl (Collected.add acceptedPrefixes) ⟨[],none⟩,note.toList)
end Collection
end SlaifGateway.Capture
