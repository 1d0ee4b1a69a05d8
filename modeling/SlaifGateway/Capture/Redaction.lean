import SlaifGateway.Capture.Masker

/-! `redact_capture_request`: what a captured request becomes, and how its redaction fails. -/
namespace SlaifGateway.Capture
open Library

section Queries

def isUnreserved (b : UInt8) : Bool :=
  (65 ≤ b && b ≤ 90) || (97 ≤ b && b ≤ 122) || (48 ≤ b && b ≤ 57) || b ∈ ascii "_.-~"

def percentEncoded (bytes : Bytes) : Bytes :=
  bytes.flatMap fun b => if isUnreserved b then [b] else [37,upperDigit (b.toNat / 16),upperDigit (b.toNat % 16)]

def maskPair (replacements : List (Bytes × Bytes)) (pair : Bytes) : Bytes :=
  match partBytes 61 pair with
  | none => pair
  | some (name,value) =>
    match (decodeQueryValue value).findSome? fun decoded => replacements.lookup decoded with
    | some replacement => name ++ 61 :: percentEncoded replacement
    | none => pair

def maskQuery (replacements : List (Bytes × Bytes)) (query : Bytes) : Bytes :=
  if query.isEmpty || replacements.isEmpty then query
  else (ascii "&").intercalate ((splitBytes 38 query).map (maskPair replacements))
end Queries

structure CaptureRedactionResult where
  path : Bytes
  query : Bytes
  headers : List (Text × Bytes)
  body : Bytes
  bodyComplete : Bool
  secretsMasked : Nat
  recognizedHint : Option Text
  notes : List String

def replacementOf (hint : Option Text) : Except Failure Bytes := (hint.map encodeUtf8).getD (.ok fullyRedacted)

def maskWith (masker : Option Masker) (data : Bytes) : Bytes := (masker.map fun m => m.mask data).getD data

def maskHeader (masker : Option Masker) (header : Text × Bytes) : Except Failure (Text × Bytes) :=
  match masker with
  | none => .ok header
  | some m => do
    let name ← encodeLatinStrict header.1
    return (decodeLatin (m.mask name),m.mask header.2)

def replacementPairs (collected : Collected) : Except Failure (List (Bytes × Bytes)) :=
  collected.secrets.mapM fun secret => (replacementOf secret.2).map (secret.1,·)

section Redact
variable (decimalDigit : CodePoint → Option Nat) (acceptedPrefixes : List Text) (r : Request)

def redactCaptureRequest (bodyComplete : Bool) : Except Failure CaptureRedactionResult := do
  let (collected,notes) ← collectIncomingSecrets decimalDigit acceptedPrefixes r
  let pairs ← replacementPairs collected
  let masker ← buildCaptureMasker pairs
  let headers ← r.headers.mapM (maskHeader masker)
  return {
    path := maskWith masker r.path
    query := maskWith masker (maskQuery pairs r.query)
    headers
    body := maskWith masker r.body
    bodyComplete
    secretsMasked := pairs.length
    recognizedHint := collected.recognizedHint
    notes }
end Redact
end SlaifGateway.Capture
