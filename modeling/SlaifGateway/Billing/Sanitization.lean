import SlaifGateway.Library.Document

/-! The recursive metadata sanitizer: keys are judged by the letters and digits of their lower case,
content keys and secret-looking keys are dropped or masked, texts are redacted. -/
namespace SlaifGateway.Billing
open Library

def sensitiveKeyParts : List String :=
  ["authorization","apikey","providerapikey","openaiapikey","openrouterapikey","token","secret","password","csrf",
    "cookie","session","credential","bearer","nonce","encryptedpayload","tokenhash","plaintextkey","gatewaykey",
    "providerkey","passwordhash"]

def safeTokenCounterKeys : List String :=
  ["prompttokens","completiontokens","totaltokens","cachedtokens","reasoningtokens","inputtokens","outputtokens",
    "estimatedtokens","actualtokens","actualtotaltokens","actualcachedtokens","actualreasoningtokens","reservedtokens",
    "releasedtokens","componenttokencounts","inputuncachedtokens","inputcachedtokens","outputnonreasoningtokens",
    "outputreasoningtokens","tokenreservationoverrun","tokensusedtotal","tokensreservedtotal","tokenlimittotal"]

def contentKeyNames : List String :=
  ["messages","choices","content","prompt","completion","requestbody","responsebody","requestpayload",
    "responsepayload","rawrequest","rawrequestbody","rawrequestpayload","rawresponse","rawresponsebody",
    "rawresponsepayload"]

def keyPoint (c : CodePoint) : Bool := (97 ≤ c.val && c.val ≤ 122) || (48 ≤ c.val && c.val ≤ 57)

def normalizeSensitiveKey (key : Text) : Text := (lower key).filter keyPoint

def isSensitiveKey (key : Text) : Bool :=
  let normalized := normalizeSensitiveKey key
  if (safeTokenCounterKeys.map text).contains normalized then false
  else sensitiveKeyParts.any fun part => contains (text part) normalized

def isContentKey (key : Text) : Bool := (contentKeyNames.map text).contains (normalizeSensitiveKey key)

-- How texts are redacted and fractions written; nothing below depends on either.
structure Redaction where
  text : Text → Text
  float : Text → Text

mutual
def sanitizeValue (r : Redaction) (dropContentKeys : Bool) : Document → Document
  | .str t => .str (r.text t)
  | .float _ spelling => .str (r.float spelling)
  | .arr items => .arr (sanitizeItems r dropContentKeys items)
  | .obj fields => .obj (sanitizeMapping r dropContentKeys fields)
  | value => value

def sanitizeItems (r : Redaction) (dropContentKeys : Bool) : List Document → List Document
  | [] => []
  | item :: rest => sanitizeValue r dropContentKeys item :: sanitizeItems r dropContentKeys rest

def sanitizeMapping (r : Redaction) (dropContentKeys : Bool) : List (Text × Document) → List (Text × Document)
  | [] => []
  | (key,item) :: rest =>
    let later := sanitizeMapping r dropContentKeys rest
    if dropContentKeys && isContentKey key then later
    else if isSensitiveKey key then
      if dropContentKeys then later else (key,.str (text "***")) :: later
    else (key,sanitizeValue r dropContentKeys item) :: later
end

variable (r : Redaction)

theorem sanitizedKey {fields : List (Text × Document)} {entry : Text × Document}
    (mem : entry ∈ sanitizeMapping r true fields) : isSensitiveKey entry.1 = false := by
  induction fields with
  | nil => simp [sanitizeMapping] at mem
  | cons field rest ih =>
    obtain ⟨key,item⟩ := field
    simp only [sanitizeMapping,Bool.true_and] at mem
    split_ifs at mem with content sensitive
    · exact ih mem
    · exact ih mem
    · rcases List.mem_cons.mp mem with rfl | later
      · simpa using sensitive
      · exact ih later

theorem sanitizedDrops {fields : Fields} {key : Text} (sensitive : isSensitiveKey key = true) :
    Fields.get (sanitizeMapping r true fields) key = .null := by
  have absent : Fields.get? (sanitizeMapping r true fields) key = none := by
    rw [Fields.getNone]
    intro mem
    obtain ⟨entry,inside,same⟩ := List.mem_map.mp mem
    have plain := sanitizedKey r inside
    rw [same,sensitive] at plain
    cases plain
  rw [Fields.get,absent]
  rfl

end SlaifGateway.Billing
