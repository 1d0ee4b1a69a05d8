import SlaifGateway.Library.Pattern
import SlaifGateway.Store.Schema

/-! `redact_text`: four substitutions, one after the other, of what looks like a secret. `alnum` is
`str.isalnum` on code points beyond ASCII. -/
namespace SlaifGateway.Store
open Library

section Classes

def letter (c : Char) : Bool := ('a' ≤ c && c ≤ 'z') || ('A' ≤ c && c ≤ 'Z')

def digit (c : Char) : Bool := '0' ≤ c && c ≤ '9'

def oneOf (chars : String) (c : Char) : Bool := chars.toList.contains c

def plainClass (extra : String) (c : Char) : Bool := letter c || digit c || oneOf extra c

-- Letters outside ASCII that IGNORECASE takes for i, s and k.
def caselessLetter (c : Char) : Bool := letter c || c = 'ı' || c = 'İ' || c = 'ſ' || c = '\u212A'

def caselessClass (extra : String) (c : Char) : Bool := caselessLetter c || digit c || oneOf extra c

def caseless (expected : Char) (c : Char) : Bool :=
  c = expected || c = expected.toUpper || (expected = 'i' && (c = 'ı' || c = 'İ')) || (expected = 's' && c = 'ſ') ||
    (expected = 'k' && c = '\u212A')

def word (alnum : Char → Bool) (c : Char) : Bool :=
  if c.toNat < 128 then letter c || digit c || c = '_' else alnum c

end Classes

section Patterns
variable (alnum : Char → Bool)

def boundary : Pattern Char :=
  .look fun before input => (before.map (word alnum)).getD false != (input.head?.map (word alnum)).getD false

def literal : List Char → Pattern Char → Pattern Char
  | [],rest => rest
  | c :: more,rest => .seq (.char (· = c)) (literal more rest)

def caselessLiteral : List Char → Pattern Char → Pattern Char
  | [],rest => rest
  | c :: more,rest => .seq (.char (caseless c)) (caselessLiteral more rest)

def bearerScheme : Pattern Char :=
  .seq (boundary alnum) (.seq (.char (caseless 'b')) (caselessLiteral "eare".toList (.char (caseless 'r'))))

def bearerToken : Pattern Char :=
  .seq (.many 1 none isSpace) (.many 8 none (caselessClass "._~+/=-"))

def gatewayKeyText : Pattern Char :=
  .seq (boundary alnum) (.seq (.char (caseless 's')) (caselessLiteral "k-".toList
    (.seq (.many 1 none (caselessClass "-")) (.seq (.char (· = '-'))
      (.seq (.many 4 (some 64) (caselessClass "_-")) (.seq (.char (· = '.'))
        (.seq (.many 8 none (caselessClass "._~+/=-")) (boundary alnum))))))))

def providerKey : Pattern Char :=
  .seq (boundary alnum) (.alt
    (.seq (.char (· = 's')) (literal "k-".toList (.seq
      (.alt (literal "proj".toList (.char (· = '-'))) (literal "or".toList (.char (· = '-'))))
      (.many 10 none (plainClass "._-")))))
    (.alt (.seq (.char (· = 's')) (literal "k-".toList (.many 20 none (plainClass ""))))
      (.seq (.char (· = 's')) (literal "k-".toList (.seq (.many 12 none (plainClass "-"))
        (.look fun _ input => !(input.head?.map (plainClass "_.-")).getD false))))))

def optionalJoint : Pattern Char := .many 0 (some 1) (oneOf "_-")

-- A field name of one or more words, which an underscore or a hyphen may join.
def nameOf : List String → Pattern Char
  | [] => .look fun _ _ => true
  | [last] => caselessLiteral last.toList (.look fun _ _ => true)
  | part :: more => caselessLiteral part.toList (.seq optionalJoint (nameOf more))

def sensitiveNames : List (List String) :=
  [["api","key"],["provider","key"],["gateway","key"],["plaintext","key"],["new","plaintext","key"],["authorization"],
    ["cookie"],["access","token"],["refresh","token"],["session","token"],["csrf","token"],["token","hash"],
    ["encrypted","payload"],["nonce"],["password"],["secret"],["token"]]

def anyName : List (List String) → Pattern Char
  | [] => .look fun _ _ => false
  | name :: more => .alt (nameOf name) (anyName more)

def assignedName : Pattern Char := .seq (boundary alnum) (anyName sensitiveNames)

def assignedValue : Pattern Char :=
  .seq (.char (· = '=')) (.many 1 none fun c => !(isSpace c || oneOf "&;," c))

end Patterns

section GatewayKeys

def defaultGatewayKeyPrefix : List Char := "sk-slaif-".toList

def secretTokenBytes : ℕ := 43

-- `parse_gateway_key_public_id` with the default prefix.
def parseGatewayKeyPublicId (key : List Char) : Option (List Char) := do
  let payload ← if defaultGatewayKeyPrefix.isPrefixOf key then some (key.drop defaultGatewayKeyPrefix.length) else none
  let publicId := payload.takeWhile (· ≠ '.')
  let secret ← if '.' ∈ payload then some (payload.drop (publicId.length + 1)) else none
  if publicId ≠ [] ∧ 8 ≤ publicId.length ∧ publicId.length ≤ 64 ∧ publicId.all (plainClass "_-") ∧
      secretTokenBytes ≤ secret.length then some publicId
  else none

def genericPrefix (alnum : Char → Bool) : Pattern Char :=
  .seq (boundary alnum) (caselessLiteral "sk-".toList (.seq (.many 1 none (caselessClass "-")) (.char (· = '-'))))

def genericPublicId : Pattern Char := .many 4 (some 64) (caselessClass "_-")

def genericSecret (alnum : Char → Bool) : Pattern Char :=
  .seq (.char (· = '.')) (.seq (.many 8 none (caselessClass "._~+/=-")) (boundary alnum))

-- The shape of a key that the generic pattern matches whole: prefix and public id.
def genericKey (alnum : Char → Bool) (key : List Char) : Option (List Char) :=
  let ways := ((genericPrefix alnum).run none key).flatMap fun front =>
    (genericPublicId.run front.1.getLast? front.2).flatMap fun named =>
      ((genericSecret alnum).run (named.1.getLast?.or front.1.getLast?) named.2).map fun last => (front.1 ++ named.1,last.2)
  ways.head?.bind fun way => if way.2 = [] then some way.1 else none

def redactGatewayKey (alnum : Char → Bool) (key : List Char) : List Char :=
  match parseGatewayKeyPublicId key with
  | some publicId => defaultGatewayKeyPrefix ++ publicId ++ ".***".toList
  | none => ((genericKey alnum key).map (· ++ ".***".toList)).getD "<redacted>".toList

end GatewayKeys

section Redaction
variable (alnum : Char → Bool)

def redacted : List Char := "***".toList

def redactBearer (t : List Char) : List Char :=
  (Pattern.seq (bearerScheme alnum) bearerToken).sub (fun found => found.take 6 ++ ' ' :: redacted) t

def redactGatewayKeys (t : List Char) : List Char := (gatewayKeyText alnum).sub (redactGatewayKey alnum) t

def redactProviderKeys (t : List Char) : List Char := (providerKey alnum).sub (fun _ => redacted) t

-- The name is what stands before the first equality sign.
def redactAssignments (t : List Char) : List Char :=
  (Pattern.seq (assignedName alnum) assignedValue).sub (fun found => found.takeWhile (· ≠ '=') ++ '=' :: redacted) t

def redactText (value : String) : String :=
  String.ofList (redactAssignments alnum (redactProviderKeys alnum (redactGatewayKeys alnum (redactBearer alnum value.toList))))

theorem redactPlain {alnum : Char → Bool} {value : String}
    (plain : ∀ c ∈ value.toList, c ≠ '=' ∧ caseless 'b' c = false ∧ caseless 's' c = false) :
    redactText alnum value = value := by
  have bearer : Pattern.Needs (caseless 'b' · = true) (.seq (bearerScheme alnum) bearerToken) :=
    Pattern.needsFirst (Pattern.needsSecond (Pattern.needsFirst (Pattern.needsChar fun _ held => held)))
  have gateway : Pattern.Needs (caseless 's' · = true) (gatewayKeyText alnum) :=
    Pattern.needsSecond (Pattern.needsFirst (Pattern.needsChar fun _ held => held))
  have start : ∀ rest, Pattern.Needs (caseless 's' · = true) (.seq (.char (· = 's')) rest) := by
    intro rest
    refine Pattern.needsFirst (Pattern.needsChar fun c held => ?_)
    rw [of_decide_eq_true held]
    rfl
  have provider : Pattern.Needs (caseless 's' · = true) (providerKey alnum) :=
    Pattern.needsSecond (Pattern.needsAlt (start _) (Pattern.needsAlt (start _) (start _)))
  have assignment : Pattern.Needs (· = '=') (.seq (assignedName alnum) assignedValue) :=
    Pattern.needsSecond (Pattern.needsFirst (Pattern.needsChar fun _ held => of_decide_eq_true held))
  unfold redactText redactBearer redactGatewayKeys redactProviderKeys redactAssignments
  rw [Pattern.subKept bearer _ fun c mem => by simp [(plain c mem).2.1],
    Pattern.subKept gateway _ fun c mem => by simp [(plain c mem).2.2],
    Pattern.subKept provider _ fun c mem => by simp [(plain c mem).2.2],
    Pattern.subKept assignment _ fun c mem => (plain c mem).1]
  exact String.ofList_toList

end Redaction

end SlaifGateway.Store
