import SlaifGateway.Capture.Secrets
import SlaifGateway.Library.Spelling
import Mathlib.Data.List.Sort

/-! The single-pass masker. Each secret has three patterns: its bytes, its characters raw or
JSON-escaped, its bytes raw or percent-encoded; the longest secrets are tried first. -/
namespace SlaifGateway.Capture
open Library

def maxSecretValues : Nat := 256
def maxSecretBytes : Nat := 65536
def maxTotalPatternBytes : Nat := 1048576

def fullyRedacted : Bytes := ascii "[REDACTED]"

section Patterns

def lowerDigit (n : Nat) : UInt8 := (if n < 10 then 48 + n else 87 + n).toUInt8

def upperDigit (n : Nat) : UInt8 := (if n < 10 then 48 + n else 55 + n).toUInt8

-- A backslash, a `u` and four digits in lower case.
def unicodeForm (unit : Nat) : Bytes :=
  [92,117,lowerDigit (unit / 4096 % 16),lowerDigit (unit / 256 % 16),lowerDigit (unit / 16 % 16),lowerDigit (unit % 16)]

def jsonOptions (c : CodePoint) : List Bytes :=
  let raw := (encodePoint c).getD []
  let escaped :=
    if c.val < 0x10000 then unicodeForm c.val
    else unicodeForm (0xD800 + (c.val - 0x10000) / 1024) ++ unicodeForm (0xDC00 + (c.val - 0x10000) % 1024)
  let short :=
    if c.val = 34 then [[92,34]] else if c.val = 92 then [[92,92]] else if c.val = 47 then [[92,47]] else []
  (raw :: escaped :: short).eraseDups

def percentOptions (b : UInt8) : List Bytes :=
  [[b],[37,upperDigit (b.toNat / 16),upperDigit (b.toNat % 16)],
    [37,lowerDigit (b.toNat / 16),lowerDigit (b.toNat % 16)]].eraseDups

-- A pattern is its positions, each with the byte strings that may stand there.
abbrev Positions := List (List Bytes)

def rawPositions (secret : Bytes) : Positions := secret.map fun b => [[b]]

def jsonPositions (secret : Bytes) : Positions := (decodeLatin secret).map jsonOptions

def percentPositions (secret : Bytes) : Positions := secret.map percentOptions

-- What `re.escape` puts a backslash before: brackets and operators, `&~#` and white space.
def specialBytes : Bytes := [40,41,91,93,123,125,63,42,43,45,124,94,36,92,46,38,126,35,32,9,10,13,11,12]

def escapeBytes (bytes : Bytes) : Bytes := bytes.flatMap fun b => if b ∈ specialBytes then [92,b] else [b]

-- The parts between `(?:` and `)`, with `|` between them.
def group (parts : List Bytes) : Bytes := [40,63,58] ++ [124].intercalate parts ++ [41]

def positionText : List Bytes → Bytes
  | [one] => escapeBytes one
  | options => group (options.map escapeBytes)

def patternText (positions : Positions) : Bytes := positions.flatMap positionText

def addPattern (patterns : List Positions) (positions : Positions) : List Positions :=
  if patternText positions ∈ patterns.map patternText then patterns else patterns ++ [positions]

def secretPatterns (secret : Bytes) : List Positions :=
  addPattern (addPattern [rawPositions secret] (jsonPositions secret)) (percentPositions secret)
end Patterns

structure Entry where
  secret : Bytes
  patterns : List Positions
  replacement : Bytes

namespace Entry

def fragmentText (e : Entry) : Bytes := group (e.patterns.map patternText)

def pattern (e : Entry) : Pattern UInt8 := Pattern.firstOf (e.patterns.map Pattern.inTurn)

-- The fragment between `^` and `$`, which a last line feed may follow.
def matchesWhole (e : Entry) (data : Bytes) : Bool := (e.pattern.run none data).any fun way => way.2 = [] || way.2 = [10]
end Entry

def entriesOf : List (Bytes × Bytes) → Except Failure (List Entry)
  | [] => .ok []
  | (secret,replacement) :: rest =>
    if secret.isEmpty then entriesOf rest
    else if maxSecretBytes < secret.length then .error .captureRedaction
    else (entriesOf rest).map (⟨secret,secretPatterns secret,replacement⟩ :: ·)

structure Masker where
  entries : List Entry

namespace Masker
variable (m : Masker)

def pattern : Pattern UInt8 := Pattern.firstOf (m.entries.map Entry.pattern)

-- `_sub`
def replace (data : Bytes) : Bytes := ((m.entries.find? (Entry.matchesWhole · data)).map Entry.replacement).getD data

def mask (data : Bytes) : Bytes := m.pattern.sub m.replace data
end Masker

def byLength (a b : Entry) : Prop := b.secret.length ≤ a.secret.length

instance (a b : Entry) : Decidable (byLength a b) := inferInstanceAs (Decidable (_ ≤ _))

def buildCaptureMasker (secrets : List (Bytes × Bytes)) : Except Failure (Option Masker) := do
  let entries ← entriesOf secrets
  if entries.isEmpty then return none
  else if maxSecretValues < entries.length then .error .captureRedaction
  else
    let sorted := entries.insertionSort byLength
    if maxTotalPatternBytes < ([124].intercalate (sorted.map Entry.fragmentText)).length then
      .error .captureRedaction
    else return some ⟨sorted⟩
end SlaifGateway.Capture
