import Mathlib.Data.List.Basic
import Mathlib.Algebra.GroupWithZero.Nat

/-! Text as a list of code points, lone surrogates included, with the strict UTF-8 encoding
that refuses them. -/
namespace SlaifGateway.Library

abbrev CodePoint := Fin 0x110000
abbrev Text := List CodePoint

instance pointNeZero : NeZero 0x110000 := ⟨by decide⟩

instance pointLawful : LawfulBEq CodePoint := inferInstance

instance textLawful : LawfulBEq Text := inferInstance

theorem charBelow (c : Char) : c.toNat < 0x110000 := by
  have valid := c.valid
  simp only [UInt32.isValidChar,Nat.isValidChar] at valid
  change c.val.toNat < _
  omega

def text (s : String) : Text := s.toList.map fun c => ⟨c.toNat,charBelow c⟩

theorem textInj {a b : String} : text a = text b ↔ a = b := by
  refine ⟨fun same => ?_,congrArg text⟩
  have points : Function.Injective fun c : Char => (⟨c.toNat,charBelow c⟩ : CodePoint) := by
    intro c d equal
    exact Char.ext (UInt32.toNat_inj.mp (Fin.mk.inj equal))
  exact String.toList_inj.mp (List.map_injective_iff.mpr points same)

def isSurrogate (c : CodePoint) : Bool := 0xD800 ≤ c.val && c.val ≤ 0xDFFF

def encodePoint (c : CodePoint) : Option (List UInt8) :=
  if c.val < 0x80 then some [c.val.toUInt8]
  else if c.val < 0x800 then some [(0xC0 + c.val / 64).toUInt8,(0x80 + c.val % 64).toUInt8]
  else if isSurrogate c then none
  else if c.val < 0x10000 then
    some [(0xE0 + c.val / 4096).toUInt8,(0x80 + c.val / 64 % 64).toUInt8,(0x80 + c.val % 64).toUInt8]
  else
    some [(0xF0 + c.val / 262144).toUInt8,(0x80 + c.val / 4096 % 64).toUInt8,(0x80 + c.val / 64 % 64).toUInt8,
      (0x80 + c.val % 64).toUInt8]

def encode : Text → Option (List UInt8)
  | [] => some []
  | c :: rest => do
    let head ← encodePoint c
    let tail ← encode rest
    some (head ++ tail)

theorem encodePointNone {c : CodePoint} : encodePoint c = none ↔ isSurrogate c := by
  have low : c.val < 0x800 → isSurrogate c = false := by
    intro below
    simp only [isSurrogate,Bool.and_eq_false_iff,decide_eq_false_iff_not]
    omega
  unfold encodePoint
  split_ifs with one two bad three
  · simpa using low (by omega)
  · simpa using low two
  · simpa using bad
  · simpa using bad
  · simpa using bad

theorem encodeNil : encode [] = some [] := rfl

theorem encodeAppend (s t : Text) :
    encode (s ++ t) = (encode s).bind fun a => (encode t).map (a ++ ·) := by
  induction s with
  | nil => simp [encode]
  | cons c rest ih =>
    simp only [List.cons_append,encode,ih]
    cases encodePoint c <;> cases encode rest <;> cases encode t <;> simp

theorem encodeIsSome {t : Text} : (encode t).isSome ↔ ∀ c ∈ t, isSurrogate c = false := by
  induction t with
  | nil => simp [encode]
  | cons c rest ih =>
    have head : (encodePoint c).isSome ↔ isSurrogate c = false := by
      rw [Option.isSome_iff_ne_none,ne_eq,encodePointNone]
      simp
    rw [List.forall_mem_cons,← ih,← head]
    simp only [encode]
    cases encodePoint c <;> cases encode rest <;> simp

theorem textPlain {s : String} (ascii : (text s).all fun c => decide (c.val < 128)) :
    ∀ c ∈ text s, isSurrogate c = false := by
  intro c mem
  have low := List.all_eq_true.mp ascii c mem
  simp only [decide_eq_true_eq] at low
  simp only [isSurrogate,Bool.and_eq_false_iff,decide_eq_false_iff_not]
  omega

-- A text without lone surrogates, which UTF-8 can encode.
def plainText (t : Text) : Bool := t.all fun c => !isSurrogate c

theorem plainEncodes {t : Text} (plain : plainText t = true) : ((encode t).map List.length).isSome := by
  rw [Option.isSome_map]
  exact encodeIsSome.mpr (by simpa [plainText] using plain)

theorem plainAppend {t u : Text} (first : plainText t = true) (second : plainText u = true) : plainText (t ++ u) = true := by
  unfold plainText at *
  rw [List.all_append,first,second]
  rfl

def contains (part whole : Text) : Bool :=
  match whole with
  | [] => part.isEmpty
  | _ :: rest => part.isPrefixOf whole || contains part rest

-- The code points whose lower case has an ASCII letter; every other one is left as it is.
def lowerPoint (c : CodePoint) : Text :=
  if 65 ≤ c.val ∧ c.val ≤ 90 then [Fin.ofNat _ (c.val + 32)]
  else if c.val = 0x212A then [107]
  else if c.val = 0x130 then [105,0x307]
  else [c]

def lower (t : Text) : Text := t.flatMap lowerPoint

end SlaifGateway.Library
