import SlaifGateway.Library.Json
import SlaifGateway.Store.Schema
import Mathlib.Data.List.TakeWhile
import Mathlib.Data.Nat.Digits.Lemmas
import Mathlib.Data.Rat.Floor
import Mathlib.Tactic.Linarith

/-! Decimal text of a proposal. The bound of the money columns is read off the digits and
the exponent of the parsed value, before any arithmetic. -/
namespace SlaifGateway.Catalog.DecimalText
open Library
open Store (strip)

def moneyMaxIntegerDigits : ℤ := 9
def moneyMaxFractionDigits : ℤ := 9

-- `as_tuple()` of a finite decimal.
structure DecimalTuple where
  sign : Bool
  digits : List (Fin 10)
  exponent : ℤ
  normal : digits.head? = some 0 → digits = [0]

inductive Parsed where
  | finite (value : DecimalTuple)
  | special

namespace DecimalTuple
variable (t : DecimalTuple)

def coefficient : ℕ := Nat.ofDigits 10 (t.digits.reverse.map Fin.val)

def value : ℚ := (if t.sign then -1 else 1) * t.coefficient * 10 ^ t.exponent

def trailing : ℕ := (t.digits.reverse.takeWhile (· = 0)).length

def significant : List (Fin 10) := if t.trailing ≠ 0 then t.digits.take (t.digits.length - t.trailing) else t.digits

def boundExponent : ℤ := if t.trailing ≠ 0 then t.exponent + t.trailing else t.exponent

def integerDigits : ℤ :=
  if t.significant = [] then 0
  else if 0 ≤ t.boundExponent then t.significant.length + t.boundExponent
  else max 0 (t.significant.length + t.boundExponent)

def fractionDigits : ℤ := if t.significant = [] then 0 else max 0 (-t.boundExponent)

end DecimalTuple

def checkTuple (field : String) (nonNegative : Bool) (t : DecimalTuple) : Except String Unit :=
  if moneyMaxIntegerDigits < t.integerDigits then
    .error (field ++ " exceeds the database Numeric(18,9) magnitude bound")
  else if moneyMaxFractionDigits < t.fractionDigits then
    .error (field ++ " exceeds 9 decimal places (database Numeric(18,9))")
  else if nonNegative && t.value < 0 then .error (field ++ " must be non-negative")
  else .ok ()

-- `decimal` is the constructor; without a value it raises `InvalidOperation`.
def parseDecimalText (decimal : String → Option Parsed) (raw : Json) (field : String) (nonNegative : Bool) :
    Except String String :=
  match raw with
  | .str s =>
    let text := strip s
    match decimal text with
    | none => .error (field ++ " is not a finite decimal: " ++ field)
    | some .special => .error (field ++ " must be finite")
    | some (.finite t) => (checkTuple field nonNegative t).map fun _ => text
  | _ => .error (field ++ " must be an exact decimal string (floats are rejected)")

section Bounds
variable {m L : ℕ} {e : ℤ}

theorem magnitudeBelow (lower : 10 ^ L ≤ 10 * m) (upper : m < 10 ^ L) :
    (m : ℚ) * 10 ^ e < 10 ^ 9 ↔ (L : ℤ) + e ≤ 9 := by
  have ten : (10 : ℚ) ≠ 0 := by norm_num
  have scale : (0 : ℚ) < 10 ^ e := zpow_pos (by norm_num) e
  constructor
  · intro below
    by_contra long
    have low : (10 : ℚ) ^ L ≤ 10 * m := by exact_mod_cast lower
    have far : (10 : ℚ) ^ (10 : ℤ) ≤ 10 ^ ((L : ℤ) + e) := zpow_le_zpow_right₀ (by norm_num) (by omega)
    have above : (10 : ℚ) ^ ((L : ℤ) + e) ≤ 10 * (m * 10 ^ e) := by
      rw [zpow_add₀ ten,zpow_natCast,← mul_assoc]
      exact mul_le_mul_of_nonneg_right low scale.le
    have bound : (10 : ℚ) ^ (10 : ℤ) = 10 * 10 ^ 9 := by norm_num
    linarith
  · intro short
    have high : (m : ℚ) < 10 ^ L := by exact_mod_cast upper
    calc (m : ℚ) * 10 ^ e < 10 ^ L * 10 ^ e := mul_lt_mul_of_pos_right high scale
      _ = 10 ^ ((L : ℤ) + e) := by rw [zpow_add₀ ten,zpow_natCast]
      _ ≤ 10 ^ (9 : ℤ) := zpow_le_zpow_right₀ (by norm_num) short
      _ = 10 ^ 9 := by norm_num

theorem scaledInteger (reduced : m % 10 ≠ 0) : (∃ k : ℤ, (m : ℚ) * 10 ^ e * 10 ^ 9 = k) ↔ -9 ≤ e := by
  have ten : (10 : ℚ) ≠ 0 := by norm_num
  have joined : (m : ℚ) * 10 ^ e * 10 ^ 9 = m * 10 ^ (e + 9) := by
    rw [zpow_add₀ ten,mul_assoc]
    norm_num
  rw [joined]
  constructor
  · rintro ⟨k,whole⟩
    by_contra fine
    obtain ⟨n,rfl⟩ : ∃ n : ℕ, e = -9 - (n + 1) := ⟨(-10 - e).toNat,by omega⟩
    have cleared : (m : ℚ) = k * 10 ^ (n + 1) := by
      rw [← whole,show (-9 - ((n : ℤ) + 1) + 9) = -((n + 1 : ℕ) : ℤ) by push_cast; ring,zpow_neg,zpow_natCast,mul_assoc,
        inv_mul_cancel₀ (pow_ne_zero _ ten),mul_one]
    have exactly : (m : ℤ) = k * 10 ^ (n + 1) := by exact_mod_cast cleared
    have divides : (10 : ℤ) ∣ m := ⟨k * 10 ^ n,by rw [exactly]; ring⟩
    omega
  · intro coarse
    obtain ⟨n,within⟩ : ∃ n : ℕ, e + 9 = n := ⟨(e + 9).toNat,by omega⟩
    refine ⟨m * 10 ^ n,?_⟩
    rw [within,zpow_natCast]
    push_cast
    rfl

end Bounds

namespace DecimalTuple
variable {t : DecimalTuple}

theorem zerosTrail : t.digits.reverse.takeWhile (· = 0) = List.replicate t.trailing 0 := by
  refine List.eq_replicate_iff.mpr ⟨rfl,fun d mem => ?_⟩
  have zero := List.mem_takeWhile_imp (p := fun x : Fin 10 => decide (x = 0)) mem
  exact of_decide_eq_true zero

theorem zerosOff : t.significant = (t.digits.reverse.dropWhile (· = 0)).reverse := by
  have whole : t.digits = (t.digits.reverse.dropWhile (· = 0)).reverse ++ List.replicate t.trailing 0 := by
    have split := congrArg List.reverse (List.takeWhile_append_dropWhile (p := (· = 0)) (l := t.digits.reverse))
    rw [zerosTrail,List.reverse_append,List.reverse_replicate,List.reverse_reverse] at split
    exact split.symm
  unfold significant
  split_ifs with some
  · have length := congrArg List.length whole
    rw [List.length_append,List.length_replicate] at length
    conv_lhs => rw [whole]
    exact List.take_left' (by rw [← whole]; omega)
  · rw [not_not] at some
    rwa [some,List.replicate_zero,List.append_nil] at whole

theorem digitsSplit : t.digits.reverse = List.replicate t.trailing 0 ++ t.significant.reverse := by
  rw [← zerosTrail,zerosOff,List.reverse_reverse,List.takeWhile_append_dropWhile]

-- The digits left after the zeros, read from the last one.
def tail (t : DecimalTuple) : List ℕ := t.significant.reverse.map Fin.val

theorem tailBelow : ∀ d ∈ t.tail, d < 10 := by
  intro d mem
  obtain ⟨digit,_,rfl⟩ := List.mem_map.mp mem
  exact digit.isLt

theorem coefficientTail : t.coefficient = 10 ^ t.trailing * Nat.ofDigits 10 t.tail := by
  have zeros : Nat.ofDigits 10 (List.replicate t.trailing 0) = 0 := by
    induction t.trailing with
    | zero => rfl
    | succ n ih => rw [List.replicate_succ,Nat.ofDigits_cons,ih]
  unfold coefficient tail
  rw [digitsSplit,List.map_append,List.map_replicate,Nat.ofDigits_append,List.length_replicate]
  change Nat.ofDigits 10 (List.replicate t.trailing 0) + _ = _
  rw [zeros,Nat.zero_add]

theorem boundExponentEq : t.boundExponent = t.exponent + t.trailing := by
  unfold boundExponent
  split_ifs with some
  · rfl
  · rw [not_not] at some
    rw [some]
    simp

theorem valueTail : t.value = (if t.sign then -1 else 1) * (Nat.ofDigits 10 t.tail : ℕ) * 10 ^ t.boundExponent := by
  rw [value,coefficientTail,boundExponentEq,zpow_add₀ (by norm_num),zpow_natCast]
  push_cast
  ring

theorem valueAbs : |t.value| = (Nat.ofDigits 10 t.tail : ℕ) * 10 ^ t.boundExponent := by
  have scale : (0 : ℚ) ≤ 10 ^ t.boundExponent := (zpow_pos (by norm_num) _).le
  rw [valueTail,abs_mul,abs_mul,abs_of_nonneg scale,Nat.abs_cast]
  split <;> simp

theorem tailLength : t.tail.length = t.significant.length := by simp [tail]

section Digits
variable (some : t.significant ≠ [])
include some

theorem tailSome : t.tail ≠ [] := by simpa [tail] using some

-- The last digit left is no zero: the zeros were taken off.
theorem tailReduced : Nat.ofDigits 10 t.tail % 10 ≠ 0 := by
  have shape : t.tail = (t.digits.reverse.dropWhile (· = 0)).map Fin.val := by
    rw [tail,zerosOff,List.reverse_reverse]
  have stays := tailSome some
  rw [shape] at stays ⊢
  cases left : t.digits.reverse.dropWhile (· = 0) with
  | nil => simp [left] at stays
  | cons d rest =>
    have head := List.head_dropWhile_not (p := fun x : Fin 10 => decide (x = 0)) (l := t.digits.reverse)
      (by rw [left]; exact List.cons_ne_nil _ _)
    simp only [left,List.head_cons,decide_eq_false_iff_not] at head
    have below := d.isLt
    have digit : d.val ≠ 0 := fun zero => head (Fin.ext zero)
    rw [List.map_cons,Nat.ofDigits_cons]
    omega

-- The first digit is no zero: only zero itself starts with one.
theorem tailLeads : t.tail.getLast (tailSome some) ≠ 0 := by
  intro zero
  have whole : t.digits = t.significant ++ List.replicate t.trailing 0 := by
    have split := congrArg List.reverse (digitsSplit (t := t))
    rwa [List.reverse_reverse,List.reverse_append,List.reverse_replicate,List.reverse_reverse] at split
  cases lead : t.significant with
  | nil => exact some lead
  | cons d rest =>
    have first : d = 0 := by
      simp only [tail,lead,List.reverse_cons,List.map_append,List.map_cons,List.map_nil,List.getLast_append_singleton] at zero
      exact Fin.ext zero
    have only := t.normal (by rw [whole,lead,first]; rfl)
    have gone := zerosOff (t := t)
    rw [only] at gone
    exact some gone

theorem tailLower : 10 ^ t.significant.length ≤ 10 * Nat.ofDigits 10 t.tail := by
  rw [← tailLength]
  exact Nat.pow_length_le_mul_ofDigits (tailSome some) (tailLeads some)

omit some in
theorem tailUpper : Nat.ofDigits 10 t.tail < 10 ^ t.significant.length := by
  rw [← tailLength]
  exact Nat.ofDigits_lt_base_pow_length (by norm_num) tailBelow

end Digits

theorem integerDigitsFit : t.integerDigits ≤ moneyMaxIntegerDigits ↔ |t.value| < 10 ^ 9 := by
  rw [valueAbs]
  unfold integerDigits moneyMaxIntegerDigits
  by_cases none : t.significant = []
  · simp [none,tail]
  · rw [if_neg none,magnitudeBelow (tailLower none) tailUpper]
    split_ifs <;> omega

theorem fractionDigitsFit : t.fractionDigits ≤ moneyMaxFractionDigits ↔ ∃ k : ℤ, t.value * 10 ^ 9 = k := by
  unfold fractionDigits moneyMaxFractionDigits
  by_cases none : t.significant = []
  · rw [if_pos none]
    refine ⟨fun _ => ⟨0,?_⟩,fun _ => by norm_num⟩
    simp [valueTail,tail,none]
  · rw [if_neg none]
    have scaled := scaledInteger (e := t.boundExponent) (tailReduced none)
    have signed : (∃ k : ℤ, t.value * 10 ^ 9 = k) ↔
        ∃ k : ℤ, (Nat.ofDigits 10 t.tail : ℕ) * (10 : ℚ) ^ t.boundExponent * 10 ^ 9 = k := by
      rw [valueTail]
      split
      · constructor <;> rintro ⟨k,whole⟩ <;> refine ⟨-k,?_⟩ <;> rw [Int.cast_neg,← whole] <;> ring
      · simp
    rw [signed,scaled]
    omega

end DecimalTuple

theorem checkTupleIff {field : String} {nonNegative : Bool} {t : DecimalTuple} : checkTuple field nonNegative t = .ok () ↔
    |t.value| < 10 ^ 9 ∧ (∃ k : ℤ, t.value * 10 ^ 9 = k) ∧ (nonNegative = true → 0 ≤ t.value) := by
  rw [← t.integerDigitsFit,← t.fractionDigitsFit]
  unfold checkTuple
  split_ifs with large fine negative <;> simp_all

-- The text itself is kept as it was spelled.
theorem parseDecimalIff {decimal : String → Option Parsed} {s field : String} {nonNegative : Bool} {t : DecimalTuple}
    (parsed : decimal (strip s) = some (.finite t)) {text : String} :
    parseDecimalText decimal (.str s) field nonNegative = .ok text ↔
      text = strip s ∧ checkTuple field nonNegative t = .ok () := by
  unfold parseDecimalText
  simp only [parsed]
  cases checkTuple field nonNegative t with
  | error e => simp [Except.map]
  | ok u => simp [Except.map,eq_comm]

theorem acceptsStorable (field : String) (nonNegative : Bool) (t : DecimalTuple) :
    (checkTuple field nonNegative t = .ok () ↔
      |t.value| < 10 ^ 9 ∧ (∃ k : ℤ, t.value * 10 ^ 9 = k) ∧ (nonNegative = true → 0 ≤ t.value)) ∧
    ∀ u : DecimalTuple, u.value = t.value →
      (checkTuple field nonNegative u = .ok () ↔ checkTuple field nonNegative t = .ok ()) := by
  refine ⟨checkTupleIff,fun u same => ?_⟩
  rw [checkTupleIff,checkTupleIff,same]

end SlaifGateway.Catalog.DecimalText
