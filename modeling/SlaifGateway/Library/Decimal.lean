import Mathlib.Data.Int.Log
import Mathlib.Data.Rat.Floor
import Mathlib.Algebra.Order.Round

/-! Decimal arithmetic at a fixed precision: a value is rounded half even to a number of
significant digits by every operation, and half away from zero to a number of fractional
digits when it is written. Exponent limits, infinities and signed zeros are absent. -/
namespace SlaifGateway.Library.Decimal

def halfEven (x : ℚ) : ℤ :=
  if Int.fract x < 1 / 2 then ⌊x⌋
  else if 1 / 2 < Int.fract x then ⌊x⌋ + 1
  else if ⌊x⌋ % 2 = 0 then ⌊x⌋ else ⌊x⌋ + 1

def halfAway (x : ℚ) : ℤ := if 0 ≤ x then ⌊x + 1 / 2⌋ else -⌊-x + 1 / 2⌋

/-- The unit of the last of `precision` significant digits of `x`. -/
def quantum (precision : ℕ) (x : ℚ) : ℚ := 10 ^ (Int.log 10 |x| - (precision - 1))

def roundTo (precision : ℕ) (x : ℚ) : ℚ :=
  if x = 0 then 0 else halfEven (x / quantum precision x) * quantum precision x

def atScale (scale : ℕ) (x : ℚ) : ℚ := halfAway (x * 10 ^ scale) / 10 ^ scale
end SlaifGateway.Library.Decimal
