import SlaifGateway.Library.Decimal
import Mathlib.Tactic.Linarith
import Mathlib.Tactic.Positivity
import Mathlib.Tactic.FieldSimp
import Mathlib.Tactic.GCongr
import Mathlib.Tactic.Ring

/-! Laws of rounding to a number of significant digits: values that fit are kept, the sign and zero
are kept, and one rounding moves a value by at most half a unit of its last digit. -/
namespace SlaifGateway.Library.Decimal

section Integers

theorem halfEvenInt (n : ℤ) : halfEven n = n := by
  unfold halfEven
  rw [if_pos (by rw [Int.fract_intCast]; norm_num),Int.floor_intCast]

theorem halfEvenNear (x : ℚ) : |(halfEven x : ℚ) - x| ≤ 1 / 2 := by
  have split := Int.floor_add_fract x
  have nonneg := Int.fract_nonneg x
  have below := Int.fract_lt_one x
  unfold halfEven
  rw [abs_le]
  split_ifs with small large even
  · constructor <;> linarith
  · push_cast
    constructor <;> linarith
  · constructor <;> linarith
  · push_cast
    constructor <;> linarith

theorem halfEvenNonneg {x : ℚ} (nonneg : 0 ≤ x) : 0 ≤ halfEven x := by
  have near := (abs_le.mp (halfEvenNear x)).1
  by_contra negative
  have least : halfEven x ≤ -1 := by omega
  have least' : (halfEven x : ℚ) ≤ -1 := by exact_mod_cast least
  linarith

end Integers

section Rounding
variable {precision : ℕ} {x y : ℚ}

theorem quantumPositive (precision : ℕ) (x : ℚ) : 0 < quantum precision x := by
  unfold quantum
  exact zpow_pos (by norm_num) _

theorem roundNonneg (nonneg : 0 ≤ x) : 0 ≤ roundTo precision x := by
  unfold roundTo
  split_ifs
  · exact le_refl 0
  · have unit := quantumPositive precision x
    have integer : (0 : ℚ) ≤ halfEven (x / quantum precision x) := by
      exact_mod_cast halfEvenNonneg (div_nonneg nonneg unit.le)
    exact mul_nonneg integer unit.le

-- At most so many significant digits.
def Digits (precision : ℕ) (x : ℚ) : Prop := ∃ m e : ℤ, |m| < 10 ^ precision ∧ x = m * 10 ^ e

theorem roundExact (fits : Digits precision x) : roundTo precision x = x := by
  unfold roundTo
  split_ifs with zero
  · exact zero.symm
  · obtain ⟨m,e,bound,shape⟩ := fits
    have positive : 0 < |x| := abs_pos.mpr zero
    have lower : (10 : ℚ) ^ Int.log 10 |x| ≤ |x| := by
      have base := Int.zpow_log_le_self (R := ℚ) (b := 10) (by norm_num) positive
      exact_mod_cast base
    have ten : (0 : ℚ) < 10 ^ e := zpow_pos (by norm_num) _
    have upper : |x| < 10 ^ ((precision : ℤ) + e) := by
      rw [shape,abs_mul,abs_of_pos ten,zpow_add₀ (by norm_num),zpow_natCast]
      have small : |(m : ℚ)| < 10 ^ precision := by exact_mod_cast bound
      exact mul_lt_mul_of_pos_right small ten
    have exponents : Int.log 10 |x| < precision + e :=
      (zpow_lt_zpow_iff_right₀ (by norm_num : (1 : ℚ) < 10)).mp (lower.trans_lt upper)
    obtain ⟨k,place⟩ := Int.eq_ofNat_of_zero_le (show 0 ≤ e - (Int.log 10 |x| - (precision - 1)) by omega)
    have unit := quantumPositive precision x
    have scaled : x / quantum precision x = ((m * 10 ^ k : ℤ) : ℚ) := by
      rw [div_eq_iff unit.ne']
      unfold quantum
      push_cast
      rw [mul_assoc,← zpow_natCast,← zpow_add₀ (by norm_num)]
      have sum : (k : ℤ) + (Int.log 10 |x| - (precision - 1)) = e := by omega
      rw [sum]
      exact shape
    rw [scaled,halfEvenInt,← scaled,div_mul_cancel₀ _ unit.ne']

theorem roundNear (precision : ℕ) (x : ℚ) : |roundTo precision x - x| ≤ |x| * (10 ^ (1 - (precision : ℤ)) / 2) := by
  unfold roundTo
  split_ifs with zero
  · rw [zero]
    simp
  · have positive : 0 < |x| := abs_pos.mpr zero
    have unit := quantumPositive precision x
    have shift : (halfEven (x / quantum precision x) : ℚ) * quantum precision x - x =
        (halfEven (x / quantum precision x) - x / quantum precision x) * quantum precision x := by
      rw [sub_mul,div_mul_cancel₀ _ unit.ne']
    have small : quantum precision x ≤ |x| * 10 ^ (1 - (precision : ℤ)) := by
      have lower := Int.zpow_log_le_self (R := ℚ) (b := 10) (by norm_num) positive
      have power : quantum precision x = 10 ^ Int.log 10 |x| * 10 ^ (1 - (precision : ℤ)) := by
        unfold quantum
        rw [← zpow_add₀ (by norm_num)]
        congr 1
        omega
      rw [power]
      have ten : (0 : ℚ) ≤ 10 ^ (1 - (precision : ℤ)) := zpow_nonneg (by norm_num) _
      exact mul_le_mul_of_nonneg_right (by exact_mod_cast lower) ten
    rw [shift,abs_mul,abs_of_pos unit]
    calc |(halfEven (x / quantum precision x) : ℚ) - x / quantum precision x| * quantum precision x
        ≤ 1 / 2 * quantum precision x := mul_le_mul_of_nonneg_right (halfEvenNear _) unit.le
      _ ≤ 1 / 2 * (|x| * 10 ^ (1 - (precision : ℤ))) := by gcongr
      _ = |x| * (10 ^ (1 - (precision : ℤ)) / 2) := by ring

theorem roundZero : roundTo precision 0 = 0 := by
  unfold roundTo
  exact if_pos rfl

theorem digitsZero : Digits precision 0 := ⟨0,0,by simp,by simp⟩

theorem digitsShift (k : ℤ) (fits : Digits precision x) : Digits precision (x * 10 ^ k) := by
  obtain ⟨m,e,bound,shape⟩ := fits
  refine ⟨m,e + k,bound,?_⟩
  rw [shape,zpow_add₀ (by norm_num)]
  ring

theorem digitsTop (wide : 0 < precision) (e : ℤ) : Digits precision (10 ^ e) := by
  refine ⟨1,e,?_,by simp⟩
  rw [abs_one]
  exact one_lt_pow₀ (by norm_num) wide.ne'

theorem scaledBounds (nonneg : 0 ≤ x) (positive : x ≠ 0) (wide : 0 < precision) :
    (10 : ℚ) ^ (precision - 1) ≤ x / quantum precision x ∧ x / quantum precision x ≤ 10 ^ precision := by
  have above : 0 < |x| := abs_pos.mpr positive
  have unit := quantumPositive precision x
  have lower : (10 : ℚ) ^ Int.log 10 |x| ≤ |x| := by
    have base := Int.zpow_log_le_self (R := ℚ) (b := 10) (by norm_num) above
    exact_mod_cast base
  have upper : |x| < (10 : ℚ) ^ (Int.log 10 |x| + 1) := by
    have base := Int.lt_zpow_succ_log_self (R := ℚ) (b := 10) (by norm_num) |x|
    exact_mod_cast base
  rw [le_div_iff₀ unit,div_le_iff₀ unit]
  unfold quantum
  rw [← zpow_natCast,← zpow_natCast,← zpow_add₀ (by norm_num),← zpow_add₀ (by norm_num)]
  have first : ((precision - 1 : ℕ) : ℤ) + (Int.log 10 |x| - (precision - 1)) = Int.log 10 |x| := by omega
  have second : (precision : ℤ) + (Int.log 10 |x| - (precision - 1)) = Int.log 10 |x| + 1 := by omega
  rw [first,second]
  rw [abs_of_nonneg nonneg] at lower upper ⊢
  exact ⟨lower,upper.le⟩

theorem halfEvenMono (le : x ≤ y) : halfEven x ≤ halfEven y := by
  have floors := Int.floor_le_floor le
  have splitX := Int.floor_add_fract x
  have splitY := Int.floor_add_fract y
  rcases floors.lt_or_eq with less | same
  · have high : halfEven x ≤ ⌊x⌋ + 1 := by
      unfold halfEven
      split_ifs <;> omega
    have low : ⌊y⌋ ≤ halfEven y := by
      unfold halfEven
      split_ifs <;> omega
    omega
  · have fracts : Int.fract x ≤ Int.fract y := by
      rw [← same] at splitY
      linarith
    unfold halfEven
    rw [same]
    split_ifs <;> first | omega | (exfalso; linarith)

theorem halfEvenBetween {low high : ℤ} (above : (low : ℚ) ≤ x) (below : x ≤ high) :
    low ≤ halfEven x ∧ halfEven x ≤ high := by
  constructor
  · rw [← halfEvenInt low]
    exact halfEvenMono above
  · rw [← halfEvenInt high]
    exact halfEvenMono below

theorem roundBetween (nonneg : 0 ≤ x) (positive : x ≠ 0) (wide : 0 < precision) :
    (10 : ℚ) ^ Int.log 10 |x| ≤ roundTo precision x ∧ roundTo precision x ≤ 10 ^ (Int.log 10 |x| + 1) := by
  obtain ⟨low,high⟩ := scaledBounds nonneg positive wide
  have unit := quantumPositive precision x
  have integers := @halfEvenBetween (x / quantum precision x) (10 ^ (precision - 1)) (10 ^ precision)
    (by exact_mod_cast low) (by exact_mod_cast high)
  have least : (10 : ℚ) ^ (precision - 1) ≤ halfEven (x / quantum precision x) := by exact_mod_cast integers.1
  have most : (halfEven (x / quantum precision x) : ℚ) ≤ 10 ^ precision := by exact_mod_cast integers.2
  have first : (10 : ℚ) ^ Int.log 10 |x| = 10 ^ (precision - 1) * quantum precision x := by
    unfold quantum
    rw [← zpow_natCast,← zpow_add₀ (by norm_num)]
    congr 1
    omega
  have second : (10 : ℚ) ^ (Int.log 10 |x| + 1) = 10 ^ precision * quantum precision x := by
    unfold quantum
    rw [← zpow_natCast,← zpow_add₀ (by norm_num)]
    congr 1
    omega
  unfold roundTo
  rw [if_neg positive,first,second]
  exact ⟨mul_le_mul_of_nonneg_right least unit.le,mul_le_mul_of_nonneg_right most unit.le⟩

theorem roundMono (wide : 0 < precision) (nonneg : 0 ≤ x) (le : x ≤ y) : roundTo precision x ≤ roundTo precision y := by
  by_cases zero : x = 0
  · rw [zero,roundZero]
    exact roundNonneg (nonneg.trans le)
  · have positive : 0 < x := lt_of_le_of_ne nonneg (Ne.symm zero)
    have positive' : 0 < y := positive.trans_le le
    have logs : Int.log 10 |x| ≤ Int.log 10 |y| := by
      rw [abs_of_pos positive,abs_of_pos positive']
      exact Int.log_mono_right positive le
    rcases logs.lt_or_eq with less | same
    · have below := (roundBetween nonneg zero wide).2
      have above := (roundBetween positive'.le positive'.ne' wide).1
      have powers : (10 : ℚ) ^ (Int.log 10 |x| + 1) ≤ 10 ^ Int.log 10 |y| :=
        zpow_le_zpow_right₀ (by norm_num) (by omega)
      exact below.trans (powers.trans above)
    · have unit := quantumPositive precision y
      have units : quantum precision x = quantum precision y := by
        unfold quantum
        rw [same]
      unfold roundTo
      rw [if_neg zero,if_neg positive'.ne',units]
      have integers : halfEven (x / quantum precision y) ≤ halfEven (y / quantum precision y) :=
        halfEvenMono (div_le_div_of_nonneg_right le unit.le)
      have cast : (halfEven (x / quantum precision y) : ℚ) ≤ halfEven (y / quantum precision y) := by
        exact_mod_cast integers
      exact mul_le_mul_of_nonneg_right cast unit.le

theorem roundDigits (wide : 0 < precision) (nonneg : 0 ≤ x) : Digits precision (roundTo precision x) := by
  by_cases zero : x = 0
  · rw [zero,roundZero]
    exact digitsZero
  · obtain ⟨low,high⟩ := scaledBounds nonneg zero wide
    have integers := @halfEvenBetween (x / quantum precision x) 0 (10 ^ precision)
      (by push_cast; exact le_trans (by positivity) low) (by exact_mod_cast high)
    unfold roundTo
    rw [if_neg zero]
    rcases integers.2.lt_or_eq with less | top
    · refine ⟨_,Int.log 10 |x| - (precision - 1),?_,rfl⟩
      rw [abs_of_nonneg integers.1]
      exact less
    · rw [top]
      have power : ((10 ^ precision : ℤ) : ℚ) * quantum precision x = 10 ^ (Int.log 10 |x| + 1) := by
        unfold quantum
        push_cast
        rw [← zpow_natCast,← zpow_add₀ (by norm_num)]
        congr 1
        omega
      rw [power]
      exact digitsTop wide _

theorem roundZeroIff (wide : 0 < precision) (nonneg : 0 ≤ x) : roundTo precision x = 0 ↔ x = 0 := by
  constructor
  · intro zero
    by_contra positive
    have least := (roundBetween nonneg positive wide).1
    rw [zero] at least
    have power : (0 : ℚ) < 10 ^ Int.log 10 |x| := zpow_pos (by norm_num) _
    linarith
  · rintro rfl
    exact roundZero

end Rounding

section Scales

-- A nonnegative multiple of the last of so many decimal places.
def Scaled (scale : ℕ) (x : ℚ) : Prop := ∃ n : ℕ, x = n / 10 ^ scale

variable {precision scale : ℕ} {x y : ℚ}

theorem scaledNonneg (scaled : Scaled scale x) : 0 ≤ x := by
  obtain ⟨n,rfl⟩ := scaled
  positivity

theorem scaledAdd (first : Scaled scale x) (second : Scaled scale y) : Scaled scale (x + y) := by
  obtain ⟨n,rfl⟩ := first
  obtain ⟨m,rfl⟩ := second
  refine ⟨n + m,?_⟩
  push_cast
  ring

theorem scaledMul {scale' : ℕ} (first : Scaled scale x) (second : Scaled scale' y) : Scaled (scale + scale') (x * y) := by
  obtain ⟨n,rfl⟩ := first
  obtain ⟨m,rfl⟩ := second
  refine ⟨n * m,?_⟩
  rw [pow_add]
  push_cast
  field_simp

theorem scaledDigits (scaled : Scaled scale x) (below : x * 10 ^ scale < 10 ^ precision) : Digits precision x := by
  obtain ⟨n,rfl⟩ := scaled
  rw [div_mul_cancel₀ _ (by positivity)] at below
  have small : n < 10 ^ precision := by exact_mod_cast below
  refine ⟨n,-(scale : ℤ),?_,?_⟩
  · rw [abs_of_nonneg (by positivity)]
    exact_mod_cast small
  · rw [zpow_neg,zpow_natCast,div_eq_mul_inv]
    push_cast
    rfl

-- Two multiples of one unit that are told apart stay apart when the smaller one fits.
theorem scaledApart (wide : 0 < precision) (scaled : Scaled scale x) (scaled' : Scaled scale y)
    (below : x * 10 ^ scale < 10 ^ precision) (rounded : roundTo precision y ≤ roundTo precision x) : y ≤ x := by
  by_contra above
  have exactX := roundExact (scaledDigits scaled below)
  obtain ⟨n,rfl⟩ := scaled
  obtain ⟨m,rfl⟩ := scaled'
  have power : (0 : ℚ) < 10 ^ scale := by positivity
  rw [div_mul_cancel₀ _ power.ne'] at below
  have small : n < 10 ^ precision := by exact_mod_cast below
  rw [not_le,div_lt_div_iff_of_pos_right power] at above
  have next : n + 1 ≤ m := by exact_mod_cast above
  have middle : Digits precision (((n + 1 : ℕ) : ℚ) / 10 ^ scale) := by
    rcases (Nat.succ_le_of_lt small).lt_or_eq with less | top
    · refine scaledDigits ⟨n + 1,rfl⟩ ?_
      rw [div_mul_cancel₀ _ power.ne']
      exact_mod_cast less
    · have shape : ((n + 1 : ℕ) : ℚ) / 10 ^ scale = 10 ^ ((precision : ℤ) - scale) := by
        rw [zpow_sub₀ (by norm_num),zpow_natCast,zpow_natCast]
        congr 1
        exact_mod_cast top
      rw [shape]
      exact digitsTop wide _
  have order : ((n + 1 : ℕ) : ℚ) / 10 ^ scale ≤ (m : ℚ) / 10 ^ scale := by
    gcongr
  have mono := roundMono wide (by positivity) order
  rw [roundExact middle] at mono
  rw [exactX] at rounded
  have apart : (n : ℚ) / 10 ^ scale < ((n + 1 : ℕ) : ℚ) / 10 ^ scale := by
    gcongr
    exact_mod_cast Nat.lt_succ_self n
  linarith

end Scales

section Nearness

-- A nonnegative value after at most so many roundings of relative error `u`.
def Near (u : ℚ) (k : ℕ) (exact value : ℚ) : Prop := exact * (1 - u) ^ k ≤ value ∧ value ≤ exact * (1 + u) ^ k

variable {u : ℚ} {j k : ℕ} {x y x' y' : ℚ}

theorem nearSelf (u x : ℚ) : Near u 0 x x := by
  constructor <;> simp

theorem nearMore (small : 0 ≤ u) (below : u ≤ 1) (nonneg : 0 ≤ x) (more : j ≤ k) (near : Near u j x y) : Near u k x y := by
  constructor
  · refine le_trans (mul_le_mul_of_nonneg_left ?_ nonneg) near.1
    exact pow_le_pow_of_le_one (by linarith) (by linarith) more
  · refine near.2.trans (mul_le_mul_of_nonneg_left ?_ nonneg)
    exact pow_le_pow_right₀ (by linarith) more

theorem nearAdd (first : Near u k x y) (second : Near u k x' y') : Near u k (x + x') (y + y') := by
  constructor
  · rw [add_mul]
    exact add_le_add first.1 second.1
  · rw [add_mul]
    exact add_le_add first.2 second.2

theorem nearMul (small : 0 ≤ u) (below : u ≤ 1) (nonneg : 0 ≤ x) (nonneg' : 0 ≤ x') (first : Near u j x y)
    (second : Near u k x' y') : Near u (j + k) (x * x') (y * y') := by
  have low : 0 ≤ 1 - u := by linarith
  have high : 0 ≤ 1 + u := by linarith
  have lowest : 0 ≤ x * (1 - u) ^ j := by positivity
  have lowest' : 0 ≤ x' * (1 - u) ^ k := by positivity
  constructor
  · calc x * x' * (1 - u) ^ (j + k) = (x * (1 - u) ^ j) * (x' * (1 - u) ^ k) := by rw [pow_add]; ring
      _ ≤ y * y' := mul_le_mul first.1 second.1 lowest' (lowest.trans first.1)
  · calc y * y' ≤ (x * (1 + u) ^ j) * (x' * (1 + u) ^ k) :=
          mul_le_mul first.2 second.2 (lowest'.trans second.1) (by positivity)
      _ = x * x' * (1 + u) ^ (j + k) := by rw [pow_add]; ring

def roundingUnit (precision : ℕ) : ℚ := 10 ^ (1 - (precision : ℤ)) / 2

theorem unitNonneg (precision : ℕ) : 0 ≤ roundingUnit precision := by
  unfold roundingUnit
  exact div_nonneg (zpow_nonneg (by norm_num) _) (by norm_num)

theorem nearRound {precision : ℕ} (below : roundingUnit precision ≤ 1) (nonneg : 0 ≤ x)
    (near : Near (roundingUnit precision) k x y) : Near (roundingUnit precision) (k + 1) x (roundTo precision y) := by
  have small := unitNonneg precision
  have low : 0 ≤ 1 - roundingUnit precision := by linarith
  have high : 0 ≤ 1 + roundingUnit precision := by linarith
  have value : 0 ≤ y := le_trans (by positivity) near.1
  have error := roundNear precision y
  rw [abs_of_nonneg value] at error
  have sides := abs_le.mp error
  change -(y * roundingUnit precision) ≤ _ ∧ _ ≤ y * roundingUnit precision at sides
  constructor
  · calc x * (1 - roundingUnit precision) ^ (k + 1) = (x * (1 - roundingUnit precision) ^ k) * (1 - roundingUnit precision) := by
          rw [pow_succ]; ring
      _ ≤ y * (1 - roundingUnit precision) := mul_le_mul_of_nonneg_right near.1 low
      _ ≤ roundTo precision y := by linarith
  · calc roundTo precision y ≤ y * (1 + roundingUnit precision) := by linarith
      _ ≤ (x * (1 + roundingUnit precision) ^ k) * (1 + roundingUnit precision) := mul_le_mul_of_nonneg_right near.2 high
      _ = x * (1 + roundingUnit precision) ^ (k + 1) := by rw [pow_succ]; ring

end Nearness

end SlaifGateway.Library.Decimal
