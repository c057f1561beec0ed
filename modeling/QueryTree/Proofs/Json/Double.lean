import Mathlib.Data.Rat.Cast.Order
import Mathlib.Tactic.FieldSimp
import Mathlib.Tactic.Linarith
import QueryTree.Json.Double

/-!
Doubles in JSON. Written numbers and doubles are compared by the rational numbers that they stand
for: a finite double is written as a number of the same value, and reading that number finds the
double again, because no rounding takes place.
-/
namespace QueryTree

/-- The value of a number as it is written. -/
def Number.value : Number → ℚ
  | .integer value => value
  | .decimal negative digits exponent =>
    (if negative then -1 else 1) * (digits * 10 ^ exponent)

/-- The value of a finite double. -/
def Double.value (d : Double) : ℚ :=
  (if d.isNegative then -1 else 1) * (d.scaled.1 * 2 ^ d.scaled.2)

/-! ### Powers of either sign -/

/-- Of a power and its inverse one is left out on either side of the fraction. -/
theorem timesPower_div (base n m : Nat) (positive : 0 < base) (power : Int) :
    (timesPower base n power : ℚ) / timesPower base m (-power) = n / m * (base : ℚ) ^ power := by
  have nonzero : (base : ℚ) ≠ 0 := by exact_mod_cast positive.ne'
  unfold timesPower
  rcases Int.eq_nat_or_neg power with ⟨k, rfl | rfl⟩
  · simp [mul_div_right_comm]
  · simp [div_eq_mul_inv, mul_comm, mul_left_comm]

theorem timesPower_pos {base n : Nat} (positive : 0 < base) (nonzero : 0 < n) (power : Int) :
    0 < timesPower base n power :=
  Nat.mul_pos nonzero (Nat.pow_pos positive)

theorem zpow_log2_le {n : Nat} (positive : 0 < n) : (2 : ℚ) ^ (n.log2 : Int) ≤ n := by
  have least : 2 ^ n.log2 ≤ n := Nat.log2_self_le positive.ne'
  exact_mod_cast least

theorem lt_zpow_log2 (n : Nat) : (n : ℚ) < 2 ^ (n.log2 + 1 : Int) := by
  have greatest : n < 2 ^ (n.log2 + 1) := Nat.lt_log2_self
  exact_mod_cast greatest

namespace Double

/-- The power of two below a fraction is the greatest one. -/
theorem log2Ratio_spec {num den : Nat} (num_pos : 0 < num) (den_pos : 0 < den) :
    (2 : ℚ) ^ log2Ratio num den ≤ num / den ∧ (num / den : ℚ) < 2 ^ (log2Ratio num den + 1) := by
  have den_pos' : (0 : ℚ) < den := by exact_mod_cast den_pos
  have two (power : Int) : (0 : ℚ) < 2 ^ power := zpow_pos two_pos power
  have split (a b : Int) : (2 : ℚ) ^ (a - b) = 2 ^ a / 2 ^ b := zpow_sub₀ two_ne_zero a b
  unfold log2Ratio
  -- The difference of the logarithms is right or one too great, which a comparison decides.
  generalize guessed : (num.log2 : Int) - den.log2 = guess
  have compared : timesPower 2 num (-guess) ≥ timesPower 2 den guess ↔
      (2 : ℚ) ^ guess ≤ num / den := by
    have quotient : (timesPower 2 num (-guess) : ℚ) / timesPower 2 den guess =
        num / den / 2 ^ guess := by
      have divided := timesPower_div 2 num den two_pos (-guess)
      rwa [neg_neg, zpow_neg, ← div_eq_mul_inv] at divided
    have scaled_pos : (0 : ℚ) < timesPower 2 den guess := by
      exact_mod_cast timesPower_pos two_pos den_pos guess
    rw [ge_iff_le, ← Nat.cast_le (α := ℚ), ← one_le_div₀ scaled_pos, quotient,
      one_le_div₀ (two guess)]
  simp only [compared]
  split
  next enough =>
    refine ⟨enough, ?_⟩
    calc (num / den : ℚ)
      _ < 2 ^ (num.log2 + 1 : Int) / den := div_lt_div_of_pos_right (lt_zpow_log2 num) den_pos'
      _ ≤ 2 ^ (num.log2 + 1 : Int) / 2 ^ (den.log2 : Int) :=
        div_le_div_of_nonneg_left (two _).le (two _) (zpow_log2_le den_pos)
      _ = 2 ^ (guess + 1) := by rw [← split, ← guessed, sub_add_eq_add_sub]
  next short =>
    rw [sub_add_cancel]
    refine ⟨?_, not_le.mp short⟩
    calc (2 : ℚ) ^ (guess - 1)
      _ = 2 ^ (num.log2 : Int) / 2 ^ (den.log2 + 1 : Int) := by rw [← split, ← guessed, sub_sub]
      _ ≤ 2 ^ (num.log2 : Int) / den :=
        div_le_div_of_nonneg_left (two _).le den_pos' (lt_zpow_log2 den).le
      _ ≤ num / den := div_le_div_of_nonneg_right (zpow_log2_le num_pos) den_pos'.le

theorem divNearestEven_exact {quotient den : Nat} (den_pos : 0 < den) :
    divNearestEven (quotient * den) den = quotient := by
  unfold divNearestEven
  simp [den_pos]

/-- A fraction that a double stands for is not rounded. -/
theorem magnitudeOfRatio_exact {num den significand : Nat} {power : Int} (den_pos : 0 < den)
    (same : (num / den : ℚ) = significand * 2 ^ power) (small : significand < 2 * fractions)
    (least : -1074 ≤ power) (greatest : power ≤ 971)
    (normal : fractions ≤ significand ∨ power = -1074) :
    magnitudeOfRatio num den = (power + 1074).toNat * fractions + significand := by
  have den_pos' : (0 : ℚ) < den := by exact_mod_cast den_pos
  have two (power : Int) : (0 : ℚ) < 2 ^ power := zpow_pos two_pos power
  have shift (a b : Int) : (2 : ℚ) ^ (a + b) = 2 ^ a * 2 ^ b := zpow_add₀ two_ne_zero a b
  have fractions_eq : (fractions : ℚ) = 2 ^ (52 : Int) := by norm_num [fractions]
  unfold magnitudeOfRatio
  rcases num.eq_zero_or_pos with rfl | num_pos
  · -- Zero has no leading bit.
    have zero : significand = 0 := by
      have product : (significand : ℚ) * 2 ^ power = 0 := by simpa using same.symm
      exact_mod_cast (mul_eq_zero.mp product).resolve_right (two power).ne'
    subst zero
    have subnormal : power = -1074 := normal.resolve_left (by decide)
    subst subnormal
    rfl
  rw [if_neg num_pos.ne']
  obtain ⟨below, above⟩ := log2Ratio_spec num_pos den_pos
  rw [same] at below above
  generalize log2Ratio num den = log at below above
  -- The leading bit of the significand is at most the one at 52, and there unless subnormal.
  have log_le : log < 53 + power := by
    apply (zpow_lt_zpow_iff_right₀ (one_lt_two (α := ℚ))).mp
    refine below.trans_lt ?_
    rw [shift]
    refine mul_lt_mul_of_pos_right ?_ (two power)
    exact_mod_cast small
  have le_log (leading : fractions ≤ significand) : 52 + power < log + 1 := by
    apply (zpow_lt_zpow_iff_right₀ (one_lt_two (α := ℚ))).mp
    refine lt_of_le_of_lt ?_ above
    rw [shift]
    refine mul_le_mul_of_nonneg_right ?_ (two power).le
    rw [← fractions_eq]
    exact_mod_cast leading
  have unit : max (-1074) (log - 52) = power := by
    rcases normal with leading | subnormal
    · have := le_log leading
      omega
    · omega
  -- In units of that power the fraction is a whole number, so that the division leaves no rest.
  have scaled_pos : 0 < timesPower 2 den power := timesPower_pos two_pos den_pos power
  have scaled : timesPower 2 num (-power) = significand * timesPower 2 den power := by
    have divided := timesPower_div 2 num den two_pos (-power)
    have scaled_pos' : (0 : ℚ) < timesPower 2 den power := by exact_mod_cast scaled_pos
    rw [neg_neg, same, mul_assoc, Nat.cast_ofNat, ← shift, add_neg_cancel, zpow_zero, mul_one,
      div_eq_iff scaled_pos'.ne'] at divided
    exact_mod_cast divided
  have finite : (power + 1074).toNat * fractions + significand < 2047 * fractions := by
    unfold fractions at small ⊢
    omega
  simp only [unit, scaled, divNearestEven_exact scaled_pos]
  exact min_eq_left finite.le

/-- The significand of a finite double has 53 bits, of which the leading one is set unless the
exponent is the least. -/
theorem scaled_bounds {d : Double} (finite : d.isFinite = true) :
    d.scaled.1 < 2 * fractions ∧ -1074 ≤ d.scaled.2 ∧ d.scaled.2 ≤ 971 ∧
      (fractions ≤ d.scaled.1 ∨ d.scaled.2 = -1074) := by
  have exponent : d.exponentField < 2047 := of_decide_eq_true finite
  have fraction : d.fractionField < fractions := Nat.mod_lt _ (by decide)
  unfold scaled
  split
  next subnormal => exact ⟨by omega, by omega, by omega, .inr rfl⟩
  next normal => exact ⟨by omega, by omega, by omega, .inl (Nat.le_add_right _ _)⟩

/-- The exponent and the fraction of a double, put together again. -/
theorem magnitude_scaled (d : Double) :
    (d.scaled.2 + 1074).toNat * fractions + d.scaled.1 =
      d.exponentField * fractions + d.fractionField := by
  unfold scaled
  split
  next subnormal => simp [subnormal]
  next normal =>
    have leading : ((d.exponentField : Int) - 1075 + 1074).toNat + 1 = d.exponentField := by omega
    rw [← Nat.add_assoc, ← Nat.succ_mul, Nat.succ_eq_add_one, leading]

/-- A double is its sign, its exponent and its fraction. -/
theorem ofFields_fields (d : Double) :
    ofFields d.isNegative (d.exponentField * fractions + d.fractionField) = d := by
  obtain ⟨bits⟩ := d
  have small := bits.toNat_lt
  have sum : (if isNegative ⟨bits⟩ then signBit else 0) +
      (exponentField ⟨bits⟩ * fractions + fractionField ⟨bits⟩) = bits.toNat := by
    unfold isNegative exponentField fractionField signBit fractions
    simp only [decide_eq_true_eq]
    split <;> omega
  unfold ofFields
  rw [sum]
  exact congrArg Double.mk UInt64.ofNat_toNat

end Double

/-- A double is written with its sign, as the decimal of the same size. -/
theorem Number.ofDouble_eq_decimal (d : Double) :
    ∃ digits exponent, Number.ofDouble d = .decimal d.isNegative digits exponent ∧
      (digits * 10 ^ exponent : ℚ) = d.scaled.1 * 2 ^ d.scaled.2 := by
  unfold Number.ofDouble
  obtain ⟨significand, power⟩ := d.scaled
  dsimp only
  split
  next nonneg =>
    obtain ⟨k, rfl⟩ := Int.eq_ofNat_of_zero_le nonneg
    refine ⟨_, _, rfl, ?_⟩
    simp [timesPower]
  next negative =>
    -- Halves are fives, shifted by one decimal place.
    obtain ⟨k, rfl⟩ : ∃ k : Nat, power = -k := ⟨(-power).toNat, by omega⟩
    refine ⟨_, _, rfl, ?_⟩
    have tens : (10 : ℚ) ^ k = 5 ^ k * 2 ^ k := by rw [← mul_pow]; norm_num
    simp only [timesPower, neg_neg, Int.toNat_natCast, Nat.pow_eq, zpow_neg, zpow_natCast, tens]
    push_cast
    field_simp

/-- A finite double is written as a number of the same value. -/
theorem Number.value_ofDouble (d : Double) : (Number.ofDouble d).value = d.value := by
  obtain ⟨digits, exponent, written, same⟩ := Number.ofDouble_eq_decimal d
  rw [written, Number.value, same, Double.value]

/-- Reading the number that a finite double is written as gives the double back. -/
theorem Number.toDouble_ofDouble {d : Double} (finite : d.isFinite = true) :
    (Number.ofDouble d).toDouble = d := by
  obtain ⟨digits, exponent, written, same⟩ := Number.ofDouble_eq_decimal d
  have ratio := timesPower_div 10 digits 1 (by decide) exponent
  rw [Nat.cast_one, div_one, Nat.cast_ofNat, same] at ratio
  have den_pos : 0 < timesPower 10 1 (-exponent) := timesPower_pos (by decide) Nat.one_pos _
  obtain ⟨small, least, greatest, normal⟩ := Double.scaled_bounds finite
  -- The fields of the double are what is left to be put together.
  rw [written, Number.toDouble,
    Double.magnitudeOfRatio_exact den_pos ratio small least greatest normal,
    Double.magnitude_scaled, Double.ofFields_fields]

end QueryTree
