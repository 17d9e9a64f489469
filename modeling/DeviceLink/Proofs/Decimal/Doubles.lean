import DeviceLink.Decimal.Double
import DeviceLink.Proofs.Decimal.Arithmetic
import DeviceLink.Proofs.Number.Sizes
/-!
# Decimals are finite doubles

Every decimal has a finite double (`toFloat_finite`). The mantissa has less than 97 bits and the
power of ten that the fraction is rounded with less than 95, so none of the products on the way
comes near the last double.
-/
namespace DeviceLink.Decimal

open Number

theorem limit_le : (limit : ℚ) ≤ 2 ^ (96 : ℤ) := by
  rw [limit_eq]
  norm_num

/-- The power of ten that a fraction is rounded with. -/
theorem unit_fromOne {s : ℕ} (places : s ≤ maxScale) : FromOne (2 ^ (94 : ℤ)) (pow10 s) := by
  have grows : (1 : ℚ) ≤ 10 * step := one_le_mul_of_one_le_of_one_le (by norm_num) one_le_step
  have few : (10 * step) ^ s ≤ 2 ^ (94 : ℤ) :=
    calc (10 * step) ^ s ≤ (10 * step) ^ maxScale := pow_le_pow_right₀ grows places
      _ ≤ 2 ^ (94 : ℤ) := by norm_num [step, maxScale]
  have room : (2 : ℚ) ^ (94 : ℤ) ≤ 2 ^ (1023 : ℤ) :=
    zpow_le_zpow_right₀ (by norm_num) (by norm_num)
  exact (pow10_fromOne (few.trans room)).mono few

/-- The fraction, before it is rounded. -/
theorem fraction_atMost (m : ℕ) {s : ℕ} (places : s ≤ maxScale) :
    AtMost (2 ^ (94 : ℤ)) (Float.ofNat (m % Nat.pow 10 s) / Float.ofNat (Nat.pow 10 s)) := by
  have pos : 0 < Nat.pow 10 s := Nat.pow_pos (by norm_num)
  have tens : ((Nat.pow 10 s : ℕ) : ℚ) ≤ 2 ^ (94 : ℤ) := by
    have : Nat.pow 10 s ≤ 10 ^ maxScale := Nat.pow_le_pow_right (by norm_num) places
    calc ((Nat.pow 10 s : ℕ) : ℚ) ≤ (10 ^ maxScale : ℕ) := by exact_mod_cast this
      _ ≤ 2 ^ (94 : ℤ) := by norm_num [maxScale]
  have rest : ((m % Nat.pow 10 s : ℕ) : ℚ) ≤ 2 ^ (94 : ℤ) := by
    refine le_trans ?_ tens
    exact_mod_cast (Nat.mod_lt m pos).le
  have unit : AtLeast 1 (Float.ofNat (Nat.pow 10 s)) :=
    (sized_ofNat _).atLeast (by exact_mod_cast pos)
  exact ((sized_ofNat _).atMost rest (by norm_num)).div unit

/-- **The double of a decimal is finite.** -/
theorem toFloat_finite (d : Decimal) : isFinite d.toFloat = true := by
  have mantissa : (d.mantissa : ℚ) ≤ 2 ^ (96 : ℤ) := by
    have : (d.mantissa : ℚ) ≤ limit := by exact_mod_cast d.mantissa_lt.le
    exact this.trans limit_le
  have whole : ((d.mantissa / Nat.pow 10 d.scale : ℕ) : ℚ) ≤ 2 ^ (96 : ℤ) := by
    have : ((d.mantissa / Nat.pow 10 d.scale : ℕ) : ℚ) ≤ d.mantissa := by
      exact_mod_cast Nat.div_le_self _ _
    exact this.trans mantissa
  unfold toFloat
  split
  · split
    · exact atMost_zero.isFinite
    · exact (atMost_ofNat mantissa d.negative (by norm_num)).isFinite
  · dsimp only
    split
    · exact (atMost_ofNat whole d.negative (by norm_num)).isFinite
    · have unit := unit_fromOne d.scale_le
      have number := (sized_ofNat _).atMost whole (by norm_num)
      have sum := number.add (fraction_atMost d.mantissa d.scale_le) (k := 97) (by norm_num)
        (by norm_num)
      have product := sum.mul unit.atMost (k := 191) (by norm_num) (by norm_num)
      have rounded := product.roundAway.div (atLeast_pow10 d.scale)
      split
      · exact rounded.neg.isFinite
      · exact rounded.isFinite

end DeviceLink.Decimal
