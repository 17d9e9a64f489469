import DeviceLink.Proofs.Number.Order
import Mathlib.Algebra.Order.Field.Power
import Mathlib.Algebra.Order.Field.Rat
import Mathlib.Tactic.Linarith
import Mathlib.Tactic.Positivity
import Mathlib.Tactic.Ring
/-!
# Doubles as numbers

A finite double is the rational number that its parts say (`number`), and where two of them compare,
these numbers compare likewise (`number_le`). What lies between finite doubles is finite
(`finite_of_between`).

No number has two spellings: the significand has all its 53 bits unless the exponent is the least
(`Canonical`). From one double to a greater one it is therefore one unit of the last bit at least
(`Canonical.next`), a share of the number that decimal digits can tell.
-/
namespace DeviceLink.Number

open Float.Model UnpackedFloat

/-! ## Parts and comparisons -/

/-- The sign bit as the comparison has it. -/
def signOf (negative : Bool) : Sign := if negative then .negative else .positive

/-- A double as the comparison takes it apart. -/
def Parts.unpacked : Parts → UnpackedFloat
  | .nan => .notANumber
  | .infinite negative => .infinity (signOf negative)
  | .finite negative m q =>
    if h : 0 < m then .finite (signOf negative) m q h else .zero (signOf negative)

theorem toNat_mantissa (b : BitVec 64) :
    (@unpackMantissa Format.binary64 b).toNat = b.toNat % 2 ^ 52 := by
  show b.toNat >>> 0 % 2 ^ 52 = _
  rw [Nat.shiftRight_zero]

theorem toNat_exponent (b : BitVec 64) :
    (@unpackExponent Format.binary64 b).toNat = b.toNat / 2 ^ 52 % 2 ^ 11 := by
  show b.toNat >>> 52 % 2 ^ 11 = _
  rw [Nat.shiftRight_eq_div_pow]

theorem toNat_sign (b : BitVec 64) :
    (@unpackSign Format.binary64 b).toNat = b.toNat / 2 ^ 63 % 2 := by
  show b.toNat >>> 63 % 2 ^ 1 = _
  rw [Nat.shiftRight_eq_div_pow, pow_one]

theorem ofBitVec_sign (b : BitVec 64) :
    Sign.ofBitVec (@unpackSign Format.binary64 b) = signOf (decide (2 ^ 63 ≤ b.toNat)) := by
  have small := b.isLt
  have bit : @unpackSign Format.binary64 b = 0#1 ↔ ¬ 2 ^ 63 ≤ b.toNat := by
    rw [← BitVec.toNat_inj, toNat_sign, BitVec.toNat_zero]
    omega
  unfold Sign.ofBitVec signOf
  by_cases high : 2 ^ 63 ≤ b.toNat
  · rw [if_neg (mt bit.1 (not_not.2 high)), if_pos (decide_eq_true high)]
  · rw [if_pos (bit.2 high), if_neg (by simpa using high)]

/-- The parts as quotients and remainders of the word. -/
theorem parts_eq {x : Float} {n : ℕ} (word : x.toBits.toNat = n) : parts x =
    if n / 2 ^ 52 % 2 ^ 11 = 0x7FF then
      if n % 2 ^ 52 = 0 then .infinite (decide (2 ^ 63 ≤ n)) else .nan
    else if n / 2 ^ 52 % 2 ^ 11 = 0 then .finite (decide (2 ^ 63 ≤ n)) (n % 2 ^ 52) (-1074)
    else
      .finite (decide (2 ^ 63 ≤ n)) (n % 2 ^ 52 + 2 ^ 52) ((n / 2 ^ 52 % 2 ^ 11 : ℕ) - 1075) := by
  subst word
  rfl

theorem finite_eq (s : Sign) {m n : ℕ} {q r : ℤ} {hm : 0 < m} {hn : 0 < n} (digits : m = n)
    (exponent : q = r) : UnpackedFloat.finite s m q hm = .finite s n r hn := by
  subst digits exponent
  rfl

/-- The parts of a double are what comparisons see of it. -/
theorem unpack_eq (x : Float) : x.toModel.unpack = (parts x).unpacked := by
  show UnpackedFloat.unpack Format.binary64 x.toModel.toBits.toBitVec = _
  have word : x.toBits.toNat = x.toModel.toBits.toBitVec.toNat := rfl
  rw [parts_eq word]
  generalize x.toModel.toBits.toBitVec = b
  unfold UnpackedFloat.unpack
  dsimp only
  rw [ofBitVec_sign]
  have all : @unpackExponent Format.binary64 b = -1#11 ↔ b.toNat / 2 ^ 52 % 2 ^ 11 = 0x7FF := by
    rw [← BitVec.toNat_inj, toNat_exponent]
    rfl
  have none : @unpackExponent Format.binary64 b = 0#11 ↔ b.toNat / 2 ^ 52 % 2 ^ 11 = 0 := by
    rw [← BitVec.toNat_inj, toNat_exponent]
    rfl
  have clear : @unpackMantissa Format.binary64 b = 0#52 ↔ b.toNat % 2 ^ 52 = 0 := by
    rw [← BitVec.toNat_inj, toNat_mantissa]
    rfl
  have bias : ((Format.exponentBias .binary64 : Nat) : Int) = 1023 := rfl
  by_cases top : b.toNat / 2 ^ 52 % 2 ^ 11 = 0x7FF
  · rw [if_pos (all.2 top), if_pos top]
    by_cases zero : b.toNat % 2 ^ 52 = 0
    · rw [if_pos (clear.2 zero), if_pos zero, Parts.unpacked]
    · rw [if_neg (mt clear.1 zero), if_neg zero, Parts.unpacked]
  · rw [if_neg (mt all.1 top), if_neg top]
    by_cases low : b.toNat / 2 ^ 52 % 2 ^ 11 = 0
    · rw [if_pos (none.2 low), if_pos low]
      by_cases zero : b.toNat % 2 ^ 52 = 0
      · rw [dif_pos (clear.2 zero), Parts.unpacked, dif_neg (Nat.not_lt.2 zero.le)]
      · rw [dif_neg (mt clear.1 zero), Parts.unpacked, dif_pos (Nat.pos_of_ne_zero zero)]
        refine finite_eq _ (toNat_mantissa b) ?_
        rw [toNat_exponent, low, bias]
        rfl
    · rw [if_neg (mt none.1 low), if_neg low, Parts.unpacked,
        dif_pos (Nat.add_pos_right _ (Nat.two_pow_pos 52))]
      refine finite_eq _ ?_ ?_
      · rw [BitVec.toNat_append, toNat_mantissa, Nat.shiftLeft_eq, Nat.mul_comm, Nat.add_comm]
        exact (Nat.two_pow_add_eq_or_of_lt (Nat.mod_lt _ (Nat.two_pow_pos 52)) 1).symm
      · rw [toNat_exponent, bias]
        rfl

/-! ## One spelling for each number -/

/-- A significand and an exponent as doubles have them. -/
structure Canonical (m : ℕ) (q : ℤ) : Prop where
  bits : m < 2 ^ 53
  full : q = -1074 ∨ 2 ^ 52 ≤ m
  least : -1074 ≤ q

theorem parts_canonical {x : Float} {negative : Bool} {m : ℕ} {q : ℤ}
    (h : parts x = .finite negative m q) : Canonical m q := by
  rw [parts_eq rfl] at h
  generalize x.toBits.toNat = n at h
  have fraction : n % 2 ^ 52 < 2 ^ 52 := Nat.mod_lt n (Nat.two_pow_pos 52)
  split at h
  · split at h <;> cases h
  · split at h
    · cases h
      exact ⟨by omega, .inl rfl, le_rfl⟩
    · cases h
      exact ⟨by omega, .inr (by omega), by omega⟩

namespace Canonical

variable {m n : ℕ} {q r : ℤ}

/-- The next one is one unit of the last bit away, or more. -/
theorem next (hm : Canonical m q) (hn : Canonical n r) (h : q < r ∨ q = r ∧ m < n) :
    ((m : ℚ) + 1) * 2 ^ q ≤ n * 2 ^ r := by
  rcases h with lower | ⟨rfl, less⟩
  · have all : (2 : ℚ) ^ 52 ≤ n := by
      have := hm.least
      exact_mod_cast hn.full.resolve_left (by omega)
    have few : (m : ℚ) + 1 ≤ 2 ^ 53 := by exact_mod_cast hm.bits
    have double : (2 : ℚ) ^ q * 2 ≤ 2 ^ r := by
      rw [← zpow_add_one₀ (by norm_num)]
      exact zpow_le_zpow_right₀ (by norm_num) (by omega)
    calc ((m : ℚ) + 1) * 2 ^ q ≤ 2 ^ 53 * 2 ^ q := by gcongr
      _ = 2 ^ 52 * (2 ^ q * 2) := by ring
      _ ≤ n * 2 ^ r := by gcongr
  · have : (m : ℚ) + 1 ≤ n := by exact_mod_cast less
    gcongr

/-- A lesser number comes with the lesser exponent or, if the exponents agree, with the lesser
significand. -/
theorem eq_or_next (hm : Canonical m q) (hn : Canonical n r) (h : (m : ℚ) * 2 ^ q ≤ n * 2 ^ r) :
    (m = n ∧ q = r) ∨ ((m : ℚ) + 1) * 2 ^ q ≤ n * 2 ^ r := by
  by_cases order : q < r ∨ q = r ∧ m < n
  · exact .inr (next hm hn order)
  · by_cases same : m = n ∧ q = r
    · exact .inl same
    · have above := next hn hm (by omega)
      have pos : (0 : ℚ) < 2 ^ r := by positivity
      linarith

end Canonical

/-! ## Numbers compare as doubles do -/

/-- ± m · 2^q. -/
def number (negative : Bool) (m : ℕ) (q : ℤ) : ℚ := if negative then -(m * 2 ^ q) else m * 2 ^ q

theorem abs_number (negative : Bool) (m : ℕ) (q : ℤ) : |number negative m q| = m * 2 ^ q := by
  have size : (0 : ℚ) ≤ m * 2 ^ q := by positivity
  cases negative with
  | false => exact abs_of_nonneg size
  | true => exact (abs_neg _).trans (abs_of_nonneg size)

theorem magnitude_le {m n : ℕ} {q r : ℤ} (hm : Canonical m q) (hn : Canonical n r)
    (h : (compare q r).then (compare m n) ≠ .gt) : (m : ℚ) * 2 ^ q ≤ n * 2 ^ r := by
  rcases lt_trichotomy q r with lower | rfl | higher
  · have pos : (0 : ℚ) < 2 ^ q := by positivity
    have := hm.next hn (.inl lower)
    linarith
  · rw [Std.compare_self, Ordering.eq_then, Nat.compare_ne_gt] at h
    have : (m : ℚ) ≤ n := by exact_mod_cast h
    gcongr
  · rw [compare_gt_iff_gt.2 higher] at h
    exact absurd rfl h

theorem unpacked_zero (negative : Bool) (q : ℤ) :
    (Parts.finite negative 0 q).unpacked = .zero (signOf negative) := rfl

theorem unpacked_finite (negative : Bool) {m : ℕ} (q : ℤ) (pos : 0 < m) :
    (Parts.finite negative m q).unpacked = .finite (signOf negative) m q pos := by
  rw [Parts.unpacked, dif_pos pos]

/-- Doubles that compare are numbers that do. -/
theorem number_le {x y : Float} {a b : Bool} {m n : ℕ} {q r : ℤ} (hx : parts x = .finite a m q)
    (hy : parts y = .finite b n r) (h : x ≤ y) : number a m q ≤ number b n r := by
  have canonical := parts_canonical hx
  have canonical' := parts_canonical hy
  obtain ⟨o, compared, notAbove⟩ := (le_iff x y).1 h
  rw [unpack_eq, unpack_eq, hx, hy] at compared
  have size : (0 : ℚ) ≤ m * 2 ^ q := by positivity
  have size' : (0 : ℚ) ≤ n * 2 ^ r := by positivity
  rcases Nat.eq_zero_or_pos m with rfl | hm
  · rcases Nat.eq_zero_or_pos n with rfl | hn
    · simp [number]
    · rw [unpacked_zero, unpacked_finite b r hn] at compared
      cases b with
      | false => simpa [number] using size'
      | true => exact absurd (Option.some.inj compared).symm notAbove
  · rw [unpacked_finite a q hm] at compared
    rcases Nat.eq_zero_or_pos n with rfl | hn
    · rw [unpacked_zero] at compared
      cases a with
      | false => exact absurd (Option.some.inj compared).symm notAbove
      | true => simpa [number] using size
    · rw [unpacked_finite b r hn] at compared
      cases a with
      | false =>
        cases b with
        | false =>
          refine magnitude_le canonical canonical' fun above => notAbove ?_
          rw [← above]
          exact (Option.some.inj compared).symm
        | true => exact absurd (Option.some.inj compared).symm notAbove
      | true =>
        cases b with
        | false => exact (neg_nonpos.2 size).trans size'
        | true =>
          -- below zero the greater number is the smaller one in size
          have swapped : ((compare q r).then (compare m n)).swap = o := Option.some.inj compared
          refine neg_le_neg (magnitude_le canonical' canonical fun above => notAbove ?_)
          rw [← swapped, Ordering.swap_then, ← Std.OrientedOrd.eq_swap, ← Std.OrientedOrd.eq_swap,
            above]

theorem isNaN_of_finite {x : Float} {negative : Bool} {m : ℕ} {q : ℤ}
    (h : parts x = .finite negative m q) : x.isNaN = false := by
  show x.toModel.unpack.isNaN = false
  rw [unpack_eq, h]
  rcases Nat.eq_zero_or_pos m with rfl | pos
  · rfl
  · rw [unpacked_finite negative q pos]
    rfl

/-- What lies between two finite doubles is finite. -/
theorem finite_of_between {lo x hi : Float} {a b : Bool} {m n : ℕ} {q r : ℤ}
    (hlo : parts lo = .finite a m q) (hhi : parts hi = .finite b n r) (above : lo ≤ x)
    (below : x ≤ hi) : ∃ c k t, parts x = .finite c k t := by
  obtain ⟨o, compared, notAbove⟩ := (le_iff lo x).1 above
  obtain ⟨o', compared', notAbove'⟩ := (le_iff x hi).1 below
  rw [unpack_eq, unpack_eq] at compared compared'
  cases hx : parts x with
  | finite c k t => exact ⟨c, k, t, rfl⟩
  | nan =>
    rw [hx] at compared'
    cases compared'
  | infinite negative =>
    cases negative with
    | true =>
      rw [hx, hlo] at compared
      rcases Nat.eq_zero_or_pos m with rfl | hm
      · exact absurd (Option.some.inj compared).symm notAbove
      · rw [unpacked_finite a q hm] at compared
        exact absurd (Option.some.inj compared).symm notAbove
    | false =>
      rw [hx, hhi] at compared'
      rcases Nat.eq_zero_or_pos n with rfl | hn
      · exact absurd (Option.some.inj compared').symm notAbove'
      · rw [unpacked_finite b r hn] at compared'
        exact absurd (Option.some.inj compared').symm notAbove'

end DeviceLink.Number
