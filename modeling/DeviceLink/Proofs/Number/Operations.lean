import DeviceLink.Proofs.Number.Rounding
/-!
# Arithmetic of doubles, up to its rounding

Sums, differences, products and quotients of doubles, and doubles of natural numbers, are in size
next to the exact ones (`sized_add`, `sized_sub`, `sized_mul`, `sized_div`, `sized_ofNat`). The
significands are added or multiplied exactly, or divided to as many bits as are kept, so one
rounding is all that comes between.
-/
namespace DeviceLink.Number

open Float.Model UnpackedFloat

/-! ## Sizes of results -/

/-- A double is next to `v` in size; it is infinite if that double has too great an exponent. -/
def Sized (v : ℚ) (x : Float) : Prop :=
  ∃ negative m q, Beside v m q ∧
    parts x = if q ≤ 971 then .finite negative m q else .infinite negative

theorem sized_packed {v : ℚ} {m : ℕ} {q : ℤ} (beside : Beside v m q) (negative : Bool) :
    Sized v (packed (Parts.finite negative m q).unpacked) :=
  ⟨negative, m, q, beside, parts_packed negative beside.canonical⟩

theorem canonical_zero : Canonical 0 (-1074) := ⟨by norm_num, .inl rfl, le_rfl⟩

theorem beside_zero : Beside 0 0 (-1074) := by
  have beside := Beside.self canonical_zero
  rwa [Nat.cast_zero, zero_mul] at beside

theorem sized_zero (negative : Bool) : Sized 0 (packed (.zero (signOf negative))) :=
  sized_packed beside_zero negative

theorem sized_self {x : Float} {negative : Bool} {m : ℕ} {q : ℤ}
    (h : parts x = .finite negative m q) (sign : Bool) :
    Sized (m * 2 ^ q) (packed (Parts.finite sign m q).unpacked) :=
  sized_packed (.self (parts_canonical h)) sign

namespace Sized

variable {v : ℚ} {x y : Float} {a : Bool} {m n : ℕ} {q r : ℤ}

/-- What is no greater than a double gives a finite result, no greater than that either. -/
theorem finite (h : Sized v x) (hn : Canonical n r) (room : r ≤ 971) (le : v ≤ n * 2 ^ r) :
    ∃ a m q, parts x = .finite a m q ∧ (m : ℚ) * 2 ^ q ≤ n * 2 ^ r := by
  obtain ⟨a, m, q, beside, hx⟩ := h
  have within := beside.least hn le
  have exponent := beside.canonical.exponent_le hn within
  rw [if_pos (exponent.trans room)] at hx
  exact ⟨a, m, q, hx, within⟩

theorem beside (h : Sized v x) (hx : parts x = .finite a m q) : Beside v m q := by
  obtain ⟨a', m', q', beside, hx'⟩ := h
  rw [hx] at hx'
  split at hx'
  · cases hx'
    exact beside
  · cases hx'

/-- A result is next to what an exact result is next to. -/
theorem trans (h : Sized v x) (hx : parts x = .finite a m q) (hy : Sized (m * 2 ^ q) y) :
    Sized v y := by
  have first := h.beside hx
  obtain ⟨b, n, r, second, parts⟩ := hy
  obtain ⟨rfl, rfl⟩ := second.exactly first.canonical
  exact ⟨b, n, r, first, parts⟩

end Sized

theorem sized_round (negative : Bool) {m : ℕ} (pos : m ≠ 0) (e : ℤ) :
    Sized (m * 2 ^ e) (packed (round .binary64 (signOf negative) m e)) := by
  obtain ⟨n, q, beside, rounded⟩ := round_beside negative pos e
  rw [rounded]
  exact sized_packed beside negative

theorem sized_normalize (m : ℤ) (e : ℤ) :
    Sized |(m : ℚ) * 2 ^ e| (packed (UnpackedFloat.normalize .binary64 m e .positive)) := by
  have unit : (0 : ℚ) < 2 ^ e := by positivity
  have size : |(m : ℚ) * 2 ^ e| = (m.natAbs : ℚ) * 2 ^ e := by
    rw [abs_mul, abs_of_pos unit, Nat.cast_natAbs, Int.cast_abs]
  rw [size]
  unfold UnpackedFloat.normalize
  rcases lt_trichotomy m 0 with below | rfl | above
  · have turned : (-m).toNat = m.natAbs := by omega
    rw [Int.compare_eq_lt.2 below]
    dsimp only
    rw [turned]
    exact sized_round true (by omega) e
  · rw [Int.natAbs_zero, Nat.cast_zero, zero_mul]
    exact sized_zero false
  · have same : m.toNat = m.natAbs := by omega
    rw [Int.compare_eq_gt.2 above]
    dsimp only
    rw [same]
    exact sized_round false (by omega) e

section
variable {x y : Float} {a b : Bool} {m n : ℕ} {q r : ℤ}

/-- Significands brought to a lesser exponent. -/
theorem apply_decreased (negative : Bool) (m : ℕ) {q e : ℤ} (le : e ≤ q) :
    (((signOf negative).apply (decreaseExponent m q e).1 : ℤ) : ℚ) * 2 ^ e =
      number negative m q := by
  have power : (2 : ℚ) ^ (q - e).toNat * 2 ^ e = 2 ^ q := by
    rw [← zpow_natCast, ← zpow_add₀ (by norm_num)]
    congr 1
    omega
  have digits : (((decreaseExponent m q e).1 : ℕ) : ℚ) * 2 ^ e = m * 2 ^ q := by
    rw [decreaseExponent, Nat.shiftLeft_eq]
    push_cast
    rw [mul_assoc, power]
  cases negative with
  | false =>
    show ((((decreaseExponent m q e).1 : ℕ) : ℤ) : ℚ) * 2 ^ e = m * 2 ^ q
    rw [Int.cast_natCast, digits]
  | true =>
    show ((-(((decreaseExponent m q e).1 : ℕ) : ℤ) : ℤ) : ℚ) * 2 ^ e = -(m * 2 ^ q)
    rw [Int.cast_neg, Int.cast_natCast, neg_mul, digits]

theorem number_zero (negative : Bool) (q : ℤ) : number negative 0 q = 0 := by
  cases negative <;> simp [number]

theorem sized_sum (hx : parts x = .finite a m q) (hy : parts y = .finite b n r) :
    Sized |number a m q + number b n r|
      (packed (add .binary64 (Parts.finite a m q).unpacked (Parts.finite b n r).unpacked)) := by
  rcases Nat.eq_zero_or_pos m with rfl | hm
  · rw [number_zero, zero_add, abs_number]
    rcases Nat.eq_zero_or_pos n with rfl | hn
    · rw [Nat.cast_zero, zero_mul, unpacked_zero, unpacked_zero]
      cases a with
      | false => cases b <;> exact sized_zero false
      | true =>
        cases b with
        | false => exact sized_zero false
        | true => exact sized_zero true
    · have kept := sized_self hy b
      rw [unpacked_finite b r hn] at kept ⊢
      exact kept
  · rcases Nat.eq_zero_or_pos n with rfl | hn
    · have kept := sized_self hx a
      rw [number_zero, add_zero, abs_number, unpacked_zero]
      rw [unpacked_finite a q hm] at kept ⊢
      exact kept
    · rw [← apply_decreased a m (min_le_left q r), ← apply_decreased b n (min_le_right q r),
        ← add_mul, ← Int.cast_add, unpacked_finite a q hm, unpacked_finite b r hn]
      exact sized_normalize _ _

theorem sized_add (hx : parts x = .finite a m q) (hy : parts y = .finite b n r) :
    Sized |number a m q + number b n r| (x + y) := by
  have sum := sized_sum hx hy
  rw [← hx, ← hy, ← unpack_eq, ← unpack_eq] at sum
  exact sum

theorem neg_unpacked (negative : Bool) (m : ℕ) (q : ℤ) :
    (Parts.finite negative m q).unpacked.neg = (Parts.finite (!negative) m q).unpacked := by
  rcases Nat.eq_zero_or_pos m with rfl | pos
  · cases negative <;> rfl
  · rw [unpacked_finite negative q pos, unpacked_finite (!negative) q pos]
    cases negative <;> rfl

theorem parts_neg (hx : parts x = .finite a m q) : parts (-x) = .finite (!a) m q := by
  have turned : -x = packed (Parts.finite (!a) m q).unpacked := by
    rw [← neg_unpacked, ← hx, ← unpack_eq]
    rfl
  rw [turned, parts_packed _ (parts_canonical hx), if_pos (exponent_le hx)]

theorem number_not (negative : Bool) (m : ℕ) (q : ℤ) :
    number (!negative) m q = -number negative m q := by
  cases negative <;> simp [number]

/-- A difference is the sum with the number turned about. -/
theorem sub_unpacked (a b : Bool) (m n : ℕ) (q r : ℤ) :
    sub .binary64 (Parts.finite a m q).unpacked (Parts.finite b n r).unpacked =
      add .binary64 (Parts.finite a m q).unpacked (Parts.finite (!b) n r).unpacked := by
  rcases Nat.eq_zero_or_pos m with rfl | hm
  · rcases Nat.eq_zero_or_pos n with rfl | hn
    · cases a <;> cases b <;> rfl
    · rw [unpacked_finite b r hn, unpacked_finite (!b) r hn]
      cases b <;> rfl
  · rcases Nat.eq_zero_or_pos n with rfl | hn
    · rw [unpacked_finite a q hm]
      rfl
    · rw [unpacked_finite a q hm, unpacked_finite b r hn, unpacked_finite (!b) r hn]
      cases b with
      | false => rfl
      | true =>
        exact congrArg (UnpackedFloat.normalize .binary64 · (min q r) .positive)
          (sub_neg_eq_add (_ : ℤ) _)

theorem sub_finite (hx : parts x = .finite a m q) (hy : parts y = .finite b n r) :
    x - y = x + -y := by
  have turned := sub_unpacked a b m n q r
  rw [← parts_neg hy, ← hx, ← hy, ← unpack_eq, ← unpack_eq, ← unpack_eq] at turned
  exact congrArg packed turned

theorem sized_sub (hx : parts x = .finite a m q) (hy : parts y = .finite b n r) :
    Sized |number a m q - number b n r| (x - y) := by
  rw [sub_finite hx hy, sub_eq_add_neg, ← number_not]
  exact sized_add hx (parts_neg hy)

theorem signOf_mul (a b : Bool) : signOf a * signOf b = signOf (a != b) := by
  cases a <;> cases b <;> rfl

theorem signOf_div (a b : Bool) : signOf a / signOf b = signOf (a != b) := by
  cases a <;> cases b <;> rfl

/-- The sign of a product is that of its factors. -/
theorem mul_beside (a b : Bool) (hm : Canonical m q) (hn : Canonical n r) :
    ∃ k t, Beside (m * 2 ^ q * (n * 2 ^ r)) k t ∧
      mul .binary64 (Parts.finite a m q).unpacked (Parts.finite b n r).unpacked =
        (Parts.finite (a != b) k t).unpacked := by
  rcases Nat.eq_zero_or_pos m with rfl | pos
  · refine ⟨0, -1074, ?_, ?_⟩
    · rw [Nat.cast_zero, zero_mul, zero_mul]
      exact beside_zero
    · rw [unpacked_zero, unpacked_zero, ← signOf_mul]
      rcases Nat.eq_zero_or_pos n with rfl | pos'
      · rw [unpacked_zero]
        rfl
      · rw [unpacked_finite b r pos']
        rfl
  · rcases Nat.eq_zero_or_pos n with rfl | pos'
    · refine ⟨0, -1074, ?_, ?_⟩
      · rw [Nat.cast_zero, zero_mul, mul_zero]
        exact beside_zero
      · rw [unpacked_zero, unpacked_zero, ← signOf_mul, unpacked_finite a q pos]
        rfl
    · have fine : q + r ≤ -1074 ∨ 2 ^ 52 ≤ m * n := by
        have first := hm.full
        have second := hn.full
        by_cases long : 2 ^ 52 ≤ m
        · exact .inr (long.trans (Nat.le_mul_of_pos_right m pos'))
        · by_cases long' : 2 ^ 52 ≤ n
          · exact .inr (long'.trans (Nat.le_mul_of_pos_left n pos))
          · exact .inl (by omega)
      obtain ⟨k, t, beside, rounded⟩ :=
        roundWithAccuracy_beside (a != b) (reads_exact (m * n)) fine
      have product : ((m * n : ℕ) : ℚ) * 2 ^ (q + r) = m * 2 ^ q * (n * 2 ^ r) := by
        rw [zpow_add₀ (by norm_num)]
        push_cast
        ring
      refine ⟨k, t, product ▸ beside, ?_⟩
      rw [unpacked_finite a q pos, unpacked_finite b r pos', ← rounded, ← signOf_mul]
      rfl

theorem mul_eq (x y : Float) :
    x * y = packed (mul .binary64 (parts x).unpacked (parts y).unpacked) := by
  rw [← unpack_eq, ← unpack_eq]
  rfl

theorem sized_mul (hx : parts x = .finite a m q) (hy : parts y = .finite b n r) :
    Sized (m * 2 ^ q * (n * 2 ^ r)) (x * y) := by
  obtain ⟨k, t, beside, product⟩ := mul_beside a b (parts_canonical hx) (parts_canonical hy)
  rw [mul_eq, hx, hy, product]
  exact sized_packed beside _

theorem parts_one : parts 1 = .finite false (2 ^ 52) (-52) := by decide +kernel

theorem one_eq : ((2 ^ 52 : ℕ) : ℚ) * 2 ^ (-52 : ℤ) = 1 := by norm_num

theorem parts_mul_one (hx : parts x = .finite a m q) : parts (x * 1) = .finite a m q := by
  have canonical := parts_canonical hx
  obtain ⟨k, t, beside, product⟩ := mul_beside a false canonical (parts_canonical parts_one)
  rw [one_eq, mul_one] at beside
  obtain ⟨rfl, rfl⟩ := beside.exactly canonical
  rw [mul_eq, hx, parts_one, product, parts_packed _ canonical, if_pos (exponent_le hx),
    Bool.bne_false]

/-- A quotient of whole numbers, and whether something remains. -/
theorem reads_quotient (k : ℕ) {d : ℕ} (pos : 0 < d) :
    Reads (.ofMantissaAndAccuracy (k / d) (accuracyOfFraction (k % d) d)) ((k : ℚ) / d) := by
  have divisor : (0 : ℚ) < d := by exact_mod_cast pos
  have split : (k : ℚ) = d * (k / d : ℕ) + (k % d : ℕ) := by
    exact_mod_cast (Nat.div_add_mod k d).symm
  have rest : ((k % d : ℕ) : ℚ) < d := by exact_mod_cast Nat.mod_lt k pos
  have restPos : (0 : ℚ) ≤ (k % d : ℕ) := Nat.cast_nonneg _
  refine reads_of ?_ ?_ ?_
  · rw [le_div_iff₀ divisor]
    linarith
  · rw [div_lt_iff₀ divisor]
    linarith
  · by_cases even : k % d = 0
    · left
      rw [accuracyOfFraction, if_pos even]
    · right
      have more : (0 : ℚ) < (k % d : ℕ) := by exact_mod_cast Nat.pos_of_ne_zero even
      rw [lt_div_iff₀ divisor]
      linarith

/-- The quotient is taken to 53 bits, or as far as there are any. -/
theorem quotient_fine (hm : 0 < m) (hn : 0 < n) {e : ℤ} {s : ℕ} (shift : q - r = e + s)
    (target : e ≤ max (totalExponent m q - totalExponent n r - 53) (-1074)) :
    e ≤ -1074 ∨ 2 ^ 52 ≤ m * 2 ^ s / n := by
  by_cases low : e ≤ -1074
  · exact .inl low
  · right
    have bits := two_pow_log2_le hm.ne'
    have top : n < 2 ^ (n.log2 + 1) := Nat.lt_log2_self
    unfold totalExponent at target
    rw [Nat.le_div_iff_mul_le hn]
    calc 2 ^ 52 * n ≤ 2 ^ 52 * 2 ^ (n.log2 + 1) := Nat.mul_le_mul_left _ top.le
      _ = 2 ^ (52 + (n.log2 + 1)) := (pow_add 2 _ _).symm
      _ ≤ 2 ^ (m.log2 + s) := Nat.pow_le_pow_right two_pos (by omega)
      _ = 2 ^ m.log2 * 2 ^ s := pow_add 2 _ _
      _ ≤ m * 2 ^ s := Nat.mul_le_mul_right _ bits

theorem sized_quotient (a b : Bool) (pos : 0 < n) :
    Sized (m * 2 ^ q / (n * 2 ^ r))
      (packed (div .binary64 (Parts.finite a m q).unpacked (Parts.finite b n r).unpacked)) := by
  rw [unpacked_finite b r pos]
  rcases Nat.eq_zero_or_pos m with rfl | hm
  · have zero := sized_zero (a != b)
    rw [← signOf_div] at zero
    rw [Nat.cast_zero, zero_mul, zero_div, unpacked_zero]
    exact zero
  · obtain ⟨e, he⟩ : ∃ e, min (q - r) (Format.binary64.targetExponent
        (totalExponent m q - totalExponent n r)) = e := ⟨_, rfl⟩
    have target : e ≤ max (totalExponent m q - totalExponent n r - 53) (-1074) := by
      rw [← target_eq, ← he]
      exact min_le_right _ _
    obtain ⟨s, shift⟩ := Int.le.dest (show e ≤ q - r from he ▸ min_le_left _ _)
    have amount : (q - r - e).toNat = s := by omega
    have core : divCore .binary64 m q n r =
        (m * 2 ^ s / n, e, accuracyOfFraction (m * 2 ^ s % n) n) := by
      unfold divCore
      rw [he]
      dsimp only
      rw [amount, Nat.shiftLeft_eq]
    obtain ⟨k, t, beside, rounded⟩ := roundWithAccuracy_beside (a != b)
      (reads_quotient (m * 2 ^ s) pos) (quotient_fine hm pos shift.symm target)
    have whole : div .binary64 (.finite (signOf a) m q hm) (.finite (signOf b) n r pos) =
        (Parts.finite (a != b) k t).unpacked := by
      unfold UnpackedFloat.div
      dsimp only
      rw [core, signOf_div]
      exact rounded
    have quotient : ((m * 2 ^ s : ℕ) : ℚ) / n * 2 ^ e = m * 2 ^ q / (n * 2 ^ r) := by
      have power : (2 : ℚ) ^ s * 2 ^ e = 2 ^ q / 2 ^ r := by
        rw [← zpow_natCast, ← zpow_add₀ (by norm_num), ← zpow_sub₀ (by norm_num), ← shift,
          add_comm]
      push_cast
      rw [div_mul_eq_mul_div, mul_assoc, power]
      field_simp
    rw [quotient] at beside
    rw [unpacked_finite a q hm, whole]
    exact sized_packed beside _

theorem div_eq (x y : Float) :
    x / y = packed (div .binary64 (parts x).unpacked (parts y).unpacked) := by
  rw [← unpack_eq, ← unpack_eq]
  rfl

theorem sized_div (hx : parts x = .finite a m q) (hy : parts y = .finite b n r) (pos : 0 < n) :
    Sized (m * 2 ^ q / (n * 2 ^ r)) (x / y) := by
  rw [div_eq, hx, hy]
  exact sized_quotient a b pos

end

/-! ## Natural numbers -/

/-- The double next to a natural number; those of 53 bits are taken as words. -/
theorem sized_ofNat (n : ℕ) : Sized n (Float.ofNat n) := by
  show Sized n (Float.ofScientific n false 0)
  unfold Float.ofScientific
  by_cases short : n < 2 ^ 53 ∧ 0 ≤ 22
  · rw [dif_pos short]
    have word : n.toUInt64.toNat = n := Nat.mod_eq_of_lt (by omega)
    have taken : n.toUInt64.toFloat =
        packed (UnpackedFloat.normalize .binary64 (n.toUInt64.toNat : ℤ) 0 .positive) := rfl
    have whole : Sized n (n.toUInt64.toFloat) := by
      have made := sized_normalize (n : ℤ) 0
      rw [zpow_zero, mul_one, Int.cast_natCast, abs_of_nonneg (Nat.cast_nonneg n)] at made
      rw [taken, word]
      exact made
    have bound : (n : ℚ) ≤ (2 ^ 52 : ℕ) * 2 ^ ((53 : ℤ) - 52) := by
      rw [power_eq]
      exact_mod_cast short.1.le
    obtain ⟨a, m, q, hx, -⟩ := whole.finite (canonical_power (by norm_num)) (by norm_num) bound
    have product := sized_mul hx parts_one
    rw [one_eq, mul_one] at product
    exact whole.trans hx product
  · rw [dif_neg short]
    have pos : n ≠ 0 := by omega
    have fine : (-53 : ℤ) + 0 ≤ -1074 ∨ 2 ^ 52 ≤ (n <<< 53) * 10 ^ 0 := by
      right
      rw [Nat.shiftLeft_eq]
      omega
    obtain ⟨k, t, beside, rounded⟩ := roundWithAccuracy_beside false (reads_exact _) fine
    have size : (((n <<< 53) * 10 ^ 0 : ℕ) : ℚ) * 2 ^ ((-53 : ℤ) + 0) = n := by
      rw [Nat.shiftLeft_eq, pow_zero, mul_one]
      push_cast
      rw [mul_assoc]
      norm_num
    have made : UnpackedFloat.ofScientific .binary64 n 0 = (Parts.finite false k t).unpacked := by
      unfold UnpackedFloat.ofScientific
      rw [dif_neg pos, if_neg (by norm_num), if_neg (not_lt.2 (neg_nonpos.2 (by positivity))),
        if_pos le_rfl]
      exact rounded
    rw [size] at beside
    have result := sized_packed beside false
    rw [← made] at result
    exact result

end DeviceLink.Number
