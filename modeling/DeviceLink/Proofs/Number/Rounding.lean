import DeviceLink.Proofs.Number.Value
import Mathlib.Tactic.FieldSimp
/-!
# Results beside the exact ones

A result of double arithmetic is a double next to the exact one: no other lies between the two
(`Beside`). Here exponents may be as large as need be; a double with too great an exponent is packed
as an infinite one (`parts_packed`), any other as it is.

The significand of a result is cut to 53 bits, and two bits behind it tell whether something was cut
off. Shifting keeps what they tell (`Reads.shift`), so whatever the operation was, the result is one
of the two doubles around the exact one (`roundWithAccuracy_beside`).
-/
namespace DeviceLink.Number

open Float.Model UnpackedFloat

/-! ## Next to a number -/

/-- `m · 2^q` is a double, with an exponent as large as need be, and no other lies between it and
`v`. -/
structure Beside (v : ℚ) (m : ℕ) (q : ℤ) : Prop where
  canonical : Canonical m q
  least     : ∀ {n r}, Canonical n r → v ≤ n * 2 ^ r → (m : ℚ) * 2 ^ q ≤ n * 2 ^ r
  greatest  : ∀ {n r}, Canonical n r → (n : ℚ) * 2 ^ r ≤ v → (n : ℚ) * 2 ^ r ≤ m * 2 ^ q

theorem Beside.self {m : ℕ} {q : ℤ} (canonical : Canonical m q) : Beside (m * 2 ^ q) m q :=
  ⟨canonical, fun _ h => h, fun _ h => h⟩

theorem Canonical.exponent_le {m n : ℕ} {q r : ℤ} (hm : Canonical m q) (hn : Canonical n r)
    (h : (m : ℚ) * 2 ^ q ≤ n * 2 ^ r) : q ≤ r := by
  by_contra higher
  have next := hn.next hm (.inl (not_le.1 higher))
  have unit : (0 : ℚ) < 2 ^ r := by positivity
  linarith

theorem Canonical.unique {m n : ℕ} {q r : ℤ} (hm : Canonical m q) (hn : Canonical n r)
    (h : (m : ℚ) * 2 ^ q = n * 2 ^ r) : m = n ∧ q = r := by
  rcases hm.eq_or_next hn h.le with same | next
  · exact same
  · have unit : (0 : ℚ) < 2 ^ q := by positivity
    linarith

/-- Next to a double there is that double only. -/
theorem Beside.exactly {m n : ℕ} {q r : ℤ} (h : Beside (n * 2 ^ r) m q) (hn : Canonical n r) :
    m = n ∧ q = r :=
  h.canonical.unique hn (le_antisymm (h.least hn le_rfl) (h.greatest hn le_rfl))

/-- Powers of two are doubles. -/
theorem canonical_power {k : ℤ} (low : -1022 ≤ k) : Canonical (2 ^ 52) (k - 52) :=
  ⟨by norm_num, .inr le_rfl, by omega⟩

theorem power_eq (k : ℤ) : ((2 ^ 52 : ℕ) : ℚ) * 2 ^ (k - 52) = 2 ^ k := by
  rw [Nat.cast_pow, Nat.cast_ofNat, ← zpow_natCast, ← zpow_add₀ (by norm_num)]
  congr 1
  push_cast
  omega

/-- A significand of 54 bits has become one with the next exponent. -/
def carried (n : ℕ) (t : ℤ) : ℕ × ℤ := if n = 2 ^ 53 then (2 ^ 52, t + 1) else (n, t)

theorem carried_value (n : ℕ) (t : ℤ) :
    ((carried n t).1 : ℚ) * 2 ^ (carried n t).2 = n * 2 ^ t := by
  unfold carried
  by_cases full : n = 2 ^ 53
  · rw [if_pos full, full, zpow_add_one₀ (by norm_num)]
    push_cast
    ring
  · rw [if_neg full]

theorem Canonical.carried {k n : ℕ} {t : ℤ} (hk : Canonical k t) (near : n = k ∨ n = k + 1) :
    Canonical (carried n t).1 (carried n t).2 := by
  obtain ⟨bits, full, least⟩ := hk
  unfold Number.carried
  by_cases topped : n = 2 ^ 53
  · rw [if_pos topped]
    exact ⟨by norm_num, .inr le_rfl, by omega⟩
  · rw [if_neg topped]
    exact ⟨by omega, by omega, least⟩

/-- The two doubles around a number are next to it. -/
theorem beside_carried {k n : ℕ} {t : ℤ} {u : ℚ} (hk : Canonical k t) (above : (k : ℚ) ≤ u)
    (below : u < k + 1) (near : n = k ∨ n = k + 1 ∧ (k : ℚ) < u) :
    Beside (u * 2 ^ t) (carried n t).1 (carried n t).2 := by
  have unit : (0 : ℚ) < 2 ^ t := by positivity
  constructor
  case canonical => exact hk.carried (near.imp_right And.left)
  case least =>
    intro m r hm within
    rw [carried_value]
    have floor : (k : ℚ) * 2 ^ t ≤ m * 2 ^ r :=
      (mul_le_mul_of_nonneg_right above unit.le).trans within
    rcases near with rfl | ⟨rfl, beyond⟩
    · exact floor
    · rcases hk.eq_or_next hm floor with ⟨rfl, rfl⟩ | next
      · exact absurd within (not_le.2 (mul_lt_mul_of_pos_right beyond unit))
      · exact_mod_cast next
  case greatest =>
    intro m r hm under
    rw [carried_value]
    have floor : (m : ℚ) * 2 ^ r ≤ k * 2 ^ t := by
      by_contra higher
      rcases hk.eq_or_next hm (not_le.1 higher).le with ⟨rfl, rfl⟩ | next
      · exact higher le_rfl
      · exact absurd (next.trans under) (not_le.2 (mul_lt_mul_of_pos_right below unit))
    have up : (k : ℚ) ≤ n := by
      rcases near with rfl | ⟨rfl, -⟩
      · exact le_rfl
      · exact_mod_cast Nat.le_succ k
    exact floor.trans (mul_le_mul_of_nonneg_right up unit.le)

/-! ## Bits that were cut off -/

/-- A significand is the whole part of `u`, and bits behind it tell of something more. -/
structure Reads (em : ExtendedMantissa) (u : ℚ) : Prop where
  above  : (em.mantissa : ℚ) ≤ u
  below  : u < em.mantissa + 1
  beyond : em.roundBit = true ∨ em.stickyBit = true → (em.mantissa : ℚ) < u

theorem Reads.shiftOne {em : ExtendedMantissa} {u : ℚ} (h : Reads em u) :
    Reads em.shiftRightOne (u / 2) := by
  have parity : (em.mantissa : ℚ) = 2 * (em.mantissa / 2 : ℕ) + (em.mantissa % 2 : ℕ) := by
    exact_mod_cast (Nat.div_add_mod em.mantissa 2).symm
  have above := h.above
  have below := h.below
  have bit : ((em.mantissa % 2 : ℕ) : ℚ) ≤ 1 := by
    exact_mod_cast Nat.le_of_lt_succ (Nat.mod_lt em.mantissa two_pos)
  have bitPos : (0 : ℚ) ≤ (em.mantissa % 2 : ℕ) := Nat.cast_nonneg _
  constructor
  · show ((em.mantissa / 2 : ℕ) : ℚ) ≤ u / 2
    linarith
  · show u / 2 < (em.mantissa / 2 : ℕ) + 1
    linarith
  · intro something
    show ((em.mantissa / 2 : ℕ) : ℚ) < u / 2
    by_cases odd : em.mantissa % 2 = 0
    · have more : (em.mantissa : ℚ) < u := by
        apply h.beyond
        simpa [ExtendedMantissa.shiftRightOne, odd] using something
      linarith
    · have one : (1 : ℚ) ≤ (em.mantissa % 2 : ℕ) := by exact_mod_cast Nat.pos_of_ne_zero odd
      linarith

theorem shift_succ (em : ExtendedMantissa) (s : ℕ) :
    em >>> (s + 1) = (em >>> s).shiftRightOne := rfl

theorem Reads.shift {em : ExtendedMantissa} {u : ℚ} (h : Reads em u) (s : ℕ) :
    Reads (em >>> s) (u / 2 ^ s) := by
  induction s with
  | zero =>
    rw [pow_zero, div_one]
    exact h
  | succ s ih =>
    rw [shift_succ, pow_succ, ← div_div]
    exact ih.shiftOne

theorem mantissa_shift (em : ExtendedMantissa) (s : ℕ) :
    (em >>> s).mantissa = em.mantissa / 2 ^ s := by
  induction s with
  | zero => exact (Nat.div_one _).symm
  | succ s ih =>
    rw [shift_succ, pow_succ, ← Nat.div_div_eq_div_mul, ← ih]
    rfl

theorem Reads.rounded {em : ExtendedMantissa} {u : ℚ} (h : Reads em u) :
    em.roundedMantissa = em.mantissa ∨
      em.roundedMantissa = em.mantissa + 1 ∧ (em.mantissa : ℚ) < u := by
  obtain ⟨k, round, sticky⟩ := em
  cases round with
  | false => cases sticky <;> exact .inl rfl
  | true =>
    have beyond := h.beyond (.inl rfl)
    cases sticky with
    | true => exact .inr ⟨rfl, beyond⟩
    | false =>
      rcases Nat.mod_two_eq_zero_or_one k with even | odd
      · exact .inl (congrArg (k + ·) even)
      · exact .inr ⟨congrArg (k + ·) odd, beyond⟩

theorem mantissa_of (m : ℕ) (acc : Accuracy) :
    (ExtendedMantissa.ofMantissaAndAccuracy m acc).mantissa = m := by
  cases acc with
  | exact => rfl
  | inexact o => cases o <;> rfl

/-- An exact significand, or one that something was cut off from. -/
theorem reads_of {m : ℕ} {acc : Accuracy} {u : ℚ} (above : (m : ℚ) ≤ u) (below : u < m + 1)
    (beyond : acc = .exact ∨ (m : ℚ) < u) : Reads (.ofMantissaAndAccuracy m acc) u := by
  rw [← mantissa_of m acc] at above below
  refine ⟨above, below, fun bits => ?_⟩
  rw [mantissa_of]
  refine beyond.resolve_left ?_
  rintro rfl
  rcases bits with bit | bit <;> cases bit

theorem reads_exact (m : ℕ) : Reads (.ofMantissaAndAccuracy m .exact) m :=
  reads_of le_rfl (by linarith) (.inl rfl)

/-! ## Rounding -/

theorem target_eq (e : ℤ) : Format.binary64.targetExponent e = max (e - 53) (-1074) := rfl

theorem two_pow_log2_le {m : ℕ} (pos : m ≠ 0) : 2 ^ m.log2 ≤ m := (Nat.le_log2 pos).1 le_rfl

/-- The shift to the exponent of the format leaves 53 bits, or as many as there are at the least
exponent. -/
theorem canonical_shifted {m s : ℕ} {e : ℤ}
    (target : e + s = max (totalExponent m e - 53) (-1074)) : Canonical (m / 2 ^ s) (e + s) := by
  have top : m < 2 ^ (m.log2 + 1) := Nat.lt_log2_self
  unfold totalExponent at target
  have few : m / 2 ^ s < 2 ^ 53 := by
    rw [Nat.div_lt_iff_lt_mul (Nat.two_pow_pos s), ← pow_add]
    exact top.trans_le (Nat.pow_le_pow_right two_pos (by omega))
  refine ⟨few, ?_, by omega⟩
  by_cases lowest : e + s = -1074
  · exact .inl lowest
  · right
    have pos : m ≠ 0 := by
      rintro rfl
      rw [Nat.log2_zero] at target
      omega
    rw [Nat.le_div_iff_mul_le (Nat.two_pow_pos s), ← pow_add]
    exact (Nat.pow_le_pow_right two_pos (by omega)).trans (two_pow_log2_le pos)

theorem le_target {m : ℕ} {e : ℤ} (fine : e ≤ -1074 ∨ 2 ^ 52 ≤ m) :
    e ≤ max (totalExponent m e - 53) (-1074) := by
  rcases fine with low | long
  · exact low.trans (le_max_right _ _)
  · have bits : 52 ≤ m.log2 := (Nat.le_log2 (by omega)).2 long
    unfold totalExponent
    omega

/-- The shift after rounding is there for a carry only. -/
theorem shifted_again {n : ℕ} {t : ℤ} (le : n ≤ 2 ^ 53) (least : -1074 ≤ t) :
    let final := shiftToTargetExponent .binary64 n t .exact
    (final.1.mantissa, final.2) = carried n t := by
  intro final
  unfold carried
  by_cases full : n = 2 ^ 53
  · have one : (max (totalExponent n t - 53) (-1074) - t).toNat = 1 := by
      rw [full, totalExponent, Nat.log2_two_pow]
      omega
    have moved : final = ((ExtendedMantissa.ofMantissaAndAccuracy n .exact) >>> 1, t + 1) := by
      show (_ >>> _, t + ((_ : ℕ) : ℤ)) = _
      rw [target_eq, one]
      rfl
    rw [moved, if_pos full, full]
    rfl
  · have none : (max (totalExponent n t - 53) (-1074) - t).toNat = 0 := by
      have bits : n.log2 ≤ 52 := by
        by_cases zero : n = 0
        · rw [zero, Nat.log2_zero]
          omega
        · have := (Nat.log2_lt zero).2 (show n < 2 ^ 53 by omega)
          omega
      unfold totalExponent
      omega
    have moved : final = ((ExtendedMantissa.ofMantissaAndAccuracy n .exact) >>> 0, t + 0) := by
      show (_ >>> _, t + ((_ : ℕ) : ℤ)) = _
      rw [target_eq, none]
      rfl
    rw [moved, if_neg full, add_zero]
    rfl

theorem unpacked_eq (negative : Bool) (n : ℕ) (q : ℤ) :
    (Parts.finite negative n q).unpacked =
      if h : n = 0 then .zero (signOf negative)
      else .finite (signOf negative) n q (Nat.pos_of_ne_zero h) := by
  by_cases zero : n = 0
  · rw [dif_pos zero, zero, unpacked_zero]
  · rw [dif_neg zero, unpacked_finite negative q (Nat.pos_of_ne_zero zero)]

/-- **Rounding gives a double next to the exact number.** -/
theorem roundWithAccuracy_beside (negative : Bool) {m : ℕ} {e : ℤ} {acc : Accuracy} {u : ℚ}
    (reads : Reads (.ofMantissaAndAccuracy m acc) u) (fine : e ≤ -1074 ∨ 2 ^ 52 ≤ m) :
    ∃ n q, Beside (u * 2 ^ e) n q ∧
      roundWithAccuracy .binary64 (signOf negative) m e acc =
        (Parts.finite negative n q).unpacked := by
  obtain ⟨s, shift⟩ := Int.le.dest (le_target fine)
  have amount : (Format.binary64.targetExponent (totalExponent m e) - e).toNat = s := by
    rw [target_eq, ← shift]
    omega
  have first : shiftToTargetExponent .binary64 m e acc =
      (ExtendedMantissa.ofMantissaAndAccuracy m acc >>> s, e + s) := by
    rw [← amount]
    rfl
  have canonical := canonical_shifted shift
  rw [← mantissa_of m acc, ← mantissa_shift] at canonical
  have read := reads.shift s
  have exactly : u * 2 ^ e = u / 2 ^ s * 2 ^ (e + s) := by
    rw [zpow_add₀ (by norm_num), zpow_natCast]
    field_simp
  generalize ExtendedMantissa.ofMantissaAndAccuracy m acc >>> s = em at first canonical read
  have near := read.rounded
  have few : em.roundedMantissa ≤ 2 ^ 53 := by
    have bits := canonical.bits
    omega
  refine ⟨_, _, exactly ▸ beside_carried canonical read.above read.below near, ?_⟩
  rw [← shifted_again few canonical.least, unpacked_eq]
  unfold roundWithAccuracy
  rw [first]

/-- Digits are added where the exponent is too great. -/
theorem decreased {m : ℕ} {e : ℤ} (pos : m ≠ 0) :
    let d := decreaseExponent m e (Format.binary64.targetExponent (totalExponent m e))
    (d.1 : ℚ) * 2 ^ d.2 = m * 2 ^ e ∧ (d.2 ≤ -1074 ∨ 2 ^ 52 ≤ d.1) := by
  unfold decreaseExponent
  rw [target_eq]
  dsimp only
  generalize shift : (e - max (totalExponent m e - 53) (-1074)).toNat = s
  rw [Nat.shiftLeft_eq]
  constructor
  · rw [zpow_sub₀ (by norm_num), zpow_natCast]
    push_cast
    field_simp
  · by_cases low : e - s ≤ -1074
    · exact .inl low
    · right
      have bits := two_pow_log2_le pos
      unfold totalExponent at shift
      calc 2 ^ 52 ≤ 2 ^ (m.log2 + s) := Nat.pow_le_pow_right two_pos (by omega)
        _ = 2 ^ m.log2 * 2 ^ s := pow_add 2 _ _
        _ ≤ m * 2 ^ s := Nat.mul_le_mul_right _ bits

theorem round_beside (negative : Bool) {m : ℕ} (pos : m ≠ 0) (e : ℤ) :
    ∃ n q, Beside (m * 2 ^ e) n q ∧
      round .binary64 (signOf negative) m e = (Parts.finite negative n q).unpacked := by
  obtain ⟨same, fine⟩ := decreased (e := e) pos
  obtain ⟨n, q, beside, rounded⟩ := roundWithAccuracy_beside negative (reads_exact _) fine
  rw [same] at beside
  exact ⟨n, q, beside, rounded⟩

/-! ## Packing -/

/-- The double that is packed. -/
def packed (f : UnpackedFloat) : Float := .ofModel (.pack f)

theorem toNat_packComponents (negative : Bool) (e : BitVec 11) (f : BitVec 52) :
    (packComponents .binary64 (signOf negative) e f).toNat =
      (if negative then 2 ^ 63 else 0) + e.toNat * 2 ^ 52 + f.toNat := by
  have exponent := e.isLt
  have fraction := f.isLt
  have joined : (packComponents .binary64 (signOf negative) e f).toNat =
      (((signOf negative).toBitVec.toNat <<< 11 ||| e.toNat) <<< 52) ||| f.toNat := by
    unfold packComponents
    rw [BitVec.toNat_append, BitVec.toNat_append]
  rw [joined, ← Nat.shiftLeft_add_eq_or_of_lt fraction, ← Nat.shiftLeft_add_eq_or_of_lt exponent,
    Nat.shiftLeft_eq, Nat.shiftLeft_eq]
  cases negative with
  | false =>
    show (0 * 2 ^ 11 + e.toNat) * 2 ^ 52 + f.toNat = 0 + e.toNat * 2 ^ 52 + f.toNat
    omega
  | true =>
    show (1 * 2 ^ 11 + e.toNat) * 2 ^ 52 + f.toNat = 2 ^ 63 + e.toNat * 2 ^ 52 + f.toNat
    omega

/-- The parts of a word made of a sign, an exponent and a fraction. -/
theorem parts_components {x : Float} {negative : Bool} {e f : ℕ} (exponent : e < 2 ^ 11)
    (fraction : f < 2 ^ 52)
    (word : x.toBits.toNat = (if negative then 2 ^ 63 else 0) + e * 2 ^ 52 + f) :
    parts x =
      if e = 0x7FF then if f = 0 then .infinite negative else .nan
      else if e = 0 then .finite negative f (-1074)
      else .finite negative (f + 2 ^ 52) (e - 1075) := by
  have sign : decide (2 ^ 63 ≤ (if negative then 2 ^ 63 else 0) + e * 2 ^ 52 + f) = negative := by
    cases negative with
    | false =>
      rw [decide_eq_false_iff_not, if_neg Bool.false_ne_true]
      omega
    | true =>
      rw [decide_eq_true_iff, if_pos rfl]
      omega
  have middle : ((if negative then 2 ^ 63 else 0) + e * 2 ^ 52 + f) / 2 ^ 52 % 2 ^ 11 = e := by
    cases negative with
    | false =>
      rw [if_neg Bool.false_ne_true]
      omega
    | true =>
      rw [if_pos rfl]
      omega
  have rest : ((if negative then 2 ^ 63 else 0) + e * 2 ^ 52 + f) % 2 ^ 52 = f := by
    cases negative with
    | false =>
      rw [if_neg Bool.false_ne_true]
      omega
    | true =>
      rw [if_pos rfl]
      omega
  rw [parts_eq word, sign, middle, rest]

theorem parts_packComponents {negative : Bool} {g : UnpackedFloat} {e : BitVec 11} {f : BitVec 52}
    (components : pack .binary64 g = packComponents .binary64 (signOf negative) e f) :
    parts (packed g) =
      if e.toNat = 0x7FF then if f.toNat = 0 then .infinite negative else .nan
      else if e.toNat = 0 then .finite negative f.toNat (-1074)
      else .finite negative (f.toNat + 2 ^ 52) (e.toNat - 1075) := by
  refine parts_components e.isLt f.isLt ?_
  rw [← toNat_packComponents, ← components]
  rfl

theorem parts_infinity (negative : Bool) :
    parts (packed (.infinity (signOf negative))) = .infinite negative := by
  rw [parts_packComponents (e := -1) (f := 0) rfl]
  rfl

/-- A double is packed as it is, unless its exponent is too great. -/
theorem parts_packed (negative : Bool) {m : ℕ} {q : ℤ} (canonical : Canonical m q) :
    parts (packed (Parts.finite negative m q).unpacked) =
      if q ≤ 971 then .finite negative m q else .infinite negative := by
  obtain ⟨bits, full, least⟩ := canonical
  rcases Nat.eq_zero_or_pos m with rfl | pos
  · have lowest : q = -1074 := by omega
    rw [unpacked_zero, parts_packComponents (e := 0) (f := 0) rfl, lowest]
    rfl
  · rw [unpacked_finite negative q pos]
    have packs : pack .binary64 (.finite (signOf negative) m q pos) =
        if 2 ^ 11 ≤ (q + 1023 + 52).toNat + 1 then
          packComponents .binary64 (signOf negative) (-1) 0
        else if m.log2 + 1 = 53 then
          packComponents .binary64 (signOf negative) (.ofNat 11 (q + 1023 + 52).toNat) (.ofNat 52 m)
        else packComponents .binary64 (signOf negative) 0 (.ofNat 52 m) := rfl
    by_cases far : q ≤ 971
    · rw [if_pos far]
      rw [if_neg (by omega)] at packs
      by_cases long : 2 ^ 52 ≤ m
      · have bits53 : m.log2 + 1 = 53 := by
          have atLeast := (Nat.le_log2 pos.ne').2 long
          have atMost := (Nat.log2_lt pos.ne').2 bits
          omega
        rw [if_pos bits53] at packs
        have exponent : (BitVec.ofNat 11 (q + 1023 + 52).toNat).toNat = (q + 1075).toNat := by
          rw [BitVec.toNat_ofNat]
          omega
        have fraction : (BitVec.ofNat 52 m).toNat = m - 2 ^ 52 := by
          rw [BitVec.toNat_ofNat]
          omega
        have whole : m - 2 ^ 52 + 2 ^ 52 = m := Nat.sub_add_cancel long
        have unbiased : (((q + 1075).toNat : ℕ) : ℤ) - 1075 = q := by omega
        rw [parts_packComponents packs, exponent, fraction, if_neg (by omega), if_neg (by omega),
          whole, unbiased]
      · have fewer : m.log2 + 1 ≠ 53 := by
          have atMost := (Nat.log2_lt pos.ne').2 (not_le.1 long)
          omega
        rw [if_neg fewer] at packs
        have fraction : (BitVec.ofNat 52 m).toNat = m := by
          rw [BitVec.toNat_ofNat]
          omega
        rw [parts_packComponents packs, fraction, full.resolve_right long]
        rfl
    · rw [if_neg far]
      rw [if_pos (by omega)] at packs
      rw [parts_packComponents packs]
      rfl

theorem exponent_le {x : Float} {negative : Bool} {m : ℕ} {q : ℤ}
    (h : parts x = .finite negative m q) : q ≤ 971 := by
  rw [parts_eq rfl] at h
  generalize x.toBits.toNat = n at h
  split at h
  · split at h <;> cases h
  · split at h
    · cases h
      norm_num
    · cases h
      omega

end DeviceLink.Number
