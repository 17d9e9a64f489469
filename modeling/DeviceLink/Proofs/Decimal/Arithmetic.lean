import DeviceLink.Proofs.Decimal.Rounding
/-!
# What decimal arithmetic computes

Sums, differences and products are the exact ones, rounded to a decimal, and they fail only where
the limit is exceeded (`Settled`). A quotient of at most one in size never fails and is the exact
one to 28 places (`div_roundsTo`); rounding to a number of places gives the nearest number with that
many (`roundTo_roundsTo`). How digits are dropped one by one, nine at a time or in trailing zeros is
not seen in any of these.
-/
namespace DeviceLink.Decimal

/-! ## Values -/

/-- The sign of a decimal as a number. -/
def sign (negative : Bool) : ℤ := if negative then -1 else 1

/-- The number that a decimal stands for. -/
def value (d : Decimal) : ℚ := sign d.negative * d.mantissa / 10 ^ d.scale

theorem sign_bne (a b : Bool) : sign (a != b) = sign a * sign b := by
  cases a <;> cases b <;> rfl

theorem abs_sign_mul (negative : Bool) (n : ℕ) : |sign negative * (n : ℤ)| = n := by
  cases negative <;> simp [sign]

theorem abs_sign (negative : Bool) : |(sign negative : ℚ)| = 1 := by
  cases negative <;> simp [sign]

theorem sign_natAbs (m : ℤ) : m = sign (decide (m < 0)) * m.natAbs := by
  unfold sign
  by_cases neg : m < 0
  · rw [if_pos (decide_eq_true neg)]
    omega
  · rw [if_neg (by simpa using neg)]
    omega

/-- A zero that has lost its sign is worth the same. -/
theorem sign_of_zero (negative : Bool) (q : ℕ) :
    (sign (negative && q != 0) : ℚ) * q = sign negative * q := by
  cases negative with
  | false => rfl
  | true =>
    by_cases zero : q = 0
    · simp [zero]
    · have kept : (q != 0) = true := by simpa using zero
      rw [kept]
      rfl

theorem value_neg (d : Decimal) : d.neg.value = -d.value := by
  obtain ⟨negative, m, s⟩ := d
  cases negative <;> simp [neg, value, sign, neg_div]

/-- A decimal is rounded to itself. -/
theorem rounds_self (d : Decimal) : Rounds d.value d.value := by
  have below : |sign d.negative * (d.mantissa : ℤ)| < limit := by
    rw [abs_sign_mul]
    exact_mod_cast d.mantissa_lt
  have self := Rounds.self d.scale_le below
  push_cast at self
  exact self

theorem value_eq_zero_iff (d : Decimal) : d.value = 0 ↔ d.mantissa = 0 := by
  have unit : (sign d.negative : ℚ) ≠ 0 := by
    intro zero
    have := abs_sign d.negative
    rw [zero, abs_zero] at this
    exact zero_ne_one this
  simp [value, unit]

/-- The mantissa at a greater scale is the value in units of its last place. -/
theorem signedAt_eq (d : Decimal) {s : ℕ} (h : d.scale ≤ s) :
    (d.signedAt s : ℚ) = d.value * 10 ^ s := by
  have power : (10 : ℚ) ^ s = 10 ^ (s - d.scale) * 10 ^ d.scale := by
    rw [← pow_add]
    congr 1
    omega
  rw [signedAt, value, power]
  cases d.negative with
  | false =>
    simp [sign]
    field_simp
  | true =>
    simp [sign]
    field_simp

/-! ## Whole quotients -/

section
variable {q r d : ℕ}

/-- Less than half a unit is dropped, more than half a unit counts as one. -/
theorem nearest_below (tie : Tie) (h : 2 * r < d) : Nearest tie (q + r / d) q := by
  have pos : (0 : ℚ) < d := by exact_mod_cast (by omega : 0 < d)
  have half : (r : ℚ) / d < 1 / 2 := by
    rw [div_lt_div_iff₀ pos (by norm_num)]
    exact_mod_cast (by omega : r * 2 < 1 * d)
  have rest : (0 : ℚ) ≤ r / d := by positivity
  have gap : |(q : ℚ) + r / d - (q : ℤ)| = r / d := by
    push_cast
    rw [add_sub_cancel_left, abs_of_nonneg rest]
  exact ⟨by rw [gap]; exact half.le, fun eq => absurd (gap ▸ eq) half.ne⟩

theorem nearest_above (tie : Tie) (less : r < d) (h : d < 2 * r) :
    Nearest tie (q + r / d) (q + 1 : ℕ) := by
  have pos : (0 : ℚ) < d := by exact_mod_cast (by omega : 0 < d)
  have half : 1 / 2 < (r : ℚ) / d := by
    rw [div_lt_div_iff₀ (by norm_num) pos]
    exact_mod_cast (by omega : 1 * d < r * 2)
  have rest : (r : ℚ) / d ≤ 1 := by
    rw [div_le_one pos]
    exact_mod_cast less.le
  have gap : |(q : ℚ) + r / d - ((q + 1 : ℕ) : ℤ)| = 1 - r / d := by
    push_cast
    rw [abs_of_nonpos (by linarith)]
    ring
  exact ⟨by rw [gap]; linarith, fun eq => by rw [gap] at eq; linarith⟩

/-- Half a unit goes where the rule says. -/
theorem nearest_half {tie : Tie} (pos : 0 < d) (h : 2 * r = d) {n : ℕ} (hn : n = q ∨ n = q + 1)
    (picked : tie (q + 1 / 2) n) : Nearest tie (q + r / d) n := by
  have half : (r : ℚ) / d = 1 / 2 := by
    rw [div_eq_div_iff (by exact_mod_cast pos.ne') (by norm_num)]
    exact_mod_cast (by omega : r * 2 = 1 * d)
  rw [half]
  refine ⟨?_, fun _ => picked⟩
  rcases hn with rfl | rfl
  · push_cast
    rw [add_sub_cancel_left, abs_of_nonneg (by norm_num)]
  · push_cast
    rw [abs_of_nonpos (by linarith)]
    linarith

end

/-- A quotient is its whole part and the rest of it. -/
theorem div_eq_whole (a : ℕ) {b : ℕ} (pos : 0 < b) :
    (a : ℚ) / b = (a / b : ℕ) + (a % b : ℕ) / b := by
  have whole : (a : ℚ) = b * (a / b : ℕ) + (a % b : ℕ) := by
    exact_mod_cast (Nat.div_add_mod a b).symm
  have nonzero : (b : ℚ) ≠ 0 := by exact_mod_cast pos.ne'
  rw [div_eq_iff nonzero, add_mul, div_mul_cancel₀ _ nonzero, whole]
  ring

theorem divEven_nearest (a : ℕ) {b : ℕ} (pos : 0 < b) :
    Nearest toEven (a / b) (divEven a b) := by
  have less : a % b < b := Nat.mod_lt a pos
  rw [div_eq_whole a pos]
  unfold divEven
  dsimp only
  split
  · next h => exact nearest_below _ h
  · split
    · next h => exact nearest_above _ less h
    · refine nearest_half pos (by omega) (by omega) ?_
      exact (Int.even_coe_nat _).2 (Nat.even_iff.2 (by omega))

theorem divHalf_nearest (half : Half) (a : ℕ) {b : ℕ} (pos : 0 < b) :
    Nearest half.tie (a / b) (divHalf half a b) := by
  have less : a % b < b := Nat.mod_lt a pos
  rw [div_eq_whole a pos]
  cases half with
  | awayFromZero =>
    dsimp only [divHalf, divUp]
    generalize a / b = q
    split
    · next h => exact nearest_below _ h
    · next h =>
      rcases Nat.lt_or_eq_of_le (Nat.le_of_not_lt h) with above | same
      · exact nearest_above _ less above
      · refine nearest_half pos same.symm (.inr rfl) ?_
        rw [Half.tie]
        push_cast
        rw [abs_of_nonneg (by positivity), abs_of_nonneg (by positivity)]
        linarith
  | towardZero =>
    dsimp only [divHalf, divDown]
    generalize a / b = q
    split
    · next h => exact nearest_above _ less h
    · next h =>
      rcases Nat.lt_or_eq_of_le (Nat.le_of_not_lt h) with below | same
      · exact nearest_below _ below
      · refine nearest_half pos same (.inl rfl) ?_
        rw [Half.tie]
        push_cast
        rw [abs_of_nonneg (by positivity), abs_of_nonneg (by positivity)]
        linarith

/-- A rule that treats both sides of zero alike goes with any sign. -/
theorem Nearest.signed {tie : Tie} {x : ℚ} {n : ℤ} (odd : tie.Odd) (h : Nearest tie x n)
    (negative : Bool) : Nearest tie (sign negative * x) (sign negative * n) := by
  cases negative with
  | false => simpa [sign] using h
  | true => simpa [sign] using h.neg odd

/-! ## Sums, differences and products -/

/-- What comes of the exact result `v`: the rounded one, or nothing beyond the limit. -/
def Settled (v : ℚ) : Option Decimal → Prop
  | some d => Rounds v d.value
  | none => limit - 1 / 2 ≤ |v|

theorem Settled.exists {v : ℚ} {o : Option Decimal} (h : Settled v o)
    (small : |v| < limit - 1 / 2) : ∃ d, o = some d ∧ Rounds v d.value := by
  cases o with
  | none => exact absurd small (not_lt.2 h)
  | some d => exact ⟨d, rfl, h⟩

/-- A mantissa and a scale as they may be make a decimal. -/
theorem ofParts?_some (negative : Bool) {m s : ℕ} (mantissa : m < limit) (scale : s ≤ maxScale) :
    ∃ d, ofParts? negative m s = some d ∧ d.value = sign negative * m / 10 ^ s :=
  ⟨_, dif_pos ⟨mantissa, scale⟩, congrArg (· / (10 : ℚ) ^ s) (sign_of_zero negative m)⟩

/-- They need no rounding. -/
theorem settled_exactly (negative : Bool) {m s : ℕ} (mantissa : m < limit)
    (scale : s ≤ maxScale) : Settled (sign negative * m / 10 ^ s) (ofParts? negative m s) := by
  obtain ⟨d, parts, exactly⟩ := ofParts?_some negative mantissa scale
  rw [parts, ← exactly]
  exact d.rounds_self

theorem divEven_le (m b : ℕ) : divEven m b ≤ m + 1 := by
  have := Nat.div_le_self m b
  unfold divEven
  dsimp only
  split
  · omega
  · split
    · omega
    · have := Nat.mod_lt (m / b) (by norm_num : 0 < 2)
      omega

theorem div_le_divEven (m b : ℕ) : m / b ≤ divEven m b := by
  unfold divEven
  dsimp only
  split
  · exact le_rfl
  · split
    · omega
    · omega

/-- Digits are dropped one at a time, until it fits. -/
theorem shrink_eq_some {m s k q t : ℕ} (h : shrink m s k = some (q, t)) :
    ∃ j, k ≤ j ∧ j ≤ s ∧ t = s - j ∧ q = divEven m (10 ^ j) ∧ q < limit ∧
      (j = k ∨ k < j ∧ limit ≤ divEven m (10 ^ (j - 1))) := by
  fun_induction shrink m s k with
  | case1 k stop => cases h
  | case2 k go q' fits =>
    obtain ⟨hq, ht⟩ := Prod.mk.inj (Option.some.inj h)
    exact ⟨k, le_rfl, by omega, ht.symm, hq.symm, hq ▸ fits.2, .inl rfl⟩
  | case3 k go q' large ih =>
    obtain ⟨j, hj, hs, ht, hq, below, before⟩ := ih h
    refine ⟨j, by omega, hs, ht, hq, below, .inr ⟨by omega, ?_⟩⟩
    rcases before with rfl | ⟨-, before⟩
    · have smaller : m / 10 ^ k ≤ divEven m (10 ^ k) := div_le_divEven ..
      have reached : ¬ (m / 10 ^ k < limit ∧ divEven m (10 ^ k) < limit) := large
      rw [Nat.add_sub_cancel]
      omega
    · exact before

theorem shrink_eq_none {m s k : ℕ} (h : shrink m s k = none) (le : k ≤ s) :
    limit ≤ divEven m (10 ^ s) := by
  fun_induction shrink m s k with
  | case1 k stop => omega
  | case2 k go q' fits => cases h
  | case3 k go q' large ih =>
    rcases Nat.lt_or_eq_of_le le with more | rfl
    · exact ih h more
    · have smaller : m / 10 ^ k ≤ divEven m (10 ^ k) := div_le_divEven ..
      have reached : ¬ (m / 10 ^ k < limit ∧ divEven m (10 ^ k) < limit) := large
      omega

theorem le_of_limit_le_divEven {m j : ℕ} (h : limit ≤ divEven m (10 ^ j)) :
    (limit : ℚ) - 1 / 2 ≤ m / 10 ^ j := by
  have near := divEven_nearest m (by positivity : 0 < 10 ^ j)
  have beyond : ¬ ((divEven m (10 ^ j) : ℕ) : ℤ) < limit := by omega
  rw [near.lt_limit_iff, not_lt] at beyond
  push_cast at beyond
  exact beyond

theorem abs_scaled (negative : Bool) (m s : ℕ) :
    |(sign negative : ℚ) * m / 10 ^ s| = m / 10 ^ s := by
  rw [abs_div, abs_mul, abs_sign, one_mul, Nat.abs_cast, abs_of_pos (by positivity)]

/-- To drop `j` digits is to keep as many places as are left. -/
theorem shortened_divEven (negative : Bool) {m s j : ℕ} (le : j ≤ s) (places : s - j ≤ maxScale)
    (below : divEven m (10 ^ j) < limit)
    (most : j = 0 ∨ s - j = maxScale ∨ 0 < j ∧ (limit : ℚ) - 1 / 2 ≤ m / 10 ^ (j - 1)) :
    Shortened (sign negative * m / 10 ^ s) (s - j)
      (sign negative * (divEven m (10 ^ j) : ℕ)) := by
  have power : (10 : ℚ) ^ s = 10 ^ j * 10 ^ (s - j) := by rw [← pow_add]; congr 1; omega
  have scaled : (sign negative : ℚ) * m / 10 ^ s * 10 ^ (s - j) =
      sign negative * (m / (10 ^ j : ℕ)) := by
    rw [power]
    push_cast
    field_simp
  constructor
  · exact places
  · rw [abs_sign_mul]
    exact_mod_cast below
  · rw [scaled]
    exact (divEven_nearest m (by positivity)).signed toEven_odd negative
  · rcases most with rfl | all | ⟨pos, beyond⟩
    · left
      rw [scaled]
      simp [divEven, Nat.mod_one]
    · exact .inr (.inl all)
    · have finer : (10 : ℚ) ^ s = 10 ^ (j - 1) * 10 ^ (s - j + 1) := by
        rw [← pow_add]
        congr 1
        omega
      right
      right
      rw [abs_scaled, finer, div_mul_eq_mul_div, mul_div_mul_right _ _ (by positivity)]
      exact beyond

theorem settled_dropped (negative : Bool) {m s j : ℕ} (le : j ≤ s) (places : s - j ≤ maxScale)
    (below : divEven m (10 ^ j) < limit)
    (most : j = 0 ∨ s - j = maxScale ∨ 0 < j ∧ (limit : ℚ) - 1 / 2 ≤ m / 10 ^ (j - 1)) :
    Settled (sign negative * m / 10 ^ s) (ofParts? negative (divEven m (10 ^ j)) (s - j)) := by
  obtain ⟨d, parts, worth⟩ := ofParts?_some negative below places
  rw [parts]
  refine ⟨s - j, _, shortened_divEven negative le places below most, ?_⟩
  rw [worth]
  push_cast
  rfl

/-- Shortening rounds, and fails beyond the limit only. It may begin with no digit dropped, or with
as many as leave all places that there may be. -/
theorem settled_shorten (negative : Bool) {m s k : ℕ} (le : k ≤ s) (places : s - k ≤ maxScale)
    (start : k = 0 ∨ s - k = maxScale) :
    Settled (sign negative * m / 10 ^ s) (shorten negative m s k) := by
  unfold shorten
  cases shrunk : shrink m s k with
  | none =>
    show (limit : ℚ) - 1 / 2 ≤ |(sign negative : ℚ) * m / 10 ^ s|
    rw [abs_scaled]
    exact le_of_limit_le_divEven (shrink_eq_none shrunk le)
  | some qt =>
    obtain ⟨q, t⟩ := qt
    obtain ⟨j, hj, hs, rfl, rfl, below, before⟩ := shrink_eq_some shrunk
    refine settled_dropped negative hs (by omega) below ?_
    rcases before with rfl | ⟨more, beyond⟩
    · exact start.imp_right .inl
    · exact .inr (.inr ⟨by omega, le_of_limit_le_divEven beyond⟩)

theorem add_settled (a b : Decimal) : Settled (a.value + b.value) (a.add b) := by
  unfold add
  by_cases zero : a.mantissa = 0
  · rw [if_pos zero, (value_eq_zero_iff a).2 zero, zero_add]
    exact b.rounds_self
  · rw [if_neg zero]
    by_cases zero' : b.mantissa = 0
    · rw [if_pos zero', (value_eq_zero_iff b).2 zero', add_zero]
      exact a.rounds_self
    · rw [if_neg zero']
      dsimp only
      generalize scales : max a.scale b.scale = s
      have places : s ≤ maxScale := by
        rw [← scales]
        exact max_le a.scale_le b.scale_le
      generalize total : a.signedAt s + b.signedAt s = m
      have exactly : a.value + b.value = sign (decide (m < 0)) * m.natAbs / 10 ^ s := by
        have sum : (m : ℚ) = (a.value + b.value) * 10 ^ s := by
          rw [← total]
          push_cast
          rw [signedAt_eq a (by omega), signedAt_eq b (by omega)]
          ring
        have parts : (m : ℚ) = sign (decide (m < 0)) * m.natAbs := by
          rw [← Int.cast_natCast, ← Int.cast_mul, ← sign_natAbs]
        rw [← parts, sum]
        field_simp
      rw [exactly]
      split
      · exact settled_shorten _ (Nat.zero_le _) (by omega) (.inl rfl)
      · exact settled_exactly _ (by omega) places

theorem sub_settled (a b : Decimal) : Settled (a.value - b.value) (a.sub b) := by
  rw [sub_eq_add_neg, ← value_neg]
  exact add_settled a b.neg

theorem sub_rounds {a b d : Decimal} (h : a.sub b = some d) :
    Rounds (a.value - b.value) d.value := by
  have settled := sub_settled a b
  rwa [h] at settled

/-- A difference that is a decimal is worked out without rounding. -/
theorem sub_exactly {a b d : Decimal} (h : d.value = a.value - b.value) :
    ∃ e, a.sub b = some e ∧ e.value = d.value := by
  have settled := sub_settled a b
  rw [← h] at settled
  obtain ⟨e, he, rounded⟩ := settled.exists d.rounds_self.abs_lt
  exact ⟨e, he, rounded.unique d.rounds_self⟩

/-- What is worth less than half a unit of the last place is nothing. -/
theorem settled_zero {v : ℚ} (tiny : |v| * 10 ^ maxScale < 1 / 2) : Settled v (some zero) := by
  have scaled : |v * 10 ^ maxScale| = |v| * 10 ^ maxScale := by
    rw [abs_mul, abs_of_pos (by positivity : (0 : ℚ) < 10 ^ maxScale)]
  refine ⟨maxScale, 0, ?_, by simp [value, zero, signedZero]⟩
  constructor
  · exact le_rfl
  · decide
  · constructor
    · rw [Int.cast_zero, sub_zero, scaled]
      exact tiny.le
    · intro half
      rw [Int.cast_zero, sub_zero, scaled] at half
      exact absurd half tiny.ne
  · exact .inr (.inl rfl)

/-- A product of two words that far behind the point is nothing. -/
theorem settled_far (negative : Bool) {m s : ℕ} (words : m < 2 ^ 64) (far : 47 < s) :
    Settled (sign negative * m / 10 ^ s) (some zero) := by
  refine settled_zero ?_
  rw [abs_scaled]
  have tiny : (m : ℚ) ≤ 2 ^ 64 := by exact_mod_cast words.le
  have scale : (10 : ℚ) ^ s = 10 ^ maxScale * 10 ^ (s - 28) := by
    rw [← pow_add]
    congr 1
    show s = 28 + (s - 28)
    omega
  have power : (10 : ℚ) ^ 20 ≤ 10 ^ (s - 28) := pow_le_pow_right₀ (by norm_num) (by omega)
  rw [scale, div_mul_eq_mul_div, mul_comm (m : ℚ), mul_div_mul_left _ _ (by positivity)]
  calc (m : ℚ) / 10 ^ (s - 28) ≤ 2 ^ 64 / 10 ^ 20 := by gcongr
    _ < 1 / 2 := by norm_num

/-- Any other one keeps all places. -/
theorem settled_long (negative : Bool) {m s : ℕ} (words : m < 2 ^ 64) (long : maxScale < s) :
    Settled (sign negative * m / 10 ^ s)
      (ofParts? negative (divEven m (10 ^ (s - maxScale))) maxScale) := by
  have below : divEven m (10 ^ (s - maxScale)) < limit := by
    have : divEven m (10 ^ (s - maxScale)) ≤ m + 1 := divEven_le ..
    rw [limit_eq]
    omega
  have places : s - (s - maxScale) = maxScale := by omega
  have kept := settled_dropped negative (Nat.sub_le s maxScale) places.le below
    (.inr (.inl places))
  rwa [places] at kept

theorem mul_settled (a b : Decimal) : Settled (a.value * b.value) (a.mul b) := by
  have exactly : a.value * b.value = sign (a.negative != b.negative) *
      (a.mantissa * b.mantissa : ℕ) / 10 ^ (a.scale + b.scale) := by
    rw [value, value, sign_bne, pow_add]
    push_cast
    field_simp
  have places := a.scale_le
  have places' := b.scale_le
  unfold mul
  by_cases nothing : a.mantissa = 0 ∨ b.mantissa = 0
  · have product : a.value * b.value = 0 := by
      rcases nothing with h | h
      · rw [(value_eq_zero_iff a).2 h, zero_mul]
      · rw [(value_eq_zero_iff b).2 h, mul_zero]
    rw [if_pos nothing, product]
    exact settled_zero (by norm_num)
  · rw [if_neg nothing, exactly]
    dsimp only
    generalize (a.negative != b.negative) = negative
    by_cases short : a.mantissa < Nat.pow 2 32 ∧ b.mantissa < Nat.pow 2 32
    · rw [if_pos short]
      have words : a.mantissa * b.mantissa < 2 ^ 64 := by
        calc a.mantissa * b.mantissa < 2 ^ 32 * 2 ^ 32 := Nat.mul_lt_mul'' short.1 short.2
          _ = 2 ^ 64 := by norm_num
      generalize a.mantissa * b.mantissa = m at words ⊢
      generalize a.scale + b.scale = s
      split
      · next far => exact settled_far negative words far
      · split
        · next long => exact settled_long negative words long
        · refine settled_exactly _ ?_ (by omega)
          rw [limit_eq]
          omega
    · rw [if_neg short]
      split
      · exact settled_shorten _ (Nat.sub_le _ _) (by omega) (by omega)
      · exact settled_exactly _ (by omega) (by omega)

/-! ## Quotients -/

theorem power_split {s : ℤ} {p : ℕ} (le : p ≤ maxScale - s) :
    (10 : ℚ) ^ (maxScale - s).toNat = 10 ^ p * 10 ^ (maxScale - (s + p)).toNat := by
  rw [← pow_add]
  congr 1
  omega

/-- However many digits are worked out in one round, the quotient is the exact one to all places.
The induction is on the rounds left, with what they have to find as the invariant. -/
theorem divLoop_nearest {d : ℕ} (fuel : ℕ) :
    ∀ {q r : ℕ} {s : ℤ} (inexact : Bool), r < d → s ≤ maxScale → maxScale - s < fuel →
      let out := divLoop d fuel q r s inexact
      0 ≤ out.2.1 ∧ out.2.1 ≤ maxScale ∧
        Nearest toEven ((q + r / d) * 10 ^ (maxScale - s).toNat)
          (out.1 * 10 ^ (maxScale - out.2.1).toNat : ℕ) := by
  induction fuel with
  | zero =>
    intro q r s inexact less scale enough
    omega
  | succ fuel ih =>
    intro q r s inexact less scale enough
    have pos : 0 < d := by omega
    rw [divLoop]
    by_cases rest : r = 0
    · rw [if_pos rest, rest]
      by_cases fraction : 0 ≤ s
      · rw [if_pos fraction]
        refine ⟨fraction, scale, ?_⟩
        simpa using Nearest.self toEven (q * 10 ^ (maxScale - s).toNat)
      · rw [if_neg fraction]
        dsimp only
        generalize digits : min 9 (-s).toNat = p
        obtain ⟨low, high, near⟩ := ih (q := q * 10 ^ p) (r := 0) (s := s + p) inexact pos
          (by omega) (by omega)
        refine ⟨low, high, ?_⟩
        have same : ((q : ℚ) + (0 : ℕ) / d) * 10 ^ (maxScale - s).toNat =
            ((q * 10 ^ p : ℕ) + (0 : ℕ) / d) * 10 ^ (maxScale - (s + p)).toNat := by
          rw [power_split (p := p) (by omega)]
          push_cast
          ring
        rw [same]
        exact near
    · rw [if_neg rest]
      by_cases last : s = maxScale
      · rw [if_pos last, last]
        refine ⟨Int.natCast_nonneg _, le_rfl, ?_⟩
        dsimp only
        rw [sub_self, Int.toNat_zero, pow_zero, mul_one, pow_zero, mul_one]
        by_cases up : d < 2 * r ∨ 2 * r = d ∧ q % 2 = 1
        · rw [if_pos up]
          rcases up with above | ⟨half, odd⟩
          · exact nearest_above _ less above
          · refine nearest_half pos half (.inr rfl) ?_
            exact (Int.even_coe_nat _).2 (Nat.even_iff.2 (by omega))
        · rw [if_neg up, Nat.add_zero]
          rcases Nat.lt_or_ge (2 * r) d with below | reached
          · exact nearest_below _ below
          · refine nearest_half pos (by omega) (.inl rfl) ?_
            exact (Int.even_coe_nat _).2 (Nat.even_iff.2 (by omega))
      · rw [if_neg last]
        dsimp only
        generalize digits : min 9 ((maxScale : ℤ) - s).toNat = p
        obtain ⟨low, high, near⟩ := ih (q := q * 10 ^ p + r * 10 ^ p / d)
          (r := r * 10 ^ p % d) (s := s + p) true (Nat.mod_lt _ pos) (by omega) (by omega)
        refine ⟨low, high, ?_⟩
        have whole := div_eq_whole (r * 10 ^ p) pos
        have same : ((q : ℚ) + r / d) * 10 ^ (maxScale - s).toNat =
            ((q * 10 ^ p + r * 10 ^ p / d : ℕ) + (r * 10 ^ p % d : ℕ) / d) *
              10 ^ (maxScale - (s + p)).toNat := by
          rw [power_split (p := p) (by omega), Nat.cast_add, add_assoc, ← whole]
          push_cast
          ring
        rw [same]
        exact near

/-- Zeros at the end of a fraction may be dropped. -/
structure Stripped (before after : ℕ × ℕ) : Prop where
  scale    : after.2 ≤ before.2
  mantissa : before.1 = after.1 * 10 ^ (before.2 - after.2)

theorem Stripped.refl (x : ℕ × ℕ) : Stripped x x := ⟨le_rfl, by simp⟩

theorem Stripped.trans {x y z : ℕ × ℕ} (h : Stripped x y) (h' : Stripped y z) : Stripped x z where
  scale := h'.scale.trans h.scale
  mantissa := by
    have := h.scale
    have := h'.scale
    rw [h.mantissa, h'.mantissa, mul_assoc, ← pow_add]
    congr 2
    omega

/-- In units of the last of all places nothing is dropped. -/
theorem Stripped.units {q s : ℕ} {x : ℕ × ℕ} (h : Stripped (q, s) x) (le : s ≤ maxScale) :
    q * 10 ^ (maxScale - s) = x.1 * 10 ^ (maxScale - x.2) := by
  obtain ⟨scale, mantissa⟩ := h
  dsimp only at scale mantissa
  rw [mantissa, mul_assoc, ← pow_add]
  congr 2
  omega

theorem stripped_zeros {k q s : ℕ} (le : k ≤ s) (zeros : q % 10 ^ k = 0) :
    Stripped (q, s) (q / 10 ^ k, s - k) where
  scale := Nat.sub_le s k
  mantissa := by
    dsimp only
    rw [Nat.sub_sub_self le]
    exact (Nat.div_mul_cancel (Nat.dvd_of_mod_eq_zero zeros)).symm

theorem stripped_stripOnce (k : ℕ) (x : ℕ × ℕ) : Stripped x (stripOnce k x) := by
  unfold stripOnce
  split
  · next h => exact stripped_zeros h.1 h.2
  · exact .refl x

theorem stripped_stripEights (fuel : ℕ) : ∀ x, Stripped x (stripEights fuel x) := by
  induction fuel with
  | zero => exact .refl
  | succ fuel ih =>
    intro x
    unfold stripEights
    split
    · next h => exact (stripped_zeros h.2.1 h.2.2).trans (ih _)
    · exact .refl x

theorem stripped_stripZeros (q s : ℕ) : Stripped (q, s) (stripZeros q s) :=
  (stripped_stripEights (s + 1) (q, s)).trans <|
    (stripped_stripOnce 4 _).trans <| (stripped_stripOnce 2 _).trans (stripped_stripOnce 1 _)

/-- A quotient in units of the last of all places, by its sign and its digits. -/
theorem quotient_eq (a b : Decimal) :
    a.value / b.value * 10 ^ maxScale = sign (a.negative != b.negative) *
      ((a.mantissa : ℚ) / b.mantissa * 10 ^ (maxScale - ((a.scale : ℤ) - b.scale)).toNat) := by
  generalize places : (maxScale - ((a.scale : ℤ) - b.scale)).toNat = k
  have places' := a.scale_le
  have power : (10 : ℚ) ^ maxScale = 10 ^ k * 10 ^ a.scale / 10 ^ b.scale := by
    rw [eq_div_iff (by positivity), ← pow_add, ← pow_add]
    congr 1
    omega
  have unit : (sign b.negative : ℚ) ≠ 0 := by
    cases b.negative <;> simp [sign]
  have signs : (sign (a.negative != b.negative) : ℚ) = sign a.negative / sign b.negative := by
    cases a.negative <;> cases b.negative <;> simp [sign]
  rw [value, value, signs, power]
  field_simp

theorem quotient_le {a b : Decimal} (small : |a.value| ≤ |b.value|) :
    (a.mantissa : ℚ) / b.mantissa * 10 ^ (maxScale - ((a.scale : ℤ) - b.scale)).toNat ≤
      10 ^ maxScale := by
  have size := congrArg abs (quotient_eq a b)
  rw [abs_mul, abs_mul, abs_sign, one_mul, abs_div] at size
  have ratio : |a.value| / |b.value| ≤ 1 := div_le_one_of_le₀ small (abs_nonneg _)
  calc _ ≤ |(a.mantissa : ℚ) / b.mantissa *
          10 ^ (maxScale - ((a.scale : ℤ) - b.scale)).toNat| := le_abs_self _
    _ = |a.value| / |b.value| * |10 ^ maxScale| := size.symm
    _ ≤ 1 * |10 ^ maxScale| := by gcongr
    _ = 10 ^ maxScale := by rw [one_mul, abs_of_pos (by positivity)]

/-- Digits make the decimal that `v` is rounded to if that is what they are in units of the last of
all places. -/
theorem ofParts?_roundsTo {negative : Bool} {v u : ℚ} {m s : ℕ} (places : s ≤ maxScale)
    (units : v * 10 ^ maxScale = sign negative * u)
    (near : Nearest toEven u (m * 10 ^ (maxScale - s) : ℕ)) (small : u ≤ 10 ^ maxScale) :
    ∃ d, ofParts? negative m s = some d ∧ RoundsTo toEven maxScale v d.value := by
  have one : Nearest toEven (10 ^ maxScale) (10 ^ maxScale : ℕ) := by
    exact_mod_cast Nearest.self toEven (10 ^ maxScale : ℕ)
  have bounded : m * 10 ^ (maxScale - s) ≤ 10 ^ maxScale := by
    exact_mod_cast near.mono toEven_fair one small
  have below : m < limit :=
    calc m = m * 1 := (mul_one _).symm
      _ ≤ m * 10 ^ (maxScale - s) := by gcongr; exact Nat.one_le_pow' _ _
      _ ≤ 10 ^ maxScale := bounded
      _ < limit := by decide
  obtain ⟨d, parts, worth⟩ := ofParts?_some negative below places
  refine ⟨d, parts, sign negative * (m * 10 ^ (maxScale - s) : ℕ), ?_, ?_⟩
  · rw [units]
    exact near.signed toEven_odd _
  · have power : (10 : ℚ) ^ maxScale = 10 ^ (maxScale - s) * 10 ^ s := by
      rw [← pow_add]
      congr 1
      omega
    rw [worth, power]
    push_cast
    field_simp

/-- A quotient of at most one is the nearest one with all places. -/
theorem div_roundsTo {a b : Decimal} (nonzero : b.mantissa ≠ 0) (small : |a.value| ≤ |b.value|) :
    ∃ d, a.div b = some d ∧ RoundsTo toEven maxScale (a.value / b.value) d.value := by
  unfold div
  rw [if_neg nonzero]
  by_cases nothing : a.mantissa = 0
  · rw [if_pos nothing]
    refine ⟨zero, rfl, ?_⟩
    rw [(value_eq_zero_iff a).2 nothing, zero_div, (value_eq_zero_iff zero).2 rfl]
    exact_mod_cast RoundsTo.whole toEven maxScale 0
  · rw [if_neg nothing]
    dsimp only
    have pos : 0 < b.mantissa := Nat.pos_of_ne_zero nonzero
    have places := a.scale_le
    have most : b.scale ≤ 28 := b.scale_le
    have all : maxScale = 28 := rfl
    obtain ⟨low, high, near⟩ := divLoop_nearest 64 (q := a.mantissa / b.mantissa)
      (s := (a.scale : ℤ) - b.scale) false (Nat.mod_lt a.mantissa pos) (by omega) (by omega)
    rw [← div_eq_whole a.mantissa pos] at near
    generalize divLoop b.mantissa 64 (a.mantissa / b.mantissa) (a.mantissa % b.mantissa)
      ((a.scale : ℤ) - b.scale) false = out at low high near ⊢
    obtain ⟨q, s, inexact⟩ := out
    dsimp only at low high near ⊢
    have stripped : Stripped (q, s.toNat)
        (if inexact = true then stripZeros q s.toNat else (q, s.toNat)) := by
      split
      · exact stripped_stripZeros q s.toNat
      · exact .refl _
    generalize (if inexact = true then stripZeros q s.toNat else (q, s.toNat)) = x at stripped ⊢
    have fewer : x.2 ≤ maxScale := stripped.scale.trans (by dsimp only; omega)
    rw [show (maxScale - s).toNat = maxScale - s.toNat by omega, stripped.units (by omega)] at near
    exact ofParts?_roundsTo fewer (quotient_eq a b) near (quotient_le small)

/-- Rounding to a number of places is rounding of what is counted in units of the last one. -/
theorem roundTo_roundsTo (half : Half) (places : ℕ) (d : Decimal) :
    RoundsTo half.tie places d.value (d.roundTo half places).value := by
  unfold roundTo
  by_cases few : d.scale ≤ places
  · rw [dif_pos few]
    refine ⟨d.signedAt places, ?_, ?_⟩
    · rw [← signedAt_eq d few]
      exact Nearest.self _ _
    · rw [signedAt_eq d few]
      field_simp
  · rw [dif_neg few]
    have power : (10 : ℚ) ^ d.scale = 10 ^ (d.scale - places) * 10 ^ places := by
      rw [← pow_add]
      congr 1
      omega
    have scaled : d.value * 10 ^ places =
        sign d.negative * (d.mantissa / (10 ^ (d.scale - places) : ℕ)) := by
      rw [value, power]
      push_cast
      field_simp
    refine ⟨sign d.negative * (divHalf half d.mantissa (10 ^ (d.scale - places)) : ℕ), ?_, ?_⟩
    · rw [scaled]
      exact (divHalf_nearest half d.mantissa (by positivity)).signed half.tie_odd d.negative
    · rw [value]
      push_cast
      exact congrArg (· / (10 : ℚ) ^ places) (sign_of_zero d.negative _)

end DeviceLink.Decimal
