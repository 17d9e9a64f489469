import DeviceLink.Proofs.Number.Operations
/-!
# Results that are finite

A result is finite if the exact one is no greater than some double, and then it is no greater than
that double either. Bounds by powers of two therefore go through sums and products as if nothing
were rounded (`AtMost.add`, `AtMost.mul`); a divisor of one or more takes nothing away from them
(`AtMost.div`).

Two quotients need more than that. Of two differences, the lesser one in size over the greater one
is two at most, though each is rounded on its own (`ratio_atMost`). And a power of ten by repeated
squaring is off by little for each of its factors (`pow10_atMost`): it is finite as long as the
power itself is, with some room.
-/
namespace DeviceLink.Number

open Float.Model UnpackedFloat

/-- Finite, and no greater than `b` in size. -/
def AtMost (b : ℚ) (x : Float) : Prop :=
  ∃ a m q, parts x = .finite a m q ∧ (m : ℚ) * 2 ^ q ≤ b

/-- No less than `b` in size, infinite maybe. -/
def AtLeast (b : ℚ) (x : Float) : Prop :=
  ∃ a, parts x = .infinite a ∨ ∃ m q, parts x = .finite a m q ∧ b ≤ (m : ℚ) * 2 ^ q

theorem isFinite_eq (x : Float) : isFinite x = (parts x).unpacked.isFinite := by
  rw [← unpack_eq]
  rfl

theorem isFinite_unpacked (negative : Bool) (m : ℕ) (q : ℤ) :
    (Parts.finite negative m q).unpacked.isFinite = true := by
  rcases Nat.eq_zero_or_pos m with rfl | pos
  · rw [unpacked_zero]
    rfl
  · rw [unpacked_finite negative q pos]
    rfl

theorem isFinite_iff {x : Float} : isFinite x = true ↔ ∃ a m q, parts x = .finite a m q := by
  rw [isFinite_eq]
  cases hx : parts x with
  | nan =>
    constructor
    · intro finite
      cases finite
    · rintro ⟨_, _, _, made⟩
      cases made
  | infinite a =>
    constructor
    · intro finite
      cases finite
    · rintro ⟨_, _, _, made⟩
      cases made
  | finite a m q => exact ⟨fun _ => ⟨a, m, q, rfl⟩, fun _ => isFinite_unpacked a m q⟩

section
variable {x y : Float} {b c v : ℚ}

theorem AtMost.isFinite (h : AtMost b x) : isFinite x = true := by
  obtain ⟨a, m, q, hx, -⟩ := h
  exact isFinite_iff.2 ⟨a, m, q, hx⟩

theorem AtMost.mono (h : AtMost b x) (le : b ≤ c) : AtMost c x := by
  obtain ⟨a, m, q, hx, size⟩ := h
  exact ⟨a, m, q, hx, size.trans le⟩

theorem AtMost.neg (h : AtMost b x) : AtMost b (-x) := by
  obtain ⟨a, m, q, hx, size⟩ := h
  exact ⟨!a, m, q, parts_neg hx, size⟩

theorem atMost_zero : AtMost 0 0 :=
  ⟨false, 0, -1074, by decide +kernel, by simp⟩

/-- A result is finite and within a power of two if the exact one is. -/
theorem Sized.atMost (h : Sized v x) {k : ℤ} (le : v ≤ 2 ^ k) (range : -1022 ≤ k ∧ k ≤ 1023) :
    AtMost (2 ^ k) x := by
  rw [← power_eq] at le ⊢
  exact h.finite (canonical_power range.1) (by omega) le

/-- And no less than one if the exact one is no less. -/
theorem Sized.atLeast (h : Sized v x) (le : 1 ≤ v) : AtLeast 1 x := by
  obtain ⟨a, m, q, beside, hx⟩ := h
  have one : ((2 ^ 52 : ℕ) : ℚ) * 2 ^ ((0 : ℤ) - 52) = 1 := by
    rw [power_eq, zpow_zero]
  have size := beside.greatest (canonical_power (k := 0) (by norm_num)) (one.le.trans le)
  rw [one] at size
  split at hx
  · exact ⟨a, .inr ⟨m, q, hx, size⟩⟩
  · exact ⟨a, .inl hx⟩

theorem AtMost.add (hx : AtMost b x) (hy : AtMost c y) {k : ℤ} (le : b + c ≤ 2 ^ k)
    (range : -1022 ≤ k ∧ k ≤ 1023) : AtMost (2 ^ k) (x + y) := by
  obtain ⟨s, m, q, hx, sizeX⟩ := hx
  obtain ⟨t, n, r, hy, sizeY⟩ := hy
  refine (sized_add hx hy).atMost ?_ range
  calc |number s m q + number t n r| ≤ |number s m q| + |number t n r| := abs_add_le _ _
    _ = m * 2 ^ q + n * 2 ^ r := by rw [abs_number, abs_number]
    _ ≤ 2 ^ k := by linarith

theorem AtMost.sub (hx : AtMost b x) (hy : AtMost c y) {k : ℤ} (le : b + c ≤ 2 ^ k)
    (range : -1022 ≤ k ∧ k ≤ 1023) : AtMost (2 ^ k) (x - y) := by
  have ⟨_, _, _, partsX, _⟩ := hx
  have ⟨_, _, _, partsY, _⟩ := hy
  rw [sub_finite partsX partsY]
  exact hx.add hy.neg le range

theorem AtMost.mul (hx : AtMost b x) (hy : AtMost c y) {k : ℤ} (le : b * c ≤ 2 ^ k)
    (range : -1022 ≤ k ∧ k ≤ 1023) : AtMost (2 ^ k) (x * y) := by
  obtain ⟨s, m, q, hx, sizeX⟩ := hx
  obtain ⟨t, n, r, hy, sizeY⟩ := hy
  refine (sized_mul hx hy).atMost ?_ range
  have sizePos : (0 : ℚ) ≤ n * 2 ^ r := by positivity
  have boundPos : 0 ≤ b := le_trans (by positivity) sizeX
  exact (mul_le_mul sizeX sizeY sizePos boundPos).trans le

theorem pos_of_large {n : ℕ} {r : ℤ} (large : (1 : ℚ) ≤ n * 2 ^ r) : 0 < n := by
  rcases Nat.eq_zero_or_pos n with rfl | pos
  · rw [Nat.cast_zero, zero_mul] at large
    norm_num at large
  · exact pos

/-- Divided by an infinity a number is zero. -/
theorem parts_div_infinite {s t : Bool} {m : ℕ} {q : ℤ} (hx : parts x = .finite s m q)
    (hy : parts y = .infinite t) : parts (x / y) = .finite (s != t) 0 (-1074) := by
  have quotient : x / y = packed (Parts.finite (s != t) 0 (-1074)).unpacked := by
    rw [div_eq, hx, hy, unpacked_zero, ← signOf_div]
    rcases Nat.eq_zero_or_pos m with rfl | pos
    · rw [unpacked_zero]
      rfl
    · rw [unpacked_finite s q pos]
      rfl
  rw [quotient, parts_packed _ canonical_zero, if_pos (by norm_num)]

/-- Dividing by one or more does not make a number greater. -/
theorem AtMost.div (hx : AtMost b x) (hy : AtLeast 1 y) : AtMost b (x / y) := by
  obtain ⟨s, m, q, hx, size⟩ := hx
  have canonical := parts_canonical hx
  obtain ⟨t, infinite | ⟨n, r, hy, large⟩⟩ := hy
  · refine ⟨s != t, 0, -1074, parts_div_infinite hx infinite, ?_⟩
    rw [Nat.cast_zero, zero_mul]
    exact le_trans (by positivity) size
  · have less : (m : ℚ) * 2 ^ q / (n * 2 ^ r) ≤ m * 2 ^ q := div_le_self (by positivity) large
    obtain ⟨a, k, e, result, within⟩ :=
      (sized_div hx hy (pos_of_large large)).finite canonical (exponent_le hx) less
    exact ⟨a, k, e, result, within.trans size⟩

/-- Products of numbers that are one or more are one or more. -/
theorem AtLeast.mul (hx : AtLeast 1 x) (hy : AtLeast 1 y) : AtLeast 1 (x * y) := by
  have endless : ∀ s t, parts (packed (.infinity (signOf s * signOf t))) = .infinite (s != t) := by
    intro s t
    rw [signOf_mul, parts_infinity]
  obtain ⟨s, infinite | ⟨m, q, hx, large⟩⟩ := hx
  · obtain ⟨t, infinite' | ⟨n, r, hy, large'⟩⟩ := hy
    · refine ⟨s != t, .inl ?_⟩
      rw [mul_eq, infinite, infinite']
      exact endless s t
    · refine ⟨s != t, .inl ?_⟩
      rw [mul_eq, infinite, hy, unpacked_finite t r (pos_of_large large')]
      exact endless s t
  · obtain ⟨t, infinite' | ⟨n, r, hy, large'⟩⟩ := hy
    · refine ⟨s != t, .inl ?_⟩
      rw [mul_eq, infinite', hx, unpacked_finite s q (pos_of_large large)]
      exact endless s t
    · exact (sized_mul hx hy).atLeast (one_le_mul_of_one_le_of_one_le large large')

/-! ## Whole numbers -/

theorem atMost_ofNat {n : ℕ} {k : ℤ} (le : (n : ℚ) ≤ 2 ^ k) (negative : Bool)
    (range : -1022 ≤ k ∧ k ≤ 1023) : AtMost (2 ^ k) (ofNat negative n) := by
  have size := (sized_ofNat n).atMost le range
  unfold ofNat
  split
  · exact size.neg
  · exact size

theorem AtMost.roundAway (h : AtMost b x) : AtMost (max b (2 ^ (53 : ℤ))) (roundAway x) := by
  obtain ⟨a, m, q, hx, size⟩ := h
  have bits := (parts_canonical hx).bits
  unfold Number.roundAway
  rw [hx]
  cases q with
  | ofNat k => exact ⟨a, m, k, hx, size.trans (le_max_left _ _)⟩
  | negSucc k =>
    dsimp only
    refine (atMost_ofNat ?_ a (by norm_num)).mono (le_max_right _ _)
    have half : m / Nat.pow 2 (k + 1) ≤ m / 2 :=
      Nat.div_le_div_left (Nat.le_self_pow (Nat.succ_ne_zero k) 2) two_pos
    have few : m / Nat.pow 2 (k + 1) +
        (if Nat.pow 2 (k + 1) ≤ 2 * (m % Nat.pow 2 (k + 1)) then 1 else 0) ≤ 2 ^ 53 := by
      split <;> omega
    exact_mod_cast few

theorem isFinite_packed {u : UnpackedFloat} (h : u.isFinite = false) :
    isFinite (packed u) = false := by
  cases u with
  | notANumber => decide +kernel
  | infinity s => cases s <;> decide +kernel
  | zero s => cases h
  | finite s m e pos => cases h

/-- What is not finite remains so when it is divided. -/
theorem isFinite_div (h : isFinite x = false) (y : Float) : isFinite (x / y) = false := by
  rw [isFinite_eq] at h
  rw [div_eq]
  refine isFinite_packed ?_
  cases hx : (parts x).unpacked with
  | notANumber => cases (parts y).unpacked <;> rfl
  | infinity s => cases (parts y).unpacked <;> rfl
  | zero s =>
    rw [hx] at h
    cases h
  | finite s m e pos =>
    rw [hx] at h
    cases h

theorem roundAway_eq (h : isFinite x = false) : roundAway x = x := by
  unfold roundAway
  split
  · next negative m k hx =>
    rw [isFinite_iff.2 ⟨negative, m, _, hx⟩] at h
    cases h
  · rfl

/-! ## Powers of ten -/

theorem atLeast_one : AtLeast 1 1 :=
  ⟨false, .inr ⟨2 ^ 52, -52, parts_one, one_eq.ge⟩⟩

theorem atLeast_ten : AtLeast 1 10 :=
  ⟨false, .inr ⟨5 * 2 ^ 50, -49, by decide +kernel, by norm_num⟩⟩

theorem AtLeast.powLoop (fuel : ℕ) : ∀ {x y : Float} {n : ℕ}, AtLeast 1 x → AtLeast 1 y →
    AtLeast 1 (powLoop fuel x y n) := by
  induction fuel with
  | zero => exact fun hx _ => hx
  | succ fuel ih =>
    intro x y n hx hy
    have next : AtLeast 1 (if n % 2 = 1 then x * y else x) := by
      split
      · exact hx.mul hy
      · exact hx
    unfold Number.powLoop
    dsimp only
    split
    · exact next
    · exact ih next (hy.mul hy)

theorem atLeast_pow10 (n : ℕ) : AtLeast 1 (pow10 n) := atLeast_one.powLoop _ atLeast_ten

end

/-- From a double of one or more to the next it is no more than this. -/
def step : ℚ := 1 + 1 / 2 ^ 52

theorem one_le_step : 1 ≤ step := by
  unfold step
  norm_num

theorem step_nonneg : 0 ≤ step := zero_le_one.trans one_le_step

theorem canonical_one : Canonical (2 ^ 52) (-52) := parts_canonical parts_one

theorem Canonical.previous {m : ℕ} {q : ℤ} (hm : Canonical m q) (high : -52 ≤ q) :
    ∃ n r, Canonical n r ∧ (n : ℚ) * 2 ^ r < m * 2 ^ q ∧
      (m : ℚ) * 2 ^ q ≤ n * 2 ^ r * step := by
  have bits := hm.bits
  have full := hm.full.resolve_left (by omega)
  unfold step
  rcases full.eq_or_lt with rfl | more
  · have unit : (0 : ℚ) < 2 ^ (q - 1) := by positivity
    have double : (2 : ℚ) ^ q = 2 * 2 ^ (q - 1) := by
      rw [← zpow_one_add₀ (by norm_num)]
      congr 1
      omega
    refine ⟨2 ^ 53 - 1, q - 1, ⟨by norm_num, .inr (by norm_num), by omega⟩, ?_, ?_⟩
    · rw [double]
      norm_num
      linarith
    · rw [double]
      norm_num
      linarith
  · have unit : (0 : ℚ) < 2 ^ q := by positivity
    have one : ((m - 1 : ℕ) : ℚ) = m - 1 := by
      rw [Nat.cast_sub (by omega), Nat.cast_one]
    have long : (2 : ℚ) ^ 52 + 1 ≤ m := by exact_mod_cast more
    refine ⟨m - 1, q, ⟨by omega, .inr (by omega), by omega⟩, ?_, ?_⟩
    · rw [one]
      linarith
    · rw [one]
      have share : (m : ℚ) ≤ (m - 1) * (1 + 1 / 2 ^ 52) := by linarith
      calc (m : ℚ) * 2 ^ q ≤ (m - 1) * (1 + 1 / 2 ^ 52) * 2 ^ q := by gcongr
        _ = (m - 1) * 2 ^ q * (1 + 1 / 2 ^ 52) := by ring

/-- Rounding adds little to a number of one or more. -/
theorem Beside.le_step {v : ℚ} {m : ℕ} {q : ℤ} (h : Beside v m q) (large : 1 ≤ v) :
    (m : ℚ) * 2 ^ q ≤ v * step := by
  have least : (2 ^ 52 : ℕ) * (2 : ℚ) ^ (-52 : ℤ) ≤ m * 2 ^ q :=
    h.greatest canonical_one (one_eq.trans_le large)
  have high := canonical_one.exponent_le h.canonical least
  obtain ⟨n, r, hn, less, near⟩ := h.canonical.previous high
  have under : (n : ℚ) * 2 ^ r ≤ v := by
    by_contra beyond
    exact absurd (h.least hn (not_le.1 beyond).le) (not_le.2 less)
  exact near.trans (mul_le_mul_of_nonneg_right under step_nonneg)

/-- Finite, and from one to `b` in size. -/
def FromOne (b : ℚ) (x : Float) : Prop :=
  ∃ a m q, parts x = .finite a m q ∧ (1 : ℚ) ≤ m * 2 ^ q ∧ (m : ℚ) * 2 ^ q ≤ b

section
variable {x y : Float} {A B : ℚ}

theorem FromOne.one_le (h : FromOne B x) : 1 ≤ B := by
  obtain ⟨a, m, q, -, large, small⟩ := h
  exact large.trans small

theorem FromOne.mono (h : FromOne A x) (le : A ≤ B) : FromOne B x := by
  obtain ⟨a, m, q, hx, large, small⟩ := h
  exact ⟨a, m, q, hx, large, small.trans le⟩

theorem FromOne.atMost (h : FromOne B x) : AtMost B x := by
  obtain ⟨a, m, q, hx, -, small⟩ := h
  exact ⟨a, m, q, hx, small⟩

/-- A product of such numbers is off by a step. -/
theorem FromOne.mul (hx : FromOne A x) (hy : FromOne B y) (room : A * B ≤ 2 ^ (1023 : ℤ)) :
    FromOne (A * B * step) (x * y) := by
  have oneA := hx.one_le
  obtain ⟨s, m, q, hx, largeX, sizeX⟩ := hx
  obtain ⟨t, n, r, hy, largeY, sizeY⟩ := hy
  have product := sized_mul hx hy
  have large : (1 : ℚ) ≤ m * 2 ^ q * (n * 2 ^ r) := one_le_mul_of_one_le_of_one_le largeX largeY
  have small : (m : ℚ) * 2 ^ q * (n * 2 ^ r) ≤ A * B :=
    mul_le_mul sizeX sizeY (zero_le_one.trans largeY) (zero_le_one.trans oneA)
  have within : (m : ℚ) * 2 ^ q * (n * 2 ^ r) ≤ 2 ^ (1023 : ℤ) := small.trans room
  obtain ⟨a, k, e, result, -⟩ := product.atMost within (by norm_num)
  have beside := product.beside result
  have least := beside.greatest canonical_one (one_eq.trans_le large)
  rw [one_eq] at least
  refine ⟨a, k, e, result, least, (beside.le_step large).trans ?_⟩
  exact mul_le_mul_of_nonneg_right small step_nonneg

/-- What repeated squaring adds to a power is a step for each factor. -/
theorem FromOne.powLoop (fuel : ℕ) : ∀ {x y : Float} {n : ℕ} {A B : ℚ}, FromOne A x →
    FromOne B y → A * (B * step) ^ n ≤ 2 ^ (1023 : ℤ) →
    FromOne (A * (B * step) ^ n) (powLoop fuel x y n) := by
  induction fuel with
  | zero =>
    intro x y n A B hx hy room
    have grows : 1 ≤ (B * step) ^ n :=
      one_le_pow₀ (one_le_mul_of_one_le_of_one_le hy.one_le one_le_step)
    exact hx.mono (le_mul_of_one_le_right (zero_le_one.trans hx.one_le) grows)
  | succ fuel ih =>
    intro x y n A B hx hy room
    have oneA := hx.one_le
    have oneB := hy.one_le
    have grows : B ≤ B * step := le_mul_of_one_le_right (zero_le_one.trans oneB) one_le_step
    have factor : 1 ≤ B * step := oneB.trans grows
    have next : FromOne (A * (B * step) ^ (n % 2)) (if n % 2 = 1 then x * y else x) := by
      rcases Nat.mod_two_eq_zero_or_one n with even | odd
      · rw [even, pow_zero, mul_one, if_neg (by norm_num)]
        exact hx
      · rw [odd, pow_one, if_pos rfl, ← mul_assoc]
        refine hx.mul hy (le_trans ?_ room)
        calc A * B ≤ A * (B * step) := by gcongr
          _ ≤ A * (B * step) ^ n := by
              gcongr
              exact le_self_pow₀ factor (by omega)
    unfold Number.powLoop
    dsimp only
    by_cases last : n / 2 = 0
    · have bit : n % 2 = n := by omega
      rw [if_pos last]
      rw [bit] at next ⊢
      exact next
    · -- the base is squared, and its step with it
      have squared : B * B * step * step = (B * step) ^ 2 := by ring
      have split : A * (B * step) ^ n =
          A * (B * step) ^ (n % 2) * (B * B * step * step) ^ (n / 2) := by
        rw [squared, ← pow_mul, mul_assoc, ← pow_add, Nat.mod_add_div]
      have square : FromOne (B * B * step) (y * y) := by
        refine hy.mul hy (le_trans ?_ room)
        calc B * B ≤ B * step * (B * step) := by gcongr
          _ = (B * step) ^ 2 := (sq _).symm
          _ ≤ (B * step) ^ n := pow_le_pow_right₀ factor (by omega)
          _ ≤ A * (B * step) ^ n := le_mul_of_one_le_left (by positivity) oneA
      rw [if_neg last, split]
      rw [split] at room
      exact ih next square room

/-- A power of ten with its steps. -/
theorem pow10_fromOne {n : ℕ} (room : (10 * step) ^ n ≤ 2 ^ (1023 : ℤ)) :
    FromOne ((10 * step) ^ n) (pow10 n) := by
  have one : FromOne 1 1 := ⟨false, 2 ^ 52, -52, parts_one, one_eq.ge, one_eq.le⟩
  have ten : FromOne 10 10 :=
    ⟨false, 5 * 2 ^ 50, -49, by decide +kernel, by norm_num, by norm_num⟩
  rw [← one_mul ((10 * step) ^ n)] at room ⊢
  exact one.powLoop _ ten room

/-! ## Ratios -/

/-- Every double is so many units of the least exponent. -/
theorem number_units (negative : Bool) {m : ℕ} {q : ℤ} (least : -1074 ≤ q) :
    ∃ z : ℤ, number negative m q = z * 2 ^ (-1074 : ℤ) := by
  have power : (2 : ℚ) ^ q = 2 ^ (q + 1074).toNat * 2 ^ (-1074 : ℤ) := by
    rw [← zpow_natCast, ← zpow_add₀ (by norm_num)]
    congr 1
    omega
  have whole : (m : ℚ) * 2 ^ q = (m * 2 ^ (q + 1074).toNat : ℕ) * 2 ^ (-1074 : ℤ) := by
    rw [power, ← mul_assoc, Nat.cast_mul, Nat.cast_pow, Nat.cast_ofNat]
  cases negative with
  | false => exact ⟨(m * 2 ^ (q + 1074).toNat : ℕ), whole⟩
  | true =>
    refine ⟨-(m * 2 ^ (q + 1074).toNat : ℕ), ?_⟩
    rw [number, if_pos rfl, whole, Int.cast_neg, neg_mul, Int.cast_natCast]

/-- Of two numbers the lesser one is rounded to twice the other's result at most, unless both are
smaller than any double. -/
theorem Beside.le_double {v w : ℚ} {m n : ℕ} {q r : ℤ} (hv : Beside v m q) (hw : Beside w n r)
    (le : v ≤ w) (pos : 0 < n) : (m : ℚ) * 2 ^ q ≤ 2 * (n * 2 ^ r) := by
  have next : Canonical (carried (n + 1) r).1 (carried (n + 1) r).2 :=
    hw.canonical.carried (.inr rfl)
  have unit : (0 : ℚ) < 2 ^ r := by positivity
  have one : (1 : ℚ) ≤ n := by exact_mod_cast pos
  have within : v ≤ ((carried (n + 1) r).1 : ℚ) * 2 ^ (carried (n + 1) r).2 := by
    by_contra beyond
    have passed := hw.greatest next ((not_le.1 beyond).le.trans le)
    rw [carried_value] at passed
    push_cast at passed
    linarith
  calc (m : ℚ) * 2 ^ q ≤ (carried (n + 1) r).1 * 2 ^ (carried (n + 1) r).2 := hv.least next within
    _ = (n + 1) * 2 ^ r := by
      rw [carried_value]
      push_cast
      rfl
    _ ≤ 2 * n * 2 ^ r := by
      gcongr
      linarith
    _ = 2 * (n * 2 ^ r) := mul_assoc _ _ _

/-- Doubles of one number are equal; they differ in the sign of zero, if at all. -/
theorem beq_of_number_eq {x y : Float} {a b : Bool} {m n : ℕ} {q r : ℤ}
    (hx : parts x = .finite a m q) (hy : parts y = .finite b n r)
    (same : number a m q = number b n r) : (x == y) = true := by
  have size : (m : ℚ) * 2 ^ q = n * 2 ^ r := by
    rw [← abs_number a, ← abs_number b, same]
  obtain ⟨rfl, rfl⟩ := (parts_canonical hx).unique (parts_canonical hy) size
  have equal : UnpackedFloat.beq x.toModel.unpack y.toModel.unpack = true := by
    rw [unpack_eq, unpack_eq, hx, hy]
    rcases Nat.eq_zero_or_pos m with rfl | pos
    · cases a <;> cases b <;> rfl
    · have digits : (0 : ℚ) < m * 2 ^ q := by
        have : (0 : ℚ) < m := by exact_mod_cast pos
        positivity
      have sign : a = b := by
        cases a <;> cases b
        case false.false => rfl
        case true.true => rfl
        case false.true =>
          have : (m : ℚ) * 2 ^ q = -(m * 2 ^ q) := same
          linarith
        case true.false =>
          have : -((m : ℚ) * 2 ^ q) = m * 2 ^ q := same
          linarith
      have level : (compare q q).then (compare m m) = .eq := by
        rw [Std.compare_self, Std.compare_self]
        rfl
      rw [sign, unpacked_finite b q pos]
      refine beq_iff_eq.2 ?_
      cases b with
      | false => exact congrArg some level
      | true => exact congrArg (fun o => some (Ordering.swap o)) level
  exact equal

/-- Of two differences the lesser one over the greater one is two at most. -/
theorem ratio_atMost {c lo hi : Float} {s t u : Bool} {m n k : ℕ} {q r e : ℤ}
    (hc : parts c = .finite s m q) (hlo : parts lo = .finite t n r)
    (hhi : parts hi = .finite u k e) (apart : number u k e ≠ number t n r)
    (nearer : |number s m q - number t n r| ≤ |number u k e - number t n r|)
    (room : |number u k e - number t n r| ≤ 2 ^ (1021 : ℤ)) :
    AtMost (2 ^ (1 : ℤ)) ((c - lo) / (hi - lo)) := by
  have offset := sized_sub hc hlo
  have extent := sized_sub hhi hlo
  obtain ⟨a, m', q', first, -⟩ := offset.atMost (nearer.trans room) (by norm_num)
  obtain ⟨b, n', r', second, -⟩ := extent.atMost room (by norm_num)
  have least : Canonical 1 (-1074) := ⟨by norm_num, .inl rfl, le_rfl⟩
  have pos : 0 < n' := by
    obtain ⟨z, hz⟩ := number_units u (parts_canonical hhi).least
    obtain ⟨z', hz'⟩ := number_units t (parts_canonical hlo).least
    have unit : (0 : ℚ) < 2 ^ (-1074 : ℤ) := by positivity
    have differ : (1 : ℚ) ≤ |((z - z' : ℤ) : ℚ)| := by
      have nonzero : z - z' ≠ 0 := by
        intro same
        rw [hz, hz', sub_eq_zero.1 same] at apart
        exact apart rfl
      exact_mod_cast Int.one_le_abs nonzero
    have far : ((1 : ℕ) : ℚ) * 2 ^ (-1074 : ℤ) ≤ |number u k e - number t n r| := by
      rw [hz, hz', ← sub_mul, abs_mul, abs_of_pos unit, ← Int.cast_sub, Nat.cast_one]
      exact mul_le_mul_of_nonneg_right differ unit.le
    have some := (extent.beside second).greatest least far
    rw [Nat.cast_one, one_mul] at some
    rcases Nat.eq_zero_or_pos n' with rfl | pos
    · rw [Nat.cast_zero, zero_mul] at some
      exact absurd unit (not_lt.2 some)
    · exact pos
  have twice := (offset.beside first).le_double (extent.beside second) nearer pos
  have divisor : (0 : ℚ) < n' * 2 ^ r' := by
    have : (0 : ℚ) < n' := by exact_mod_cast pos
    positivity
  refine (sized_div first second pos).atMost ?_ (by norm_num)
  rw [div_le_iff₀ divisor, zpow_one]
  exact twice

end

end DeviceLink.Number
