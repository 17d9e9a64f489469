import DeviceLink.Decimal.Double
import DeviceLink.Proofs.Decimal.Arithmetic
import DeviceLink.Proofs.Number.Value
/-!
# Decimals keep the order of doubles

A double is traded for digits and places, and then digits are dropped: all beyond the places that a
decimal may have, and as many of the fraction as leave no more than 52 bits. Either step may lose
something, and how much depends on the number. What is lost in the trade is less than the distance
to the next double (`size_mono`). What the digits leave does not depend on how many zeros follow
them, and of two numbers with the same places the longer one does not fall below the shorter one
(`kept_mono`), so the order is kept as well.

Hence a double between two others that have decimals has one too (`ofFloat_between`), and it lies
between theirs (`ofFloat_mono`).
-/
namespace DeviceLink.Decimal

/-! ## The digits that stay -/

/-- A digit less, a half up. -/
def tenth (m : ℕ) : ℕ := if 5 ≤ m % 10 then m / 10 + 1 else m / 10

theorem tenth_eq (m : ℕ) : tenth m = (m + 5) / 10 := by
  unfold tenth
  split <;> omega

/-- What stays of m / 10^s: no places but those a decimal may have, and of these no more than the
digits of a double need. -/
def kept : ℕ → ℕ → ℚ
  | 0, m => m
  | s + 1, m =>
    if maxScale < s + 1 then if m / 10 = 0 then 0 else kept s (tenth m)
    else if 2 ^ 52 ≤ m then kept s (tenth m)
    else m / 10 ^ (s + 1)

theorem kept_short {s m : ℕ} (places : s ≤ maxScale) (short : m < 2 ^ 52) :
    kept s m = m / 10 ^ s := by
  cases s with
  | zero => simp [kept]
  | succ s => rw [kept, if_neg (by omega), if_neg (by omega)]

theorem kept_zero (s : ℕ) : kept s 0 = 0 := by
  cases s with
  | zero => simp [kept]
  | succ s =>
    rw [kept]
    split
    · rfl
    · simp

theorem kept_nonneg (s : ℕ) : ∀ m, 0 ≤ kept s m := by
  induction s with
  | zero =>
    intro m
    exact Nat.cast_nonneg m
  | succ s ih =>
    intro m
    rw [kept]
    split
    · split
      · exact le_rfl
      · exact ih _
    · split
      · exact ih _
      · positivity

/-- Of numbers with the same places the greater one stays so. What is short of 52 bits keeps a digit
that a longer one loses; the shortest of the longer ones is rounded to more than that. -/
theorem kept_mono (s : ℕ) : ∀ {m n : ℕ}, m ≤ n → kept s m ≤ kept s n := by
  induction s with
  | zero =>
    intro m n le
    rw [kept, kept]
    exact_mod_cast le
  | succ s ih =>
    intro m n le
    have fewer : tenth m ≤ tenth n := by
      rw [tenth_eq, tenth_eq]
      omega
    rw [kept, kept]
    by_cases beyond : maxScale < s + 1
    · rw [if_pos beyond, if_pos beyond]
      by_cases nothing : m / 10 = 0
      · rw [if_pos nothing]
        split
        · exact le_rfl
        · exact kept_nonneg s _
      · rw [if_neg nothing, if_neg (by omega)]
        exact ih fewer
    · rw [if_neg beyond, if_neg beyond]
      by_cases long : 2 ^ 52 ≤ m
      · rw [if_pos long, if_pos (long.trans le)]
        exact ih fewer
      · rw [if_neg long]
        by_cases long' : 2 ^ 52 ≤ n
        · rw [if_pos long']
          have least : 450359962737050 ≤ tenth n := by
            rw [tenth_eq]
            omega
          have most : (m : ℚ) ≤ 4503599627370500 := by
            exact_mod_cast (by omega : m ≤ 4503599627370500)
          calc (m : ℚ) / 10 ^ (s + 1) ≤ 4503599627370500 / 10 ^ (s + 1) := by gcongr
            _ = (450359962737050 : ℕ) / 10 ^ s := by
              rw [pow_succ]
              push_cast
              field_simp
              norm_num
            _ = kept s 450359962737050 := (kept_short (by omega) (by norm_num)).symm
            _ ≤ kept s (tenth n) := ih least
        · rw [if_neg long']
          have : (m : ℚ) ≤ n := by exact_mod_cast le
          gcongr

/-- A zero more at the end changes nothing. -/
theorem kept_zeros (s m : ℕ) : ∀ k, kept (s + k) (m * 10 ^ k) = kept s m := by
  have one : ∀ s m, kept (s + 1) (m * 10) = kept s m := by
    intro s m
    have digit : tenth (m * 10) = m := by
      rw [tenth_eq]
      omega
    rw [kept, digit]
    split
    · split
      · next nothing =>
        have zero : m = 0 := by omega
        rw [zero, kept_zero]
      · rfl
    · split
      · rfl
      · rw [kept_short (by omega) (by omega), pow_succ]
        push_cast
        field_simp
  intro k
  induction k with
  | zero => rw [pow_zero, mul_one, Nat.add_zero]
  | succ k ih => rw [pow_succ, ← mul_assoc, ← Nat.add_assoc, one, ih]

/-- A greater number stays the greater one, however many places each of the two has. -/
theorem kept_le {s t m n : ℕ} (h : (m : ℚ) / 10 ^ s ≤ n / 10 ^ t) : kept s m ≤ kept t n := by
  rw [div_le_div_iff₀ (by positivity) (by positivity)] at h
  have scaled : m * 10 ^ t ≤ n * 10 ^ s := by exact_mod_cast h
  calc kept s m = kept (s + t) (m * 10 ^ t) := (kept_zeros s m t).symm
    _ ≤ kept (s + t) (n * 10 ^ s) := kept_mono _ scaled
    _ = kept (t + s) (n * 10 ^ s) := by rw [Nat.add_comm]
    _ = kept t n := kept_zeros t n s

/-! ## Dropping digits -/

theorem dropZeros_value (s : ℕ) : ∀ m, (dropZeros s m).2 ≤ s ∧ (dropZeros s m).1 ≤ m ∧
    ((dropZeros s m).1 : ℚ) / 10 ^ (dropZeros s m).2 = m / 10 ^ s := by
  induction s with
  | zero =>
    intro m
    exact ⟨le_rfl, le_rfl, rfl⟩
  | succ s ih =>
    intro m
    rw [dropZeros]
    split
    · next zero =>
      obtain ⟨places, less, same⟩ := ih (m / 10)
      have digits : (m : ℚ) = (m / 10 : ℕ) * 10 := by
        exact_mod_cast (by omega : m = m / 10 * 10)
      refine ⟨by omega, by omega, ?_⟩
      rw [same, digits, pow_succ]
      field_simp
    · exact ⟨le_rfl, le_rfl, rfl⟩

theorem dropNoise_kept (s : ℕ) (places : s ≤ maxScale) : ∀ m, (dropNoise s m).2 ≤ s ∧
    (dropNoise s m).1 ≤ m ∧
      ((dropNoise s m).1 : ℚ) / 10 ^ (dropNoise s m).2 = kept s m := by
  induction s with
  | zero =>
    intro m
    exact ⟨le_rfl, le_rfl, by simp [dropNoise, kept]⟩
  | succ s ih =>
    intro m
    have inside : ¬ maxScale < s + 1 := by omega
    rw [dropNoise, kept, if_neg inside]
    by_cases long : 2 ^ 52 ≤ m
    · rw [if_pos long, if_pos (show Nat.pow 2 52 ≤ m from long)]
      obtain ⟨fewer, less, same⟩ := ih (by omega) (tenth m)
      have digit := tenth_eq m
      exact ⟨fewer.trans (Nat.le_succ s), less.trans (by omega), same⟩
    · rw [if_neg long, if_neg (show ¬ Nat.pow 2 52 ≤ m from long)]
      exact ⟨le_rfl, le_rfl, rfl⟩

theorem tidy_kept (negative : Bool) {m s : ℕ} (mantissa : m < limit) (places : s ≤ maxScale) :
    ∃ d, tidy negative m s = some d ∧ d.value = sign negative * kept s m := by
  obtain ⟨fewer, less, same⟩ := dropNoise_kept s places m
  obtain ⟨fewer', less', same'⟩ := dropZeros_value (dropNoise s m).2 (dropNoise s m).1
  obtain ⟨d, parts, worth⟩ := ofParts?_some negative ((less'.trans less).trans_lt mantissa)
    ((fewer'.trans fewer).trans places)
  exact ⟨d, parts, by rw [worth, ← same, ← same', ← mul_div_assoc]⟩

/-- Digits beyond all places are dropped one by one, and nothing may be left of them. -/
theorem dropDigits_kept (k : ℕ) : ∀ m,
    match dropDigits k m with
    | none => kept (maxScale + k) m = 0
    | some n => n ≤ m ∧ kept (maxScale + k) m = kept maxScale n := by
  induction k with
  | zero =>
    intro m
    exact ⟨le_rfl, rfl⟩
  | succ k ih =>
    intro m
    have beyond : maxScale < maxScale + k + 1 := by omega
    rw [dropDigits, ← Nat.add_assoc, kept, if_pos beyond]
    by_cases nothing : m / 10 = 0
    · rw [if_pos nothing, if_pos nothing]
    · rw [if_neg nothing, if_neg nothing]
      have digit := tenth_eq m
      have rest := ih (tenth m)
      rw [show (if 5 ≤ m % 10 then m / 10 + 1 else m / 10) = tenth m from rfl]
      split
      · next dropped =>
        rw [dropped] at rest
        exact rest
      · next n left =>
        rw [left] at rest
        exact ⟨by omega, rest.2⟩

theorem place_kept (negative : Bool) {m : ℕ} (mantissa : m < limit) (s : ℕ) :
    ∃ d, place negative m (-s) = some d ∧ d.value = sign negative * kept s m := by
  unfold place
  rw [if_neg (by omega), show (-(-(s : ℤ))).toNat = s by omega]
  by_cases beyond : maxScale < s
  · have digits := dropDigits_kept (s - maxScale) m
    rw [show maxScale + (s - maxScale) = s by omega] at digits
    dsimp only
    rw [if_pos beyond]
    cases dropped : dropDigits (s - maxScale) m with
    | none =>
      rw [dropped] at digits
      exact ⟨_, rfl, by rw [digits]; simp [value, signedZero]⟩
    | some n =>
      rw [dropped] at digits
      rw [digits.2]
      exact tidy_kept negative (digits.1.trans_lt mantissa) le_rfl
  · dsimp only
    rw [if_neg beyond]
    exact tidy_kept negative mantissa (Nat.le_of_not_lt beyond)

/-! ## Trading twos for tens -/

/-- What is traded below one is no more than before, and short of it by next to nothing: each trade
may lose half a unit, but then it has as many digits as there may be. The induction is on the trades
left, with m · 5^k · 10^e as what they keep. -/
theorem tradeHalves_keeps (k : ℕ) : ∀ (m : ℕ) (e : ℤ), m < limit →
    let out := tradeHalves k m e
    out.1 < limit ∧ out.2 ≤ e + k ∧
      (out.1 : ℚ) * 10 ^ out.2 ≤ m * 5 ^ k * 10 ^ e ∧
      (m : ℚ) * 5 ^ k * 10 ^ e * (1 - k * (5 / limit)) ≤ out.1 * 10 ^ out.2 := by
  induction k with
  | zero =>
    intro m e small
    refine ⟨small, by simp [tradeHalves], ?_, ?_⟩
    · simp [tradeHalves]
    · simp [tradeHalves]
  | succ k ih =>
    intro m e small
    -- one trade, and the others from there
    have step : ∀ (n : ℕ) (f : ℤ), n < limit → f ≤ e + 1 →
        (n : ℚ) * 5 ^ k * 10 ^ f ≤ m * 5 ^ (k + 1) * 10 ^ e →
        (m : ℚ) * 5 ^ (k + 1) * 10 ^ e * (1 - 5 / limit) ≤ n * 5 ^ k * 10 ^ f →
        let out := tradeHalves k n f
        out.1 < limit ∧ out.2 ≤ e + (k + 1 : ℕ) ∧
          (out.1 : ℚ) * 10 ^ out.2 ≤ m * 5 ^ (k + 1) * 10 ^ e ∧
          (m : ℚ) * 5 ^ (k + 1) * 10 ^ e * (1 - (k + 1 : ℕ) * (5 / limit)) ≤
            out.1 * 10 ^ out.2 := by
      intro n f small' near no_more no_less
      obtain ⟨below, low, le, ge⟩ := ih n f small'
      refine ⟨below, by omega, le.trans no_more, le_trans ?_ ge⟩
      have share : (n : ℚ) * 5 ^ k * 10 ^ f * (k * (5 / limit)) ≤
          m * 5 ^ (k + 1) * 10 ^ e * (k * (5 / limit)) := by gcongr
      push_cast
      linarith
    have whole : (0 : ℚ) ≤ m * 5 ^ (k + 1) * 10 ^ e * (5 / limit) := by positivity
    rw [tradeHalves]
    by_cases even : m % 2 = 0
    · have halves : (m : ℚ) = 2 * (m / 2 : ℕ) := by exact_mod_cast (by omega : m = 2 * (m / 2))
      have same : ((m / 2 : ℕ) : ℚ) * 5 ^ k * 10 ^ (e + 1) = m * 5 ^ (k + 1) * 10 ^ e := by
        rw [halves, zpow_add_one₀ (by norm_num)]
        ring
      rw [if_pos even]
      exact step (m / 2) (e + 1) (by omega) le_rfl same.le (by rw [same]; linarith)
    · rw [if_neg even]
      by_cases room : 5 * m < limit
      · have same : ((5 * m : ℕ) : ℚ) * 5 ^ k * 10 ^ e = m * 5 ^ (k + 1) * 10 ^ e := by
          push_cast
          ring
        rw [if_pos room]
        exact step (5 * m) e room (by omega) same.le (by rw [same]; linarith)
      · have halves : ((m / 2 : ℕ) : ℚ) * 5 ^ k * 10 ^ (e + 1) =
            m * 5 ^ (k + 1) * 10 ^ e - 5 ^ (k + 1) * 10 ^ e := by
          have odd : (m : ℚ) = 2 * (m / 2 : ℕ) + 1 := by
            exact_mod_cast (by omega : m = 2 * (m / 2) + 1)
          rw [odd, zpow_add_one₀ (by norm_num)]
          ring
        have many : (1 : ℚ) ≤ m * (5 / limit) := by
          rw [← mul_div_assoc, one_le_div (by rw [limit_eq]; norm_num)]
          exact_mod_cast (by omega : limit ≤ m * 5)
        have unit : (0 : ℚ) < 5 ^ (k + 1) * 10 ^ e := by positivity
        rw [if_neg room]
        refine step (m / 2) (e + 1) (by omega) le_rfl (by rw [halves]; linarith) ?_
        rw [halves]
        have := mul_le_mul_of_nonneg_left many unit.le
        linarith

/-- From one on the trade keeps the number, as long as it fits. -/
theorem tradeDoubles_eq (k : ℕ) : ∀ m, m < limit → tradeDoubles k m k =
    if m * 2 ^ k < limit then some (m * 2 ^ k, 0) else none := by
  induction k with
  | zero =>
    intro m small
    rw [tradeDoubles, pow_zero, mul_one, if_pos small]
    rfl
  | succ k ih =>
    intro m small
    have double : m * 2 ^ (k + 1) = 2 * m * 2 ^ k := by ring
    rw [tradeDoubles, double]
    by_cases half : m < 2 ^ 95
    · rw [if_pos (show m < Nat.pow 2 95 from half), show ((k + 1 : ℕ) : ℤ) - 1 = k by omega]
      refine ih (2 * m) ?_
      rw [limit_eq]
      omega
    · have beyond : limit ≤ 2 * m * 2 ^ k := by
        calc limit ≤ 2 * m * 1 := by rw [limit_eq]; omega
          _ ≤ 2 * m * 2 ^ k := by gcongr; exact Nat.one_le_two_pow
      rw [if_neg (show ¬ m < Nat.pow 2 95 from half), if_pos (by omega), if_neg (by omega)]

/-! ## The decimal of a double -/

/-- Digits and exponent that m · 2^q is traded for. -/
def traded (m : ℕ) : ℤ → ℕ × ℤ
  | .negSucc k => tradeHalves (k + 1) m (.negSucc k)
  | .ofNat k => (m * 2 ^ k, 0)

/-- The size of the decimal of ± m · 2^q. -/
def size (m : ℕ) (q : ℤ) : ℚ := kept (-(traded m q).2).toNat (traded m q).1

open Number

section
variable {m n : ℕ} {q r : ℤ}

theorem traded_below (canonical : Canonical m q) (negative : q < 0) :
    (traded m q).1 < limit ∧ (traded m q).2 ≤ 0 ∧
      ((traded m q).1 : ℚ) * 10 ^ (traded m q).2 ≤ m * 2 ^ q ∧
      (m : ℚ) * 2 ^ q * (1 - 1 / 2 ^ 54) ≤ (traded m q).1 * 10 ^ (traded m q).2 := by
  have bits := canonical.bits
  have least := canonical.least
  cases q with
  | ofNat k => exact absurd (Int.natCast_nonneg k) (not_le.2 negative)
  | negSucc k =>
    have room : m < limit := by
      rw [limit_eq]
      omega
    obtain ⟨below, low, le, ge⟩ := tradeHalves_keeps (k + 1) m (.negSucc k) room
    have tens : (m : ℚ) * 5 ^ (k + 1) * 10 ^ (Int.negSucc k) = m * 2 ^ (Int.negSucc k) := by
      rw [zpow_negSucc, zpow_negSucc, show (10 : ℚ) = 5 * 2 by norm_num, mul_pow]
      field_simp
    rw [tens] at le ge
    refine ⟨below, by show (tradeHalves (k + 1) m (.negSucc k)).2 ≤ 0; omega, le, le_trans ?_ ge⟩
    gcongr
    have trades : ((k + 1 : ℕ) : ℚ) ≤ 1074 := by exact_mod_cast (by omega : k + 1 ≤ 1074)
    calc ((k + 1 : ℕ) : ℚ) * (5 / limit) ≤ 1074 * (5 / limit) := by gcongr
      _ ≤ 1 / 2 ^ 54 := by rw [limit_eq]; norm_num

/-- The trade keeps the number but for less than doubles can tell. -/
theorem traded_keeps (canonical : Canonical m q) :
    (m : ℚ) * 2 ^ q * (1 - 1 / 2 ^ 54) ≤ (traded m q).1 / 10 ^ (-(traded m q).2).toNat ∧
      ((traded m q).1 : ℚ) / 10 ^ (-(traded m q).2).toNat ≤ m * 2 ^ q := by
  have number : (0 : ℚ) ≤ m * 2 ^ q := by positivity
  rcases lt_or_ge q 0 with negative | positive
  · obtain ⟨-, low, le, ge⟩ := traded_below canonical negative
    have power : (10 : ℚ) ^ (traded m q).2 = (10 ^ (-(traded m q).2).toNat)⁻¹ := by
      rw [← zpow_natCast, ← zpow_neg]
      congr 1
      omega
    rw [power, ← div_eq_mul_inv] at le ge
    exact ⟨ge, le⟩
  · obtain ⟨k, rfl⟩ := Int.eq_ofNat_of_zero_le positive
    have exactly : ((traded m k).1 : ℚ) / 10 ^ (-(traded m k).2).toNat = m * 2 ^ (k : ℤ) := by
      show ((m * 2 ^ k : ℕ) : ℚ) / 10 ^ 0 = _
      push_cast
      rw [pow_zero, div_one, zpow_natCast]
    rw [exactly]
    exact ⟨by linarith, le_rfl⟩

theorem size_nonneg (m : ℕ) (q : ℤ) : 0 ≤ size m q := kept_nonneg _ _

theorem size_le (canonical : Canonical m q) {v : ℕ} (h : (m : ℚ) * 2 ^ q ≤ v) : size m q ≤ v := by
  have whole : kept 0 v = v := rfl
  rw [← whole]
  refine kept_le ((traded_keeps canonical).2.trans ?_)
  rwa [pow_zero, div_one]

/-- The next double is further away than what the trade may lose. -/
theorem size_mono (hm : Canonical m q) (hn : Canonical n r) (h : (m : ℚ) * 2 ^ q ≤ n * 2 ^ r) :
    size m q ≤ size n r := by
  rcases hm.eq_or_next hn h with ⟨rfl, rfl⟩ | next
  · exact le_rfl
  · refine kept_le ?_
    have unit : (0 : ℚ) < 2 ^ q := by positivity
    have bits : (m : ℚ) + 1 ≤ 2 ^ 53 := by exact_mod_cast hm.bits
    have share : (m : ℚ) ≤ (m + 1) * (1 - 1 / 2 ^ 54) := by linarith
    calc ((traded m q).1 : ℚ) / 10 ^ (-(traded m q).2).toNat ≤ m * 2 ^ q := (traded_keeps hm).2
      _ ≤ (m + 1) * (1 - 1 / 2 ^ 54) * 2 ^ q := by gcongr
      _ = (m + 1) * 2 ^ q * (1 - 1 / 2 ^ 54) := by ring
      _ ≤ n * 2 ^ r * (1 - 1 / 2 ^ 54) := by gcongr
      _ ≤ _ := (traded_keeps hn).1

end

section
variable {x y : Float} {negative : Bool} {m : ℕ} {q : ℤ} {d e : Decimal}

/-- Every finite double below the limit has a decimal. -/
theorem ofFloat_some (h : parts x = .finite negative m q) (small : (m : ℚ) * 2 ^ q < limit) :
    ∃ d, ofFloat x = some d ∧ d.value = sign negative * size m q := by
  have canonical := parts_canonical h
  unfold ofFloat
  rw [h]
  dsimp only
  by_cases zero : m = 0
  · have nothing : size m q = 0 := by
      refine le_antisymm (size_le (v := 0) canonical ?_) (size_nonneg m q)
      simp [zero]
    rw [if_pos zero, nothing]
    exact ⟨_, rfl, by simp [value, signedZero]⟩
  · rw [if_neg zero]
    cases q with
    | negSucc k =>
      obtain ⟨below, low, -⟩ := traded_below canonical (Int.negSucc_lt_zero k)
      have placed := place_kept negative below (-(traded m (.negSucc k)).2).toNat
      rw [show -((-(traded m (.negSucc k)).2).toNat : ℤ) = (traded m (.negSucc k)).2 by omega]
        at placed
      exact placed
    | ofNat k =>
      have below : m * 2 ^ k < limit := by
        have : (m : ℚ) * 2 ^ (k : ℤ) < limit := small
        rw [zpow_natCast] at this
        exact_mod_cast this
      have bits := canonical.bits
      have room : m < limit := by
        rw [limit_eq]
        omega
      have kept : tradeDoubles k m (.ofNat k) = some (m * 2 ^ k, 0) :=
        (tradeDoubles_eq k m room).trans (if_pos below)
      dsimp only
      rw [kept]
      exact place_kept negative below 0

/-- Beyond the limit there are no decimals. -/
theorem ofFloat_none (h : parts x = .finite negative m q) (large : (limit : ℚ) ≤ m * 2 ^ q) :
    ofFloat x = none := by
  have canonical := parts_canonical h
  have bits := canonical.bits
  have room : m < limit := by
    rw [limit_eq]
    omega
  unfold ofFloat
  rw [h]
  dsimp only
  cases q with
  | negSucc k =>
    have shrinks : (2 : ℚ) ^ Int.negSucc k ≤ 1 :=
      zpow_le_one_of_nonpos₀ (by norm_num) (Int.negSucc_lt_zero k).le
    have least : (limit : ℚ) ≤ m :=
      large.trans (mul_le_of_le_one_right (Nat.cast_nonneg m) shrinks)
    exact absurd room (not_lt.2 (by exact_mod_cast least))
  | ofNat k =>
    have beyond : ¬ m * 2 ^ k < limit := by
      have : (limit : ℚ) ≤ m * 2 ^ (k : ℤ) := large
      rw [zpow_natCast] at this
      exact not_lt.2 (by exact_mod_cast this)
    have zero : m ≠ 0 := by
      rintro rfl
      exact beyond (by rw [zero_mul]; exact Nat.two_pow_pos 96)
    have lost : tradeDoubles k m (.ofNat k) = none :=
      (tradeDoubles_eq k m room).trans (if_neg beyond)
    rw [if_neg zero]
    dsimp only
    rw [lost]
    rfl

/-- Where a decimal comes from. -/
theorem ofFloat_eq_some (h : ofFloat x = some d) : ∃ negative m q,
    parts x = .finite negative m q ∧ (m : ℚ) * 2 ^ q < limit ∧
      d.value = sign negative * size m q := by
  cases hx : parts x with
  | nan =>
    rw [ofFloat, hx] at h
    cases h
  | infinite negative =>
    rw [ofFloat, hx] at h
    cases h
  | finite negative m q =>
    rcases lt_or_ge ((m : ℚ) * 2 ^ q) limit with small | large
    · obtain ⟨d', same, value⟩ := ofFloat_some hx small
      cases same.symm.trans h
      exact ⟨negative, m, q, rfl, small, value⟩
    · cases (ofFloat_none hx large).symm.trans h

/-- The last double below the limit is short of it by more than decimals of its size can tell. -/
theorem abs_value_le (h : ofFloat x = some d) : |d.value| ≤ limit - 2 ^ 43 := by
  obtain ⟨negative, m, q, hx, small, value⟩ := ofFloat_eq_some h
  have canonical := parts_canonical hx
  have last : Canonical (2 ^ 53 - 1) 43 := ⟨by norm_num, .inr (by norm_num), by norm_num⟩
  have below : (m : ℚ) * 2 ^ q ≤ (2 ^ 96 - 2 ^ 43 : ℕ) := by
    by_contra above
    rcases last.eq_or_next canonical (by push_cast at above ⊢; linarith) with ⟨rfl, rfl⟩ | next
    · norm_num at above
    · rw [limit_eq] at small
      norm_num at next small
      linarith
  rw [value, abs_mul, abs_sign, one_mul, abs_of_nonneg (size_nonneg m q)]
  refine (size_le canonical below).trans ?_
  rw [limit_eq]
  norm_num

/-- **Decimals keep the order of doubles.** -/
theorem ofFloat_mono (hx : ofFloat x = some d) (hy : ofFloat y = some e) (h : x ≤ y) :
    d.value ≤ e.value := by
  obtain ⟨a, m, q, px, -, hd⟩ := ofFloat_eq_some hx
  obtain ⟨b, n, r, py, -, he⟩ := ofFloat_eq_some hy
  have hm := parts_canonical px
  have hn := parts_canonical py
  have le := number_le px py h
  have pos := size_nonneg m q
  have pos' := size_nonneg n r
  rw [hd, he]
  cases a with
  | false =>
    cases b with
    | false => simpa [sign] using size_mono hm hn le
    | true =>
      -- both are zero
      have number : (0 : ℚ) ≤ m * 2 ^ q := by positivity
      have number' : (0 : ℚ) ≤ n * 2 ^ r := by positivity
      have opposite : (m : ℚ) * 2 ^ q ≤ -(n * 2 ^ r) := le
      have zero : size m q ≤ (0 : ℕ) := size_le hm (by push_cast; linarith)
      have zero' : size n r ≤ (0 : ℕ) := size_le hn (by push_cast; linarith)
      simp only [sign]
      push_cast at zero zero' ⊢
      linarith
  | true =>
    cases b with
    | false =>
      simp only [sign]
      push_cast
      linarith
    | true =>
      have turned := size_mono hn hm (neg_le_neg_iff.1 le)
      simpa [sign] using turned

theorem ofFloat_between {lo hi : Float} (hlo : ofFloat lo = some d) (hhi : ofFloat hi = some e)
    (above : lo ≤ x) (below : x ≤ hi) : ∃ c, ofFloat x = some c := by
  obtain ⟨a, m, q, plo, small, -⟩ := ofFloat_eq_some hlo
  obtain ⟨b, n, r, phi, small', -⟩ := ofFloat_eq_some hhi
  obtain ⟨c, k, t, px⟩ := finite_of_between plo phi above below
  have low := number_le plo px above
  have high := number_le px phi below
  rw [← abs_number a] at small
  rw [← abs_number b] at small'
  have inside : |number c k t| < limit :=
    abs_lt.2 ⟨(abs_lt.1 small).1.trans_le low, high.trans_lt (abs_lt.1 small').2⟩
  rw [abs_number] at inside
  obtain ⟨z, hz, -⟩ := ofFloat_some px inside
  exact ⟨z, hz⟩

end

end DeviceLink.Decimal
