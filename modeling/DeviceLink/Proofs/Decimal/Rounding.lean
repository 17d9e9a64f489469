import DeviceLink.Decimal.Basic
import Mathlib.Algebra.Order.Field.Rat
import Mathlib.Algebra.Order.Round
import Mathlib.Algebra.Ring.Parity
import Mathlib.Order.Interval.Set.UnorderedInterval
import Mathlib.Tactic.FieldSimp
import Mathlib.Tactic.Linarith
import Mathlib.Tactic.Positivity
import Mathlib.Tactic.Ring
/-!
# Rounding keeps the order

Rounding is told by what it is given, not by how it is worked out. To a whole number: the nearest
one, with a rule for a half (`Nearest`); likewise to a number of places (`RoundsTo`). To a decimal:
with as many places as leave a mantissa below the limit, the nearest one with an even last digit for
a half (`Rounds`).

All of them keep the order. For the first it is enough that the rule never picks both neighbours of
a half (`Nearest.mono`). For the last the places depend on the number itself, so a greater one may
be rounded more coarsely; it stays the greater one because the limit is even and ends in a digit
above five when it is divided by ten (`Rounds.mono`).
-/
namespace DeviceLink.Decimal

/-- Where the order is kept, what was between two values is so afterwards. -/
theorem uIcc_of_mono {α β : Type} [LinearOrder α] [LinearOrder β] {R : α → β → Prop}
    (mono : ∀ {a b a' b'}, R a a' → R b b' → a ≤ b → a' ≤ b') {x y z : α} {x' y' z' : β}
    (hx : R x x') (hy : R y y') (hz : R z z') (h : y ∈ Set.uIcc x z) : y' ∈ Set.uIcc x' z' := by
  rcases Set.mem_uIcc.1 h with ⟨low, high⟩ | ⟨low, high⟩
  · exact Set.mem_uIcc.2 (.inl ⟨mono hx hy low, mono hy hz high⟩)
  · exact Set.mem_uIcc.2 (.inr ⟨mono hz hy low, mono hy hx high⟩)

/-! ## To a whole number -/

/-- Which whole number stands for `x` when two are equally near. -/
abbrev Tie := ℚ → ℤ → Prop

def toEven : Tie := fun _ n => Even n

/-- The rule of each half, by the size of the numbers. -/
def Half.tie : Half → Tie
  | .awayFromZero => fun x n => |x| ≤ |(n : ℚ)|
  | .towardZero => fun x n => |(n : ℚ)| ≤ |x|

/-- A rule that never picks both neighbours of a half. -/
def Tie.Fair (tie : Tie) : Prop := ∀ n : ℤ, tie (n + 1 / 2) n → ¬ tie (n + 1 / 2) (n + 1)

/-- A rule that does on one side of zero what it does on the other. -/
def Tie.Odd (tie : Tie) : Prop := ∀ x n, tie x n → tie (-x) (-n)

/-- `n` is a whole number nearest to `x`, and the one that the rule picks if there are two. -/
structure Nearest (tie : Tie) (x : ℚ) (n : ℤ) : Prop where
  near : |x - n| ≤ 1 / 2
  tie  : |x - n| = 1 / 2 → tie x n

theorem toEven_fair : toEven.Fair := by
  intro n even next
  exact Int.not_even_iff_odd.2 (Even.add_one even) next

theorem toEven_odd : toEven.Odd := fun _ _ even => Even.neg even

theorem Half.tie_fair (half : Half) : half.tie.Fair := by
  intro n
  cases half with
  | awayFromZero =>
    intro below above
    rcases le_or_gt 0 n with pos | neg
    · have : (0 : ℚ) ≤ n := by exact_mod_cast pos
      rw [Half.tie, abs_of_nonneg this, abs_of_nonneg (by linarith)] at below
      linarith
    · have : (n : ℚ) + 1 ≤ 0 := by exact_mod_cast neg
      rw [Half.tie] at above
      push_cast at above
      rw [abs_of_nonpos this, abs_of_nonpos (by linarith)] at above
      linarith
  | towardZero =>
    intro below above
    rcases le_or_gt 0 n with pos | neg
    · have : (0 : ℚ) ≤ n := by exact_mod_cast pos
      rw [Half.tie] at above
      push_cast at above
      rw [abs_of_nonneg (by linarith), abs_of_nonneg (by linarith)] at above
      linarith
    · have : (n : ℚ) + 1 ≤ 0 := by exact_mod_cast neg
      rw [Half.tie, abs_of_nonpos (by linarith), abs_of_nonpos (by linarith)] at below
      linarith

theorem Half.tie_odd (half : Half) : half.tie.Odd := by
  intro x n picked
  cases half with
  | awayFromZero =>
    rw [Half.tie] at picked ⊢
    push_cast
    rwa [abs_neg, abs_neg]
  | towardZero =>
    rw [Half.tie] at picked ⊢
    push_cast
    rwa [abs_neg, abs_neg]

namespace Nearest

variable {tie : Tie} {x y : ℚ} {m n : ℤ}

theorem mono (fair : tie.Fair) (hm : Nearest tie x m) (hn : Nearest tie y n) (h : x ≤ y) :
    m ≤ n := by
  by_contra above
  have next : n + 1 ≤ m := by omega
  have gap : (n : ℚ) + 1 ≤ m := by exact_mod_cast next
  have hx := (abs_le.1 hm.near).1
  have hy := (abs_le.1 hn.near).2
  -- both are the half between two neighbours, and the rule picked each of them
  have mid : x = n + 1 / 2 := by linarith
  have mid' : y = n + 1 / 2 := by linarith
  have same : m = n + 1 := by
    have : (m : ℚ) = n + 1 := by linarith
    exact_mod_cast this
  subst same
  have low := hn.tie (by rw [mid']; ring_nf; norm_num)
  have high := hm.tie (by rw [mid]; push_cast; ring_nf; norm_num)
  rw [mid'] at low
  rw [mid] at high
  exact fair n low high

theorem neg (odd : tie.Odd) (h : Nearest tie x n) : Nearest tie (-x) (-n) := by
  have mirror : |-x - ((-n : ℤ) : ℚ)| = |x - n| := by
    push_cast
    rw [← abs_neg]
    ring_nf
  constructor
  · rw [mirror]
    exact h.near
  · intro half
    rw [mirror] at half
    exact odd x n (h.tie half)

/-- A whole number is nearest to itself. -/
theorem self (tie : Tie) (n : ℤ) : Nearest tie n n := by
  constructor
  · rw [sub_self, abs_zero]
    norm_num
  · intro half
    rw [sub_self, abs_zero] at half
    norm_num at half

end Nearest

/-! ## To a number of places -/

/-- `w` is `v` with so many places. -/
def RoundsTo (tie : Tie) (places : ℕ) (v w : ℚ) : Prop :=
  ∃ n : ℤ, Nearest tie (v * 10 ^ places) n ∧ w = n / 10 ^ places

theorem RoundsTo.mono {tie : Tie} {places : ℕ} {v w x y : ℚ} (fair : tie.Fair)
    (hv : RoundsTo tie places v x) (hw : RoundsTo tie places w y) (h : v ≤ w) : x ≤ y := by
  obtain ⟨m, hm, rfl⟩ := hv
  obtain ⟨n, hn, rfl⟩ := hw
  have scaled : v * 10 ^ places ≤ w * 10 ^ places := by gcongr
  have le : (m : ℚ) ≤ n := by exact_mod_cast hm.mono fair hn scaled
  gcongr

theorem RoundsTo.neg {tie : Tie} {places : ℕ} {v w : ℚ} (odd : tie.Odd)
    (h : RoundsTo tie places v w) : RoundsTo tie places (-v) (-w) := by
  obtain ⟨n, hn, rfl⟩ := h
  refine ⟨-n, ?_, ?_⟩
  · rw [neg_mul]
    exact hn.neg odd
  · push_cast
    rw [neg_div]

/-- The last place that is kept is off by half a unit at most. -/
theorem RoundsTo.near {tie : Tie} {places : ℕ} {v w : ℚ} (h : RoundsTo tie places v w) :
    |v - w| ≤ 1 / 2 / 10 ^ places := by
  obtain ⟨n, hn, rfl⟩ := h
  have unit : (0 : ℚ) < 10 ^ places := by positivity
  have scaled : v * 10 ^ places - n = (v - n / 10 ^ places) * 10 ^ places := by field_simp
  have near := hn.near
  rw [scaled, abs_mul, abs_of_pos unit] at near
  rwa [le_div_iff₀ unit]

/-- What has so many places already stays as it is. -/
theorem RoundsTo.again {tie : Tie} {places : ℕ} {v w : ℚ} (h : RoundsTo tie places v w) :
    RoundsTo tie places w w := by
  obtain ⟨n, -, rfl⟩ := h
  have scaled : (n : ℚ) / 10 ^ places * 10 ^ places = n := by field_simp
  refine ⟨n, ?_, rfl⟩
  rw [scaled]
  exact Nearest.self tie n

/-- A whole number needs no places. -/
theorem RoundsTo.whole (tie : Tie) (places : ℕ) (n : ℤ) : RoundsTo tie places n n := by
  refine ⟨n * 10 ^ places, ?_, ?_⟩
  · exact_mod_cast Nearest.self tie (n * 10 ^ places)
  · push_cast
    field_simp

/-! ## To a decimal -/

/-- The limit is even, so the last number below it is the last that rounds below it. -/
theorem Nearest.lt_limit_iff {x : ℚ} {n : ℤ} (h : Nearest toEven x n) :
    n < limit ↔ x < limit - 1 / 2 := by
  have near := abs_le.1 h.near
  constructor
  · intro below
    have last : (n : ℚ) ≤ limit - 1 := by
      have : n ≤ (limit : ℤ) - 1 := by omega
      exact_mod_cast this
    rcases lt_or_eq_of_le (show x ≤ limit - 1 / 2 by linarith) with lt | eq
    · exact lt
    · have odd : n = (limit : ℤ) - 1 := by
        have : (n : ℚ) = (limit : ℤ) - 1 := by
          push_cast
          linarith
        exact_mod_cast this
      have even : Even n := h.tie (by rw [eq, odd]; push_cast; ring_nf; norm_num)
      rw [odd, limit_eq] at even
      exact absurd even (by decide)
  · intro below
    have : (n : ℚ) < limit := by linarith
    exact_mod_cast this

theorem Nearest.abs_lt_limit_iff {x : ℚ} {n : ℤ} (h : Nearest toEven x n) :
    |n| < limit ↔ |x| < limit - 1 / 2 := by
  have mirrored := (h.neg toEven_odd).lt_limit_iff
  rw [abs_lt, abs_lt, h.lt_limit_iff]
  refine and_congr_left fun _ => ?_
  rw [neg_lt, mirrored, neg_lt]

/-- What would go beyond the limit with one more place is rounded to as much or more in size than
any mantissa with that place: a tenth of the limit ends in more than a half. -/
theorem Nearest.le_of_over {x : ℚ} {n : ℤ} (h : Nearest toEven x n)
    (beyond : 10 * x ≤ 1 / 2 - limit) : (10 : ℚ) * n ≤ 1 - limit := by
  have near := (abs_le.1 h.near).1
  rw [limit_eq] at beyond ⊢
  push_cast at beyond ⊢
  have low : n < -7922816251426433759354395033 := by
    have : (n : ℚ) < -7922816251426433759354395033 := by linarith
    exact_mod_cast this
  have next : n ≤ -7922816251426433759354395034 := by omega
  have : (n : ℚ) ≤ -7922816251426433759354395034 := by exact_mod_cast next
  linarith

/-- With `t` places `v` becomes `n` units of the last one. Fewer places than a decimal may have are
used where `v` needs no more or one more would go beyond the limit. -/
structure Shortened (v : ℚ) (t : ℕ) (n : ℤ) : Prop where
  places  : t ≤ maxScale
  below   : |n| < limit
  nearest : Nearest toEven (v * 10 ^ t) n
  most    : v * 10 ^ t = n ∨ t = maxScale ∨ limit - 1 / 2 ≤ |v| * 10 ^ (t + 1)

/-- `y` is what `v` is rounded to. -/
def Rounds (v y : ℚ) : Prop := ∃ t n, Shortened v t n ∧ y = n / 10 ^ t

namespace Shortened

variable {v w : ℚ} {t u : ℕ} {m n : ℤ}

theorem neg (h : Shortened v t n) : Shortened (-v) t (-n) where
  places := h.places
  below := by rw [abs_neg]; exact h.below
  nearest := by
    rw [neg_mul]
    exact h.nearest.neg toEven_odd
  most := by
    rw [abs_neg, neg_mul]
    push_cast
    exact h.most.imp_left neg_inj.2

/-- A number that is rounded to fewer places does not overtake one that is rounded to more. -/
theorem le_of_coarser (hv : Shortened v t m) (hw : Shortened w u n) (h : v ≤ w) (coarser : t < u) :
    (m : ℚ) / 10 ^ t ≤ n / 10 ^ u := by
  rcases hv.most with exactly | all | beyond
  · -- `v` is a multiple of the finer unit as well
    have power : (10 : ℚ) ^ u = 10 ^ (u - t) * 10 ^ t := by rw [← pow_add]; congr 1; omega
    have scaled : ((m * 10 ^ (u - t) : ℤ) : ℚ) ≤ w * 10 ^ u := by
      calc ((m * 10 ^ (u - t) : ℤ) : ℚ) = v * 10 ^ u := by
            rw [power]
            push_cast
            rw [← exactly]
            ring
        _ ≤ w * 10 ^ u := by gcongr
    have le : m * 10 ^ (u - t) ≤ n := (Nearest.self toEven _).mono toEven_fair hw.nearest scaled
    have le' : (m : ℚ) * 10 ^ (u - t) ≤ n := by exact_mod_cast le
    rw [div_le_div_iff₀ (by positivity) (by positivity), power, ← mul_assoc]
    gcongr
  · have := hw.places
    omega
  · have power : (10 : ℚ) ^ (t + 1) ≤ 10 ^ u := pow_le_pow_right₀ (by norm_num) coarser
    rcases le_or_gt 0 v with pos | neg
    · -- with so many places `w` would go beyond the limit
      have small := (hw.nearest.lt_limit_iff).1 (abs_lt.1 hw.below).2
      have large : v * 10 ^ (t + 1) ≤ w * 10 ^ u := by gcongr; exact pos.trans h
      rw [abs_of_nonneg pos] at beyond
      linarith
    · have first : (10 : ℚ) * m ≤ 1 - limit := by
        refine hv.nearest.le_of_over ?_
        rw [abs_of_neg neg, pow_succ] at beyond
        linarith
      have last : (1 : ℚ) - limit ≤ n := by
        have := (abs_lt.1 hw.below).1
        have : (1 : ℤ) - limit ≤ n := by omega
        exact_mod_cast this
      have bounded : (1 : ℚ) - limit ≤ 0 := by rw [limit_eq]; norm_num
      calc (m : ℚ) / 10 ^ t = 10 * m / 10 ^ (t + 1) := by rw [pow_succ]; field_simp
        _ ≤ (1 - limit) / 10 ^ (t + 1) := by gcongr
        _ ≤ (1 - limit) / 10 ^ u := by
          rw [div_le_div_iff₀ (by positivity) (by positivity)]
          exact mul_le_mul_of_nonpos_left power bounded
        _ ≤ n / 10 ^ u := by gcongr

theorem mono (hv : Shortened v t m) (hw : Shortened w u n) (h : v ≤ w) :
    (m : ℚ) / 10 ^ t ≤ n / 10 ^ u := by
  rcases lt_trichotomy t u with coarser | rfl | finer
  · exact le_of_coarser hv hw h coarser
  · have scaled : v * 10 ^ t ≤ w * 10 ^ t := by gcongr
    have le : (m : ℚ) ≤ n := by exact_mod_cast hv.nearest.mono toEven_fair hw.nearest scaled
    gcongr
  · have mirrored := le_of_coarser hw.neg hv.neg (neg_le_neg h) finer
    push_cast at mirrored
    rw [neg_div, neg_div] at mirrored
    exact neg_le_neg_iff.1 mirrored

end Shortened

namespace Rounds

variable {v w x y : ℚ}

theorem mono (hv : Rounds v x) (hw : Rounds w y) (h : v ≤ w) : x ≤ y := by
  obtain ⟨t, m, hv, rfl⟩ := hv
  obtain ⟨u, n, hw, rfl⟩ := hw
  exact hv.mono hw h

/-- A decimal is rounded to itself. -/
theorem self {t : ℕ} {n : ℤ} (places : t ≤ maxScale) (below : |n| < limit) :
    Rounds (n / 10 ^ t) (n / 10 ^ t) := by
  have scaled : (n : ℚ) / 10 ^ t * 10 ^ t = n := by field_simp
  refine ⟨t, n, ⟨places, below, ?_, .inl scaled⟩, rfl⟩
  rw [scaled]
  exact Nearest.self toEven n

theorem zero : Rounds 0 0 := by
  simpa using self (t := 0) (n := 0) (Nat.zero_le _) (by decide)

theorem unique (hx : Rounds v x) (hy : Rounds v y) : x = y :=
  le_antisymm (hx.mono hy le_rfl) (hy.mono hx le_rfl)

theorem neg (h : Rounds v x) : Rounds (-v) (-x) := by
  obtain ⟨t, n, h, rfl⟩ := h
  refine ⟨t, -n, h.neg, ?_⟩
  push_cast
  rw [neg_div]

/-- Only what stays below the limit is rounded. -/
theorem abs_lt (h : Rounds v x) : |v| < limit - 1 / 2 := by
  obtain ⟨t, n, h, rfl⟩ := h
  have small := h.nearest.abs_lt_limit_iff.1 h.below
  rw [abs_mul, abs_of_nonneg (by positivity : (0 : ℚ) ≤ 10 ^ t)] at small
  have one : (1 : ℚ) ≤ 10 ^ t := one_le_pow₀ (by norm_num)
  calc |v| = |v| * 1 := (mul_one _).symm
    _ ≤ |v| * 10 ^ t := by gcongr
    _ < limit - 1 / 2 := small

/-- Rounding moves a number by half a unit at most. -/
theorem near (h : Rounds v x) : |v - x| ≤ 1 / 2 := by
  obtain ⟨t, n, h, rfl⟩ := h
  have one : (1 : ℚ) ≤ 10 ^ t := one_le_pow₀ (by norm_num)
  have scaled : v * 10 ^ t - n = (v - n / 10 ^ t) * 10 ^ t := by field_simp
  have near := h.nearest.near
  rw [scaled, abs_mul, abs_of_nonneg (by positivity : (0 : ℚ) ≤ 10 ^ t)] at near
  calc |v - n / 10 ^ t| = |v - n / 10 ^ t| * 1 := (mul_one _).symm
    _ ≤ |v - n / 10 ^ t| * 10 ^ t := by gcongr
    _ ≤ 1 / 2 := near

end Rounds

end DeviceLink.Decimal
