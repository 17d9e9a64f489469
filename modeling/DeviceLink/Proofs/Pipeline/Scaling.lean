import DeviceLink.Pipeline.Scale
import DeviceLink.Proofs.Decimal.Conversion
/-!
# Scaling keeps the order

A value is multiplied and then rounded twice: to a decimal, with a half going to the even digit, and
to a number of places, with a half going away from zero. Which of the two has something to round
depends on the size of the product, and so does the way in which it is worked out. None of this is
seen in the outcome, which is told by the exact product alone (`Image`).

Each rounding keeps the order, does on one side of zero what it does on the other, and leaves alone
what needs no rounding; so does one after the other (`scaleExact_orderly`).
-/
namespace DeviceLink.Scale

open Decimal

/-! ## Two roundings -/

/-- `y` stands for `v`: rounded to a decimal, and then to so many places. -/
def Image (places : ℕ) (v y : ℚ) : Prop :=
  ∃ p, Rounds v p ∧ RoundsTo (Half.tie .awayFromZero) places p y

namespace Image

variable {places : ℕ} {v w x y : ℚ}

theorem mono (hv : Image places v x) (hw : Image places w y) (h : v ≤ w) : x ≤ y := by
  obtain ⟨p, hp, hx⟩ := hv
  obtain ⟨q, hq, hy⟩ := hw
  exact hx.mono (Half.tie_fair _) hy (hp.mono hq h)

theorem unique (hx : Image places v x) (hy : Image places v y) : x = y :=
  le_antisymm (hx.mono hy le_rfl) (hy.mono hx le_rfl)

theorem neg (h : Image places v x) : Image places (-v) (-x) := by
  obtain ⟨p, hp, hx⟩ := h
  exact ⟨-p, hp.neg, hx.neg (Half.tie_odd _)⟩

theorem abs_lt (h : Image places v x) : |v| < limit - 1 / 2 := by
  obtain ⟨p, hp, -⟩ := h
  exact hp.abs_lt

/-- What is an image and a decimal is its own image. -/
theorem again (h : Image places v x) (decimal : Rounds x x) : Image places x x := by
  obtain ⟨p, -, hx⟩ := h
  exact ⟨x, decimal, hx.again⟩

end Image

/-! ## The stage in decimals -/

/-- What a value is multiplied by. -/
def worth : Option Decimal → ℚ
  | some f => f.value
  | none => 1

variable {factor : Option Decimal} {d e y : Decimal} {places : ℕ}

/-- What the exact product comes to, if it does not go beyond the limit. -/
theorem scaleExact_settled (d : Decimal) (factor : Option Decimal) :
    Settled (d.value * worth factor) (scaleExact d factor none) := by
  cases factor with
  | none =>
    rw [worth, mul_one]
    exact d.rounds_self
  | some f =>
    have unrounded : scaleExact d (some f) none = d.mul f := Option.map_id'
    rw [unrounded]
    exact mul_settled d f

/-- The product is worked out first. -/
theorem scaleExact_eq (d : Decimal) (factor : Option Decimal) (fixed : Option ℕ) :
    scaleExact d factor fixed = (scaleExact d factor none).map (round fixed) := by
  cases factor with
  | none => rfl
  | some f =>
    show (d.mul f).map (round fixed) = ((d.mul f).map (round none)).map (round fixed)
    rw [Option.map_map]
    rfl

theorem roundTo_scale_le (half : Half) (places : ℕ) (d : Decimal) :
    (d.roundTo half places).scale ≤ places := by
  unfold Decimal.roundTo
  by_cases few : d.scale ≤ places
  · rw [dif_pos few]
    exact few
  · rw [dif_neg few]

/-- The product before it is rounded to places, and the outcome. -/
theorem scaleExact_eq_some (h : scaleExact d factor (some places) = some y) :
    ∃ p, scaleExact d factor none = some p ∧ Rounds (d.value * worth factor) p.value ∧
      RoundsTo (Half.tie .awayFromZero) places p.value y.value ∧ y.scale ≤ places := by
  have settled := scaleExact_settled d factor
  rw [scaleExact_eq] at h
  obtain ⟨p, product, rfl⟩ := Option.map_eq_some_iff.1 h
  rw [product] at settled
  exact ⟨p, product, settled, roundTo_roundsTo .awayFromZero places p,
    roundTo_scale_le .awayFromZero places p⟩

theorem scaleExact_image (h : scaleExact d factor (some places) = some y) :
    Image places (d.value * worth factor) y.value := by
  obtain ⟨p, -, product, rounded, -⟩ := scaleExact_eq_some h
  exact ⟨p.value, product, rounded⟩

/-- Whatever has an image is worked out. -/
theorem scaleExact_of_image {x : ℚ} (image : Image places (d.value * worth factor) x) :
    ∃ y, scaleExact d factor (some places) = some y ∧ y.value = x := by
  obtain ⟨p, product, -⟩ := (scaleExact_settled d factor).exists image.abs_lt
  have outcome : scaleExact d factor (some places) = some (round (some places) p) := by
    rw [scaleExact_eq, product]
    rfl
  exact ⟨_, outcome, (scaleExact_image outcome).unique image⟩

/-! ## What is kept -/

/-- Scaling by a factor and rounding to a number of places, as it looks from outside. -/
structure Orderly (factor : Option Decimal) (places : ℕ) : Prop where
  few : ∀ d y, scaleExact d factor (some places) = some y → y.scale ≤ places
  near : ∀ d y, scaleExact d factor (some places) = some y →
    ∃ p, scaleExact d factor none = some p ∧ Rounds (d.value * worth factor) p.value ∧
      |p.value - y.value| ≤ 1 / 2 / 10 ^ places
  rising : 0 ≤ worth factor → ∀ d e x y, d.value ≤ e.value →
    scaleExact d factor (some places) = some x → scaleExact e factor (some places) = some y →
    x.value ≤ y.value
  falling : worth factor ≤ 0 → ∀ d e x y, d.value ≤ e.value →
    scaleExact d factor (some places) = some x → scaleExact e factor (some places) = some y →
    y.value ≤ x.value
  odd : ∀ d e x, e.value = -d.value → scaleExact d factor (some places) = some x →
    ∃ y, scaleExact e factor (some places) = some y ∧ y.value = -x.value
  again : ∀ d x unit, worth unit = 1 → scaleExact d factor (some places) = some x →
    ∃ y, scaleExact x unit (some places) = some y ∧ y.value = x.value

theorem orderly (factor : Option Decimal) (places : ℕ) : Orderly factor places where
  few := by
    intro d y h
    obtain ⟨-, -, -, -, scale⟩ := scaleExact_eq_some h
    exact scale
  near := by
    intro d y h
    obtain ⟨p, product, rounds, rounded, -⟩ := scaleExact_eq_some h
    exact ⟨p, product, rounds, rounded.near⟩
  rising := by
    intro pos d e x y le hx hy
    exact (scaleExact_image hx).mono (scaleExact_image hy) (mul_le_mul_of_nonneg_right le pos)
  falling := by
    intro neg d e x y le hx hy
    exact (scaleExact_image hy).mono (scaleExact_image hx) (mul_le_mul_of_nonpos_right le neg)
  odd := by
    intro d e x opposite hx
    refine scaleExact_of_image ?_
    rw [opposite, neg_mul]
    exact (scaleExact_image hx).neg
  again := by
    intro d x unit one hx
    refine scaleExact_of_image ?_
    rw [one, mul_one]
    exact (scaleExact_image hx).again x.rounds_self

/-- **Scaling keeps the order**: whatever decimals a value and a factor are, those of doubles among
them, the outcome has no more places than wanted and is within half a unit of the last of them. A
factor that is not negative keeps the order and one that is not positive turns it round, opposite
values have opposite outcomes, and an outcome that is scaled by one or not at all is kept. -/
theorem scaleExact_orderly :
    (∃ one, ofFloat 1 = some one ∧ worth (some one) = 1) ∧
      ∀ (factor : Option Decimal) (places : ℕ), Orderly factor places := by
  refine ⟨⟨⟨false, 1, 0, by decide, by decide⟩, by decide +kernel, ?_⟩, orderly⟩
  norm_num [worth, value, sign]

/-- One and a half units behind all places, and two and a half, become the same even number. -/
theorem scaleExact_orderly_even :
    let f : Decimal := ⟨true, 1, 28, by decide, by decide⟩
    let d : Decimal := ⟨false, 15, 1, by decide, by decide⟩
    let e : Decimal := ⟨false, 25, 1, by decide, by decide⟩
    let x : Decimal := ⟨true, 2, 28, by decide, by decide⟩
    ofFloat (-1e-28) = some f ∧ worth (some f) ≤ 0 ∧
      scaleExact d (some f) (some 28) = some x ∧ scaleExact e (some f) (some 28) = some x ∧
      ∃ y, scaleExact d.neg (some f) (some 28) = some y ∧ y.value = -x.value := by
  intro f d e x
  have factor : ofFloat (-1e-28) = some f := by decide +kernel
  have outcome : scaleExact d (some f) (some 28) = some x := by decide +kernel
  refine ⟨factor, by norm_num [worth, value, sign, f], outcome, by decide +kernel, ?_⟩
  exact (scaleExact_orderly.2 (some f) 28).odd d d.neg x (value_neg d) outcome

end DeviceLink.Scale
