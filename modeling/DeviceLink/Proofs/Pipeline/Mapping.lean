import DeviceLink.Pipeline.Linear
import DeviceLink.Proofs.Decimal.Conversion
import Mathlib.Algebra.Order.Group.Pointwise.Interval
/-!
# What linear mappings do

A reading is mapped by a difference, a ratio, a product and a sum, each rounded in its own way. The
curve that comes of it is told without the decimals (`Curve`), and every step of it keeps what lies
between its beginning and another point (`Curve.between`).

For a reading between the bounds no step fails (`mapExact_curve`). Where the extents of the bounds
are decimals, the curve leads from the one value bound to the other and never turns back
(`mapExact_leads`). And as the decimal of a clamped reading lies between those of the bounds, it is
the bounds alone that say whether a mapping stays within the decimals or is taken in doubles
(`mapDecimal_uniform`).
-/
namespace DeviceLink.Linear

open Decimal

/-! ## The curve -/

/-- The part `q` of the way that `o` is of `extent`: to all places first, and then to as many as are
kept. -/
def Part (extent o q : ℚ) : Prop :=
  ∃ r, RoundsTo toEven maxScale (o / extent) r ∧ RoundsTo (Half.tie .towardZero) ratioPlaces r q

/-- What a reading `c` is mapped to, with every step rounded. -/
def Curve (origin extent base span c y : ℚ) : Prop :=
  ∃ o q p, Rounds (c - origin) o ∧ Part extent o q ∧ Rounds (q * span) p ∧ Rounds (p + base) y

section
variable {x y z : ℚ}

theorem mul_mem_uIcc (k : ℚ) (h : x ∈ Set.uIcc 0 z) : x * k ∈ Set.uIcc 0 (z * k) := by
  have image : x * k ∈ (· * k) '' Set.uIcc 0 z := ⟨x, h, rfl⟩
  rwa [Set.image_mul_const_uIcc, zero_mul] at image

theorem add_mem_uIcc (k : ℚ) (h : x ∈ Set.uIcc y z) : x + k ∈ Set.uIcc (y + k) (z + k) := by
  have image : x + k ∈ (· + k) '' Set.uIcc y z := ⟨x, h, rfl⟩
  rwa [Set.image_add_const_uIcc] at image

theorem abs_lt_of_mem_uIcc {b : ℚ} (h : x ∈ Set.uIcc y z) (hy : |y| < b) (hz : |z| < b) :
    |x| < b := by
  rw [abs_lt] at hy hz ⊢
  rcases Set.mem_uIcc.1 h with ⟨above, below⟩ | ⟨above, below⟩
  · exact ⟨hy.1.trans_le above, below.trans_lt hz.2⟩
  · exact ⟨hz.1.trans_le above, below.trans_lt hy.2⟩

theorem sub_mem_uIcc (k : ℚ) (h : x ∈ Set.uIcc k z) : x - k ∈ Set.uIcc 0 (z - k) := by
  have moved := add_mem_uIcc (-k) h
  rwa [← sub_eq_add_neg, ← sub_eq_add_neg, ← sub_eq_add_neg, sub_self] at moved

end

section
variable {extent o o' q q' : ℚ}

theorem Part.between (h : Part extent o q) (h' : Part extent o' q')
    (between : o ∈ Set.uIcc 0 o') : q ∈ Set.uIcc 0 q' := by
  obtain ⟨r, hr, hq⟩ := h
  obtain ⟨r', hr', hq'⟩ := h'
  have ratio : o / extent ∈ Set.uIcc 0 (o' / extent) := by
    rw [div_eq_mul_inv, div_eq_mul_inv]
    exact mul_mem_uIcc extent⁻¹ between
  have zero : ∀ tie places, RoundsTo tie places 0 0 := by
    intro tie places
    exact_mod_cast RoundsTo.whole tie places 0
  have first := uIcc_of_mono (RoundsTo.mono toEven_fair) (zero _ _) hr hr' ratio
  exact uIcc_of_mono (RoundsTo.mono (Half.tie_fair _)) (zero _ _) hq hq' first

theorem Part.none (extent : ℚ) : Part extent 0 0 := by
  refine ⟨0, ?_, ?_⟩
  · rw [zero_div]
    exact_mod_cast RoundsTo.whole toEven maxScale 0
  · exact_mod_cast RoundsTo.whole (Half.tie .towardZero) ratioPlaces 0

theorem Part.all (apart : extent ≠ 0) : Part extent extent 1 := by
  refine ⟨1, ?_, ?_⟩
  · rw [div_self apart]
    exact_mod_cast RoundsTo.whole toEven maxScale 1
  · exact_mod_cast RoundsTo.whole (Half.tie .towardZero) ratioPlaces 1

end

namespace Curve

variable {origin extent base span c c' y y' : ℚ}

/-- As the reading moves away from the origin, its image moves away from the base. -/
theorem between (ground : Rounds base base) (h : Curve origin extent base span c y)
    (h' : Curve origin extent base span c' y') (le : c ∈ Set.uIcc origin c') :
    y ∈ Set.uIcc base y' := by
  obtain ⟨o, q, p, ho, hq, hp, hy⟩ := h
  obtain ⟨o', q', p', ho', hq', hp', hy'⟩ := h'
  have offset : o ∈ Set.uIcc 0 o' :=
    uIcc_of_mono Rounds.mono Rounds.zero ho ho' (sub_mem_uIcc origin le)
  have part : p ∈ Set.uIcc 0 p' :=
    uIcc_of_mono Rounds.mono Rounds.zero hp hp' (mul_mem_uIcc span (hq.between hq' offset))
  have total : p + base ∈ Set.uIcc base (p' + base) := by
    have moved := add_mem_uIcc base part
    rwa [zero_add] at moved
  exact uIcc_of_mono Rounds.mono ground hy hy' total

/-- A reading has one image. -/
theorem unique (ground : Rounds base base) (h : Curve origin extent base span c y)
    (h' : Curve origin extent base span c y') : y = y' :=
  Set.eq_of_mem_uIcc_of_mem_uIcc' (h.between ground h' Set.right_mem_uIcc)
    (h'.between ground h Set.right_mem_uIcc)

/-- The curve begins at the base. -/
theorem first (ground : Rounds base base) : Curve origin extent base span origin base := by
  refine ⟨0, 0, 0, ?_, Part.none extent, ?_, ?_⟩
  · rw [sub_self]
    exact Rounds.zero
  · rw [zero_mul]
    exact Rounds.zero
  · rw [zero_add]
    exact ground

/-- It ends the whole span further, if nothing on the way there is rounded. -/
theorem last (apart : extent ≠ 0) (far : Rounds extent extent) (rise : Rounds span span)
    (top : Rounds (span + base) (span + base)) :
    Curve origin extent base span (origin + extent) (span + base) := by
  refine ⟨extent, 1, span, ?_, Part.all apart, ?_, top⟩
  · rw [add_sub_cancel_left]
    exact far
  · rw [one_mul]
    exact rise

end Curve

/-! ## The mapping in decimals -/

variable {lo hi bottom top range span c y : Decimal}

/-- Bounds whose extents are decimals, the one of the readings not zero, and no value beyond the
limit. -/
structure Charted (lo hi bottom top range span : Decimal) : Prop where
  extent : hi.sub lo = some range
  rise   : top.sub bottom = some span
  apart  : range.mantissa ≠ 0
  room   : |span.value + bottom.value| < limit - 1 / 2

/-- No step fails for a reading between the bounds: the offset is no greater than the extent, the
ratio at most one and the product no greater than the span. -/
theorem mapExact_curve (charted : Charted lo hi bottom top range span)
    (between : c.value ∈ Set.uIcc lo.value hi.value) :
    ∃ y, mapExact c lo hi bottom top = some y ∧
      Curve lo.value range.value bottom.value span.value c.value y.value := by
  have extent := sub_rounds charted.extent
  have away := sub_mem_uIcc lo.value between
  obtain ⟨offset, hoffset, offsetRounds⟩ :=
    (sub_settled c lo).exists (abs_lt_of_mem_uIcc away Rounds.zero.abs_lt extent.abs_lt)
  have within := uIcc_of_mono Rounds.mono Rounds.zero offsetRounds extent away
  have nearer : |offset.value| ≤ |range.value| := by
    simpa using Set.abs_sub_left_of_mem_uIcc within
  obtain ⟨ratio, hratio, ratioRounds⟩ := div_roundsTo charted.apart nearer
  have part : Part range.value offset.value (ratio.roundTo .towardZero ratioPlaces).value :=
    ⟨ratio.value, ratioRounds, roundTo_roundsTo .towardZero ratioPlaces ratio⟩
  have apart : range.value ≠ 0 := mt (value_eq_zero_iff range).1 charted.apart
  have scaled := mul_mem_uIcc span.value (part.between (Part.all apart) within)
  rw [one_mul] at scaled
  obtain ⟨product, hproduct, productRounds⟩ :=
    (mul_settled (ratio.roundTo .towardZero ratioPlaces) span).exists
      (abs_lt_of_mem_uIcc scaled Rounds.zero.abs_lt span.rounds_self.abs_lt)
  have rise := uIcc_of_mono Rounds.mono Rounds.zero productRounds span.rounds_self scaled
  have sum := add_mem_uIcc bottom.value rise
  rw [zero_add] at sum
  obtain ⟨y, hy, yRounds⟩ := (add_settled product bottom).exists
    (abs_lt_of_mem_uIcc sum bottom.rounds_self.abs_lt charted.room)
  refine ⟨y, ?_, offset.value, _, product.value, offsetRounds, part, productRounds, yRounds⟩
  unfold mapExact
  rw [hoffset, charted.extent, charted.rise]
  simp only [Option.bind_eq_bind, Option.bind_some, hratio, hproduct]
  exact hy

/-- The other end is met where neither extent is rounded. -/
theorem Charted.last (charted : Charted lo hi bottom top range span)
    (extent : range.value = hi.value - lo.value) (rise : span.value = top.value - bottom.value) :
    Curve lo.value range.value bottom.value span.value hi.value top.value := by
  have finish : lo.value + range.value = hi.value := by rw [extent, add_sub_cancel]
  have reached : span.value + bottom.value = top.value := by rw [rise, sub_add_cancel]
  have apart : range.value ≠ 0 := mt (value_eq_zero_iff range).1 charted.apart
  rw [← finish, ← reached]
  refine Curve.last apart range.rounds_self span.rounds_self ?_
  rw [reached]
  exact top.rounds_self

/-! ## Monotone, bounded and exact at the ends -/

/-- Bounds with readings apart, and differences that are decimals. -/
structure Anchored (lo hi bottom top : Decimal) : Prop where
  apart  : lo.value ≠ hi.value
  extent : ∃ d : Decimal, d.value = hi.value - lo.value
  rise   : ∃ d : Decimal, d.value = top.value - bottom.value

/-- `f` leads from `bottom` at `lo` to `top` at `hi` and never turns back. -/
structure Leads (f : Decimal → Option Decimal) (lo hi bottom top : ℚ) : Prop where
  within : ∀ c, c.value ∈ Set.uIcc lo hi → ∃ y, f c = some y ∧ y.value ∈ Set.uIcc bottom top
  starts : ∀ c y, c.value = lo → f c = some y → y.value = bottom
  ends   : ∀ c y, c.value = hi → f c = some y → y.value = top
  onward : ∀ c c' y y', c'.value ∈ Set.uIcc lo hi → c.value ∈ Set.uIcc lo c'.value →
    f c = some y → f c' = some y' → y.value ∈ Set.uIcc bottom y'.value

theorem Anchored.charted (h : Anchored lo hi bottom top) : ∃ range span,
    Charted lo hi bottom top range span ∧ range.value = hi.value - lo.value ∧
      span.value = top.value - bottom.value := by
  obtain ⟨d, exactly⟩ := h.extent
  obtain ⟨e, exactly'⟩ := h.rise
  obtain ⟨range, hrange, same⟩ := sub_exactly exactly
  obtain ⟨span, hspan, same'⟩ := sub_exactly exactly'
  rw [exactly] at same
  rw [exactly'] at same'
  refine ⟨range, span, ⟨hrange, hspan, ?_, ?_⟩, same, same'⟩
  · intro zero
    rw [(value_eq_zero_iff range).2 zero] at same
    exact h.apart (sub_eq_zero.1 same.symm).symm
  · rw [same', sub_add_cancel]
    exact top.rounds_self.abs_lt

/-- **Linear mapping is monotone, bounded and exact at its ends**: where the bounds are decimals, as
those of doubles are, and their extents need no rounding, every reading between them is mapped to a
decimal between the value bounds. The ends are mapped to the ends, and what is further from the
first one is mapped no closer to it. -/
theorem mapExact_leads (h : Anchored lo hi bottom top) :
    Leads (mapExact · lo hi bottom top) lo.value hi.value bottom.value top.value := by
  obtain ⟨range, span, charted, extent, rise⟩ := h.charted
  have ground := bottom.rounds_self
  have image : ∀ {c y}, c.value ∈ Set.uIcc lo.value hi.value →
      mapExact c lo hi bottom top = some y →
      Curve lo.value range.value bottom.value span.value c.value y.value := by
    intro c y between mapped
    obtain ⟨z, hz, curve⟩ := mapExact_curve charted between
    cases hz.symm.trans mapped
    exact curve
  have first : Curve lo.value range.value bottom.value span.value lo.value bottom.value :=
    Curve.first ground
  have last := charted.last extent rise
  constructor
  · intro c between
    obtain ⟨y, hy, curve⟩ := mapExact_curve charted between
    exact ⟨y, hy, curve.between ground last between⟩
  · intro c y start mapped
    have curve := image (by rw [start]; exact Set.left_mem_uIcc) mapped
    rw [start] at curve
    exact curve.unique ground first
  · intro c y finish mapped
    have curve := image (by rw [finish]; exact Set.right_mem_uIcc) mapped
    rw [finish] at curve
    exact curve.unique ground last
  · intro c c' y y' between nearer mapped mapped'
    have wider : c.value ∈ Set.uIcc lo.value hi.value :=
      Set.uIcc_subset_uIcc_left between nearer
    exact (image wider mapped).between ground (image between mapped') nearer

/-- From 3 down to 0 the values go from -0.5 up to 0.5. -/
theorem anchored_thirds :
    Anchored ⟨false, 3, 0, by decide, by decide⟩ zero ⟨true, 5, 1, by decide, by decide⟩
      ⟨false, 5, 1, by decide, by decide⟩ where
  apart  := by norm_num [value, sign, zero, signedZero]
  extent := ⟨⟨true, 3, 0, by decide, by decide⟩, by norm_num [value, sign, zero, signedZero]⟩
  rise   := ⟨⟨false, 1, 0, by decide, by decide⟩, by norm_num [value, sign]⟩

/-- A third and two thirds of the way, where the ratio has to be rounded. -/
theorem mapExact_leads_thirds :
    let lo : Decimal := ⟨false, 3, 0, by decide, by decide⟩
    let bottom : Decimal := ⟨true, 5, 1, by decide, by decide⟩
    let top : Decimal := ⟨false, 5, 1, by decide, by decide⟩
    let c : Decimal := ⟨false, 2, 0, by decide, by decide⟩
    let c' : Decimal := ⟨false, 1, 0, by decide, by decide⟩
    let y : Decimal := ⟨true, 16666666666666670, 17, by decide, by decide⟩
    let y' : Decimal := ⟨false, 16666666666666670, 17, by decide, by decide⟩
    Anchored lo zero bottom top ∧ mapExact c lo zero bottom top = some y ∧
      mapExact c' lo zero bottom top = some y' ∧ y.value ∈ Set.uIcc bottom.value y'.value := by
  intro lo bottom top c c' y y'
  have third : mapExact c lo zero bottom top = some y := by decide +kernel
  have thirds : mapExact c' lo zero bottom top = some y' := by decide +kernel
  refine ⟨anchored_thirds, third, thirds, ?_⟩
  refine (mapExact_leads anchored_thirds).onward c c' y y' ?_ ?_ third thirds
  · exact Set.mem_uIcc.2 (.inr (by norm_num [value, sign, zero, signedZero, lo, c']))
  · exact Set.mem_uIcc.2 (.inr (by norm_num [value, sign, lo, c, c']))

/-! ## Decimals or doubles -/

/-- What the bounds have to be for their mapping to stay within the decimals. -/
def InDecimals (b : Bounds) : Prop :=
  ∃ lo hi bottom top range span,
    ofFloat b.minRaw = some lo ∧ ofFloat b.maxRaw = some hi ∧
    ofFloat b.minValue = some bottom ∧ ofFloat b.maxValue = some top ∧
    hi.sub lo = some range ∧ range.mantissa ≠ 0 ∧ top.sub bottom = some span

theorem ofFloat_finite {x : Float} {d : Decimal} (h : ofFloat x = some d) : x.isNaN = false := by
  obtain ⟨_, _, _, px, -, -⟩ := ofFloat_eq_some h
  exact Number.isNaN_of_finite px

theorem le_larger {x z : Float} (hx : x.isNaN = false) :
    (larger z x).isNaN = false ∧ x ≤ larger z x := by
  unfold larger
  split
  · exact ⟨hx, Number.le_refl hx⟩
  · next hz =>
    rw [Bool.not_eq_true] at hz
    rw [hx, if_neg Bool.false_ne_true]
    by_cases below : z < x
    · rw [if_pos below]
      exact ⟨hx, Number.le_refl hx⟩
    · rw [if_neg below]
      exact ⟨hz, (Number.le_iff_not_lt hx hz).2 below⟩

/-- A number is moved between two others, wherever it was. -/
theorem smaller_between {x y z : Float} (hy : y.isNaN = false) (hz : z.isNaN = false)
    (order : x ≤ y) (above : x ≤ z) : x ≤ smaller z y ∧ smaller z y ≤ y := by
  unfold smaller
  rw [hz, hy, if_neg Bool.false_ne_true, if_neg Bool.false_ne_true]
  by_cases beyond : y < z
  · rw [if_pos beyond]
    exact ⟨order, Number.le_refl hy⟩
  · rw [if_neg beyond]
    exact ⟨above, (Number.le_iff_not_lt hz hy).2 beyond⟩

/-- A clamped reading lies between the bounds, in either order of them. -/
theorem clamp_between {b : Bounds} (hlo : b.minRaw.isNaN = false) (hhi : b.maxRaw.isNaN = false)
    (raw : Float) : b.minRaw ≤ clamp b raw ∧ clamp b raw ≤ b.maxRaw ∨
      b.maxRaw ≤ clamp b raw ∧ clamp b raw ≤ b.minRaw := by
  unfold clamp
  by_cases order : b.minRaw ≤ b.maxRaw
  · obtain ⟨number, above⟩ := le_larger (z := raw) hlo
    rw [if_pos order]
    exact .inl (smaller_between hhi number order above)
  · obtain ⟨number, above⟩ := le_larger (z := raw) hhi
    rw [if_neg order]
    exact .inr (smaller_between hlo number ((Number.le_total hlo hhi).resolve_left order) above)

/-- It has a decimal, between those of the bounds. -/
theorem clamp_decimal {b : Bounds} (hlo : ofFloat b.minRaw = some lo)
    (hhi : ofFloat b.maxRaw = some hi) (raw : Float) :
    ∃ c, ofFloat (clamp b raw) = some c ∧ c.value ∈ Set.uIcc lo.value hi.value := by
  rcases clamp_between (ofFloat_finite hlo) (ofFloat_finite hhi) raw with
    ⟨above, below⟩ | ⟨above, below⟩
  · obtain ⟨c, hc⟩ := ofFloat_between hlo hhi above below
    exact ⟨c, hc, Set.mem_uIcc.2 (.inl ⟨ofFloat_mono hlo hc above, ofFloat_mono hc hhi below⟩)⟩
  · obtain ⟨c, hc⟩ := ofFloat_between hhi hlo above below
    exact ⟨c, hc, Set.mem_uIcc.2 (.inr ⟨ofFloat_mono hhi hc above, ofFloat_mono hc hlo below⟩)⟩

/-- The span may be rounded up, but decimals of doubles stay further from the limit than that. -/
theorem charted_of_doubles {b : Bounds} (htop : ofFloat b.maxValue = some top)
    (hrange : hi.sub lo = some range) (apart : range.mantissa ≠ 0)
    (hspan : top.sub bottom = some span) : Charted lo hi bottom top range span := by
  refine ⟨hrange, hspan, apart, ?_⟩
  have near := abs_le.1 (sub_rounds hspan).near
  have reached := abs_le.1 (abs_value_le htop)
  exact abs_lt.2 ⟨by linarith, by linarith⟩

theorem mapDecimal_isSome_iff (b : Bounds) (raw : Float) :
    (mapDecimal b (clamp b raw)).isSome = true ↔ InDecimals b := by
  constructor
  · intro mapped
    obtain ⟨z, hz⟩ := Option.isSome_iff_exists.1 mapped
    simp only [mapDecimal, Option.bind_eq_bind, Option.bind_eq_some_iff] at hz
    obtain ⟨c, -, lo, hlo, hi, hhi, bottom, hbottom, top, htop, y, hy, -⟩ := hz
    simp only [mapExact, Option.bind_eq_bind, Option.bind_eq_some_iff] at hy
    obtain ⟨offset, -, range, hrange, ratio, hratio, span, hspan, -⟩ := hy
    refine ⟨lo, hi, bottom, top, range, span, hlo, hhi, hbottom, htop, hrange, ?_, hspan⟩
    intro zero
    rw [Decimal.div, if_pos zero] at hratio
    cases hratio
  · rintro ⟨lo, hi, bottom, top, range, span, hlo, hhi, hbottom, htop, hrange, apart, hspan⟩
    obtain ⟨c, hc, between⟩ := clamp_decimal hlo hhi raw
    obtain ⟨y, hy, -⟩ := mapExact_curve (charted_of_doubles htop hrange apart hspan) between
    unfold mapDecimal
    rw [hc, hlo, hhi, hbottom, htop]
    simp only [Option.bind_eq_bind, Option.bind_some, hy]
    rfl

/-- **One arithmetic for one curve**: if a clamped reading is mapped in decimals, so is any other.
Readings that have a range are therefore all mapped in decimals or all in doubles. -/
theorem mapDecimal_uniform (b : Bounds) :
    (∀ raw raw', mapDecimal b (clamp b raw) = none ↔ mapDecimal b (clamp b raw') = none) ∧
    ((b.minRaw == b.maxRaw) = false →
      (∀ raw, mapDecimal b (clamp b raw) = some (map b raw)) ∨
      (∀ raw, mapDecimal b (clamp b raw) = none ∧
        map b raw = (clamp b raw - b.minRaw) / (b.maxRaw - b.minRaw) *
          (b.maxValue - b.minValue) + b.minValue)) := by
  have decided : ∀ raw, mapDecimal b (clamp b raw) = none ↔ ¬ InDecimals b := by
    intro raw
    rw [← mapDecimal_isSome_iff b raw, Bool.not_eq_true, Option.isSome_eq_false_iff,
      Option.isNone_iff_eq_none]
  refine ⟨fun raw raw' => (decided raw).trans (decided raw').symm, fun apart => ?_⟩
  by_cases inside : InDecimals b
  · left
    intro raw
    obtain ⟨y, hy⟩ := Option.isSome_iff_exists.1 ((mapDecimal_isSome_iff b raw).2 inside)
    rw [map, apart, hy]
    rfl
  · right
    intro raw
    have lost := (decided raw).2 inside
    rw [map, apart, lost]
    exact ⟨rfl, rfl⟩

/-- Up to the last double below the limit of decimals. -/
def widest : Bounds := ⟨0, 79228162514264328797450928128, 1, 79228162514264328797450928128⟩

/-- One reading is mapped in decimals, and so are those beyond all decimals. -/
theorem mapDecimal_uniform_widest : (widest.minRaw == widest.maxRaw) = false ∧
    mapDecimal widest (clamp widest 0) = some 1 ∧
      mapDecimal widest (clamp widest 1e40) = some (map widest 1e40) := by
  have apart : (widest.minRaw == widest.maxRaw) = false := by decide +kernel
  have lowest : mapDecimal widest (clamp widest 0) = some 1 := by decide +kernel
  refine ⟨apart, lowest, ?_⟩
  rcases (mapDecimal_uniform widest).2 apart with inside | outside
  · exact inside 1e40
  · cases lowest.symm.trans (outside 0).1

end DeviceLink.Linear
