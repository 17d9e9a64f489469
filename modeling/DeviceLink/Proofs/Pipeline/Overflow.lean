import DeviceLink.Pipeline.Scale
import DeviceLink.Proofs.Decimal.Doubles
import DeviceLink.Proofs.Pipeline.Mapping
/-!
# Which numbers get lost

Mapping and rounding drop what is not finite. In decimals nothing becomes so, since every decimal is
a finite double. Where the arithmetic is done in doubles an intermediate result may overflow, though
the exact one is far from it: the extent of bounds on both sides of zero, or a number with its
places before the point. Those are all the readings that get lost (`handle_settles`, for either
stage), and they come with bounds, or products, in the last few binades of the doubles
(`not_overflows`).
-/
namespace DeviceLink

open Number

/-- A number goes on, as a finite double, unless it is lost. -/
structure Settles (lost : Prop) (out : StageOutput) : Prop where
  kept    : ¬ lost → ∃ y, isFinite y = true ∧ out = .value (.number (.real y))
  dropped : lost → out = .dropped

/-- Of what was computed the finite goes on. -/
theorem settles_result {lost : Prop} {y : Float} (h : isFinite y = false ↔ lost) :
    Settles lost (match Json.ofFloat? y with
      | some j => .value j
      | none => .dropped) where
  kept notLost := by
    have finite : isFinite y = true := by
      rw [← Bool.not_eq_false]
      exact mt h.1 notLost
    refine ⟨y, finite, ?_⟩
    simp [Json.ofFloat?, Number.ofFloat?, finite]
  dropped lost := by simp [Json.ofFloat?, Number.ofFloat?, h.2 lost]

/-! ## Linear mapping -/

namespace Linear

open Decimal

/-- The four bounds. -/
def ends (b : Bounds) : List Float := [b.minRaw, b.maxRaw, b.minValue, b.maxValue]

/-- The mapping of a clamped reading in doubles. -/
def inDoubles (b : Bounds) (c : Float) : Float :=
  (c - b.minRaw) / (b.maxRaw - b.minRaw) * (b.maxValue - b.minValue) + b.minValue

/-- The mapping is taken in doubles, and it leaves them. -/
structure Overflows (b : Bounds) (raw : Float) : Prop where
  apart    : (b.minRaw == b.maxRaw) = false
  outside  : ¬ InDecimals b
  infinite : isFinite (inDoubles b (clamp b raw)) = false

theorem clamp_finite {b : Bounds} (hlo : isFinite b.minRaw = true) (hhi : isFinite b.maxRaw = true)
    (raw : Float) : ∃ a m q, parts (clamp b raw) = .finite a m q := by
  obtain ⟨_, _, _, lo⟩ := isFinite_iff.1 hlo
  obtain ⟨_, _, _, hi⟩ := isFinite_iff.1 hhi
  rcases clamp_between (isNaN_of_isFinite hlo) (isNaN_of_isFinite hhi) raw with
    ⟨above, below⟩ | ⟨above, below⟩
  · exact finite_of_between lo hi above below
  · exact finite_of_between hi lo above below

/-- What is mapped in decimals is finite. -/
theorem mapDecimal_finite {b : Bounds} {raw y : Float} (h : mapDecimal b (clamp b raw) = some y) :
    isFinite y = true := by
  have mapped : (mapDecimal b (clamp b raw)).isSome = true := by rw [h]; rfl
  obtain ⟨lo, hi, bottom, top, range, span, hlo, hhi, hbottom, htop, hrange, apart, hspan⟩ :=
    (mapDecimal_isSome_iff b raw).1 mapped
  obtain ⟨c, hc, between⟩ := clamp_decimal hlo hhi raw
  obtain ⟨d, hd, -⟩ :=
    mapExact_curve (charted_of_doubles htop hrange apart hspan) between
  unfold mapDecimal at h
  rw [hc, hlo, hhi, hbottom, htop] at h
  simp only [Option.bind_eq_bind, Option.bind_some, hd, Option.pure_def, Option.some.injEq] at h
  rw [← h]
  exact toFloat_finite d

theorem map_lost_iff {b : Bounds} (finite : ∀ x ∈ ends b, isFinite x = true) (raw : Float) :
    isFinite (map b raw) = false ↔ Overflows b raw := by
  have hlo := finite b.minRaw (by simp [ends])
  have hhi := finite b.maxRaw (by simp [ends])
  by_cases apart : (b.minRaw == b.maxRaw) = false
  · have inside : ∀ {y}, mapDecimal b (clamp b raw) = some y → InDecimals b := fun h =>
      (mapDecimal_isSome_iff b raw).1 (by rw [h]; rfl)
    rcases (mapDecimal_uniform b).2 apart with decimal | double
    · have kept := mapDecimal_finite (decimal raw)
      constructor
      · intro lost
        rw [kept] at lost
        cases lost
      · intro overflows
        exact absurd (inside (decimal raw)) overflows.outside
    · obtain ⟨none, result⟩ := double raw
      have outside : ¬ InDecimals b := by
        rw [← mapDecimal_isSome_iff b raw, none]
        exact Bool.false_ne_true
      rw [result]
      exact ⟨fun infinite => ⟨apart, outside, infinite⟩, fun overflows => overflows.infinite⟩
  · have same : map b raw = clamp b raw := by
      rw [Bool.not_eq_false] at apart
      unfold map
      rw [if_pos apart]
    have kept := isFinite_iff.2 (clamp_finite hlo hhi raw)
    rw [same, kept]
    exact ⟨nofun, fun overflows => absurd overflows.apart apart⟩

/-- The stage drops a reading of finite bounds if the mapping overflows, and no other. -/
theorem handle_settles {tag : Tag} {b : Bounds} {v : Json} {raw : Float}
    (bounds : tag.bounds = some b) (finite : ∀ x ∈ ends b, isFinite x = true)
    (number : v.finite? = some raw) : Settles (Overflows b raw) (handle tag v) := by
  unfold handle
  rw [bounds]
  dsimp only
  rw [number]
  exact settles_result (map_lost_iff finite raw)

/-- A clamped reading is no further from one bound than the other bound is. -/
theorem clamp_nearer {b : Bounds} {s t u : Bool} {m n k : ℕ} {q r e : ℤ} {raw : Float}
    (hc : parts (clamp b raw) = .finite s m q) (hlo : parts b.minRaw = .finite t n r)
    (hhi : parts b.maxRaw = .finite u k e) :
    |number s m q - number t n r| ≤ |number u k e - number t n r| := by
  apply Set.abs_sub_left_of_mem_uIcc
  rcases clamp_between (isNaN_of_finite hlo) (isNaN_of_finite hhi) raw with
    ⟨above, below⟩ | ⟨above, below⟩
  · exact Set.mem_uIcc.2 (.inl ⟨number_le hlo hc above, number_le hc hhi below⟩)
  · exact Set.mem_uIcc.2 (.inr ⟨number_le hhi hc above, number_le hc hlo below⟩)

/-- Bounds of no more than 2^1020 in size are safe: their extents stay within 2^1021, and what is
made of the ratio within 2^1022. -/
theorem not_overflows {b : Bounds} (moderate : ∀ x ∈ ends b, AtMost (2 ^ (1020 : ℤ)) x)
    (raw : Float) : ¬ Overflows b raw := by
  rintro ⟨apart, -, infinite⟩
  obtain ⟨t, n, r, hlo, low⟩ := moderate b.minRaw (by simp [ends])
  obtain ⟨u, k, e, hhi, high⟩ := moderate b.maxRaw (by simp [ends])
  have ground := moderate b.minValue (by simp [ends])
  have peak := moderate b.maxValue (by simp [ends])
  obtain ⟨s, m, q, hc⟩ := clamp_finite (isFinite_iff.2 ⟨t, n, r, hlo⟩)
    (isFinite_iff.2 ⟨u, k, e, hhi⟩) raw
  have differ : number u k e ≠ number t n r := by
    intro same
    rw [beq_of_number_eq hlo hhi same.symm] at apart
    cases apart
  have double : ∀ {k l : ℤ}, k + 1 = l → (2 : ℚ) ^ k + 2 ^ k = 2 ^ l := by
    intro k l next
    rw [← next, zpow_add_one₀ (by norm_num)]
    ring
  have extent : |number u k e - number t n r| ≤ 2 ^ (1021 : ℤ) :=
    calc |number u k e - number t n r| ≤ |number u k e| + |number t n r| := abs_sub _ _
      _ ≤ 2 ^ (1020 : ℤ) + 2 ^ (1020 : ℤ) := by
        rw [abs_number, abs_number]
        exact add_le_add high low
      _ = 2 ^ (1021 : ℤ) := double (by norm_num)
  have ratio := ratio_atMost hc hlo hhi differ (clamp_nearer hc hlo hhi) extent
  have span := peak.sub ground (k := 1021) (double (by norm_num)).le (by norm_num)
  have product := ratio.mul span (k := 1022) (zpow_add₀ (by norm_num) 1 1021).ge (by norm_num)
  have room : (2 : ℚ) ^ (1022 : ℤ) + 2 ^ (1020 : ℤ) ≤ 2 ^ (1023 : ℤ) :=
    calc (2 : ℚ) ^ (1022 : ℤ) + 2 ^ (1020 : ℤ) ≤ 2 ^ (1022 : ℤ) + 2 ^ (1022 : ℤ) :=
        add_le_add_right (zpow_le_zpow_right₀ (by norm_num) (by norm_num)) _
      _ = 2 ^ (1023 : ℤ) := double (by norm_num)
  have sum := product.add ground room (by norm_num)
  rw [inDoubles, sum.isFinite] at infinite
  cases infinite

end Linear

/-! ## Rounding -/

namespace Scale

open Decimal

/-- The number is rounded in doubles, and with all its places it leaves them. -/
structure Overflows (places : ℕ) (raw : Float) : Prop where
  outside  : ofFloat raw = none
  infinite : isFinite (raw * pow10 (min places maxPlaces)) = false

theorem scaleRound_decimal {raw : Float} {d : Decimal} (decimal : ofFloat raw = some d)
    (places : ℕ) :
    scaleRound raw none (some places) = (d.roundTo .awayFromZero places).toFloat := by
  unfold scaleRound scaleDecimal
  rw [decimal]
  rfl

theorem scaleRound_double {raw : Float} {a : Bool} {m : ℕ} {q : ℤ}
    (hraw : parts raw = .finite a m q) (outside : ofFloat raw = none) (places : ℕ) :
    scaleRound raw none (some places) =
      roundAway (raw * pow10 (min places maxPlaces)) / pow10 (min places maxPlaces) := by
  have unscaled : raw * 1 * pow10 (min places maxPlaces) =
      raw * pow10 (min places maxPlaces) := by
    rw [mul_eq, parts_mul_one hraw, ← hraw, ← mul_eq]
  rw [← unscaled]
  unfold scaleRound scaleDecimal
  rw [outside]
  rfl

theorem scaleRound_lost_iff {raw : Float} (finite : isFinite raw = true) (places : ℕ) :
    isFinite (scaleRound raw none (some places)) = false ↔ Overflows places raw := by
  obtain ⟨a, m, q, hraw⟩ := isFinite_iff.1 finite
  cases decimal : ofFloat raw with
  | some d =>
    have kept := toFloat_finite (d.roundTo .awayFromZero places)
    rw [scaleRound_decimal decimal, kept]
    exact ⟨nofun, fun overflows => nomatch decimal.symm.trans overflows.outside⟩
  | none =>
    rw [scaleRound_double hraw decimal]
    constructor
    · intro lost
      refine ⟨decimal, ?_⟩
      by_contra kept
      obtain ⟨s, n, r, product⟩ := isFinite_iff.1 (by simpa using kept)
      have size : AtMost _ (raw * pow10 (min places maxPlaces)) := ⟨s, n, r, product, le_rfl⟩
      rw [(size.roundAway.div (atLeast_pow10 _)).isFinite] at lost
      cases lost
    · intro overflows
      rw [roundAway_eq overflows.infinite]
      exact isFinite_div overflows.infinite _

/-- The stage drops a number if it overflows, and no other. -/
theorem handle_settles {tag : Tag} {places : ℕ} {v : Json} {raw : Float}
    (scale : tag.scale = none) (fixed : tag.fixed = some places) (number : v.finite? = some raw) :
    Settles (Overflows places raw) (handle tag v) := by
  have finite : isFinite raw = true := by
    unfold Json.finite? at number
    exact (Option.filter_eq_some_iff.1 number).2
  unfold handle
  rw [number, scale, fixed]
  exact settles_result (scaleRound_lost_iff finite places)

/-- The steps of all powers of ten that are finite do not double them. -/
theorem step_pow_le {n : ℕ} (few : n ≤ 307) : step ^ n ≤ 2 := by
  calc step ^ n ≤ step ^ (150 + 157) := pow_le_pow_right₀ one_le_step few
    _ = step ^ 150 * step ^ 157 := pow_add step _ _
    _ ≤ 4 / 3 * (4 / 3) :=
      mul_le_mul (by norm_num [step]) (by norm_num [step]) (pow_nonneg step_nonneg _) (by norm_num)
    _ ≤ 2 := by norm_num

theorem few_of_tens_le {n : ℕ} (room : (10 : ℚ) ^ n ≤ 2 ^ (1022 : ℤ)) : n ≤ 307 := by
  by_contra many
  have power : ((2 : ℚ) ^ 93) ^ 11 = 2 ^ (1023 : ℤ) := by
    rw [← pow_mul, ← zpow_natCast]
    rfl
  have beyond : (2 : ℚ) ^ (1022 : ℤ) < 10 ^ n :=
    calc (2 : ℚ) ^ (1022 : ℤ) < 2 ^ (1023 : ℤ) := zpow_lt_zpow_right₀ (by norm_num) (by norm_num)
      _ = ((2 : ℚ) ^ 93) ^ 11 := power.symm
      _ ≤ (10 ^ 28) ^ 11 := pow_le_pow_left₀ (by norm_num) (by norm_num) 11
      _ = 10 ^ 308 := (pow_mul _ _ _).symm
      _ ≤ 10 ^ n := pow_le_pow_right₀ (by norm_num) (by omega)
  exact absurd room (not_le.2 beyond)

/-- Decimals are safe, and so is what stays within 2^1022 with all its places before the point. -/
theorem not_overflows {raw : Float} {a : Bool} {m : ℕ} {q : ℤ} (hraw : parts raw = .finite a m q)
    {places : ℕ}
    (room : (m : ℚ) * 2 ^ q < limit ∨ (m : ℚ) * 2 ^ q * 10 ^ places ≤ 2 ^ (1022 : ℤ)) :
    ¬ Overflows places raw := by
  rintro ⟨outside, infinite⟩
  have large : (limit : ℚ) ≤ m * 2 ^ q := by
    by_contra small
    obtain ⟨d, decimal, -⟩ := ofFloat_some hraw (not_le.1 small)
    cases outside.symm.trans decimal
  have one : (1 : ℚ) ≤ m * 2 ^ q := by
    refine le_trans ?_ large
    norm_num [limit_eq]
  have within := room.resolve_left (not_lt.2 large)
  have tens : (10 : ℚ) ^ places ≤ 2 ^ (1022 : ℤ) :=
    (le_mul_of_one_le_left (by positivity) one).trans within
  have few := few_of_tens_le tens
  have all : min places maxPlaces = places := Nat.min_eq_left (few.trans (by decide))
  have double : (2 : ℚ) ^ (1022 : ℤ) * 2 = 2 ^ (1023 : ℤ) :=
    (zpow_add_one₀ (by norm_num) 1022).symm
  have steps : (10 * step) ^ places ≤ 2 ^ (1023 : ℤ) := by
    rw [mul_pow, ← double]
    exact mul_le_mul tens (step_pow_le few) (pow_nonneg step_nonneg _) (by positivity)
  have unit := pow10_fromOne steps
  have number : AtMost (m * 2 ^ q) raw := ⟨a, m, q, hraw, le_rfl⟩
  have bound : (m : ℚ) * 2 ^ q * (10 * step) ^ places ≤ 2 ^ (1023 : ℤ) := by
    rw [mul_pow, ← mul_assoc, ← double]
    exact mul_le_mul within (step_pow_le few) (pow_nonneg step_nonneg _) (by positivity)
  have product := number.mul unit.atMost bound (by norm_num)
  rw [all, product.isFinite] at infinite
  cases infinite

end Scale

/-! ## Both stages -/

/-- **Which numbers get lost in arithmetic.** Whatever the tag and the number, with four finite
bounds a mapped reading goes on unless the mapping is taken in doubles and overflows there, and a
number that is rounded but not scaled goes on unless it is no decimal and overflows with all its
places before the point. Neither happens to bounds of up to 2^1020, to decimals, or to numbers that
stay within 2^1022 with their places. -/
theorem kept_unless_overflow (tag : Tag) {v : Json} {raw : Float} (number : v.finite? = some raw) :
    (∀ b, tag.bounds = some b → (∀ x ∈ Linear.ends b, isFinite x = true) →
      Settles (Linear.Overflows b raw) (Linear.handle tag v) ∧
        ((∀ x ∈ Linear.ends b, AtMost (2 ^ (1020 : ℤ)) x) → ¬ Linear.Overflows b raw)) ∧
    ∀ places, tag.scale = none → tag.fixed = some places →
      Settles (Scale.Overflows places raw) (Scale.handle tag v) ∧
        ∀ a m q, parts raw = .finite a m q →
          (m : ℚ) * 2 ^ q < Decimal.limit ∨ (m : ℚ) * 2 ^ q * 10 ^ places ≤ 2 ^ (1022 : ℤ) →
          ¬ Scale.Overflows places raw := by
  constructor
  · intro b bounds finite
    exact ⟨Linear.handle_settles bounds finite number, fun small => Linear.not_overflows small raw⟩
  · intro places scale fixed
    exact ⟨Scale.handle_settles scale fixed number, fun a m q hraw room =>
      Scale.not_overflows hraw room⟩

/-- Bounds so far apart that no double holds their extent. -/
def farApart : Bounds := ⟨-1e308, 1e308, 0, 1⟩

/-- A reading at the upper bound gets lost. -/
theorem overflows_farApart : Linear.Overflows farApart 1e308 where
  apart := by decide +kernel
  outside := by
    rw [← Linear.mapDecimal_isSome_iff farApart 1e308]
    decide +kernel
  infinite := by decide +kernel

/-- So does a number without a fraction, when it is rounded to one place. -/
theorem overflows_onePlace : Scale.Overflows 1 1.5e308 where
  outside := by decide +kernel
  infinite := by decide +kernel

theorem finite_farApart : ∀ x ∈ Linear.ends farApart, isFinite x = true := by decide +kernel

theorem kept_unless_overflow_quarter :
    let mapped : Tag := { Tag.bare "level" with mapping := some (.ofBounds farApart) }
    let rounded : Tag := { Tag.bare "level" with fixed := some 1 }
    Linear.handle mapped (.number (.real 1e308)) = .dropped ∧
      Scale.handle rounded (.number (.real 1.5e308)) = .dropped ∧
      ∃ y, isFinite y = true ∧
        Scale.handle rounded (.number (.real 0.25)) = .value (.number (.real y)) := by
  intro mapped rounded
  have one : (Json.number (.real 1e308)).finite? = some 1e308 := by decide +kernel
  have more : (Json.number (.real 1.5e308)).finite? = some 1.5e308 := by decide +kernel
  have less : (Json.number (.real 0.25)).finite? = some 0.25 := by decide +kernel
  refine ⟨?_, ?_, ?_⟩
  · exact ((kept_unless_overflow mapped one).1 farApart rfl finite_farApart).1.dropped
      overflows_farApart
  · exact ((kept_unless_overflow rounded more).2 1 rfl rfl).1.dropped overflows_onePlace
  · obtain ⟨settles, safe⟩ := (kept_unless_overflow rounded less).2 1 rfl rfl
    have quarter : parts 0.25 = .finite false (2 ^ 52) (-54) := by decide +kernel
    refine settles.kept (safe _ _ _ quarter (.inl ?_))
    norm_num [Decimal.limit_eq]

/-- Not every finite reading is kept by finite bounds, nor every finite number by rounding. -/
theorem finite_reading_dropped :
    ¬ (∀ (tag : Tag) (b : Bounds) (v : Json) (raw : Float), tag.bounds = some b →
      (∀ x ∈ Linear.ends b, isFinite x = true) → v.finite? = some raw →
      Linear.handle tag v ≠ .dropped) ∧
    ¬ (∀ (tag : Tag) (places : ℕ) (v : Json) (raw : Float), tag.scale = none →
      tag.fixed = some places → v.finite? = some raw → Scale.handle tag v ≠ .dropped) := by
  constructor
  · intro kept
    let tag : Tag := { Tag.bare "level" with mapping := some (.ofBounds farApart) }
    have number : (Json.number (.real 1e308)).finite? = some 1e308 := by decide +kernel
    have bounds : tag.bounds = some farApart := rfl
    exact kept tag farApart _ 1e308 bounds finite_farApart number
      ((Linear.handle_settles bounds finite_farApart number).dropped overflows_farApart)
  · intro kept
    let tag : Tag := { Tag.bare "level" with fixed := some 1 }
    have number : (Json.number (.real 1.5e308)).finite? = some 1.5e308 := by decide +kernel
    have scale : tag.scale = none := rfl
    have fixed : tag.fixed = some 1 := rfl
    exact kept tag 1 _ 1.5e308 scale fixed number
      ((Scale.handle_settles scale fixed number).dropped overflows_onePlace)

end DeviceLink
