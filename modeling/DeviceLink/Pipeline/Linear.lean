import DeviceLink.Decimal.Double
import DeviceLink.Pipeline.Stage
/-!
# Linear mapping

Clamps a reading into its raw range and maps that range onto the value range. The arithmetic is
decimal; where it leaves the decimals, the whole expression is taken in doubles.

| here | in the SDK |
| --- | --- |
| `clamp`, `map` | `map` |
| `mapExact`, `mapDecimal` | `map_decimal` |
| `ratioPlaces` | `DIVISION_SCALE` |
| `applies`, `handle` | the methods of `LinearMappingStage` |
-/
namespace DeviceLink.Linear

/-- The greater one; an undefined operand loses, of equals the first stays. -/
def larger (x y : Float) : Float :=
  if x.isNaN then y else if y.isNaN then x else if x < y then y else x

/-- The lesser one; an undefined operand loses, of equals the first stays. -/
def smaller (x y : Float) : Float :=
  if x.isNaN then y else if y.isNaN then x else if y < x then y else x

/-- The reading, moved into the raw range. -/
def clamp (b : Bounds) (raw : Float) : Float :=
  let (lo, hi) := if b.minRaw ≤ b.maxRaw then (b.minRaw, b.maxRaw) else (b.maxRaw, b.minRaw)
  smaller (larger raw lo) hi

/-- Digits of the fraction that the ratio keeps. -/
def ratioPlaces : Nat := 16

/-- The mapping in decimals, before the result becomes a double. -/
def mapExact (c minRaw maxRaw minValue maxValue : Decimal) : Option Decimal := do
  let offset ← c.sub minRaw
  let ratio ← offset.div (← maxRaw.sub minRaw)
  let part ← (ratio.roundTo .towardZero ratioPlaces).mul (← maxValue.sub minValue)
  part.add minValue

/-- The mapping in decimals (`map_decimal`), `none` where a number or a step leaves them. -/
def mapDecimal (b : Bounds) (c : Float) : Option Float := do
  let c ← Decimal.ofFloat c
  let minRaw ← Decimal.ofFloat b.minRaw
  let maxRaw ← Decimal.ofFloat b.maxRaw
  let minValue ← Decimal.ofFloat b.minValue
  let maxValue ← Decimal.ofFloat b.maxValue
  pure (← mapExact c minRaw maxRaw minValue maxValue).toFloat

/-- A raw range without extent gives the clamped reading itself. -/
def map (b : Bounds) (raw : Float) : Float :=
  let c := clamp b raw
  if b.minRaw == b.maxRaw then c
  else
    (mapDecimal b c).getD
      ((c - b.minRaw) / (b.maxRaw - b.minRaw) * (b.maxValue - b.minValue) + b.minValue)

/-- Numbers of tags with all four bounds. -/
def applies (tag : Tag) (value : Json) : Bool := value.isNumber && tag.bounds.isSome

/-- The mapping stage (`handle`). A tag without all four bounds leaves the value as it is. -/
def handle (tag : Tag) (value : Json) : StageOutput :=
  match tag.bounds with
  | none => .value value
  | some b =>
    match value.finite? with
    | none => .dropped
    | some raw =>
      match Json.ofFloat? (map b raw) with
      | some j => .value j
      | none => .dropped

end DeviceLink.Linear
