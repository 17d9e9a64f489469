import DeviceLink.Decimal.Double
import DeviceLink.Pipeline.Stage
/-!
# Scaling and rounding

Multiplies by the scale factor, then keeps a fixed number of digits of the fraction, a half going
away from zero. The arithmetic is decimal, with doubles where a value is no decimal.

| here | in the SDK |
| --- | --- |
| `scaleExact`, `scaleDecimal` | `scale_round`, as long as all values are decimals |
| `scaleBinary` | `scale_round` from there on |
| `applies`, `handle` | the methods of `ScaleRoundStage` |
-/
namespace DeviceLink.Scale

def round (fixed : Option Nat) (d : Decimal) : Decimal :=
  match fixed with
  | some places => d.roundTo .awayFromZero places
  | none => d

/-- The scaled and rounded value in decimals. -/
def scaleExact (d : Decimal) (factor : Option Decimal) (fixed : Option Nat) : Option Decimal :=
  match factor with
  | some f => (d.mul f).map (round fixed)
  | none => some (round fixed d)

def scaleDecimal (raw : Float) (scale : Option Float) (fixed : Option Nat) : Option Float := do
  let d ← Decimal.ofFloat raw
  let factor ← match scale with
    | some x => (Decimal.ofFloat x).map some
    | none => some none
  pure (← scaleExact d factor fixed).toFloat

/-- More digits than this are counted as this many. -/
def maxPlaces : Nat := Nat.pow 2 31 - 1

/-- The same in doubles. -/
def scaleBinary (raw : Float) (scale : Option Float) (fixed : Option Nat) : Float :=
  let x := raw * scale.getD 1
  match fixed with
  | some places =>
    let unit := Number.pow10 (min places maxPlaces)
    Number.roundAway (x * unit) / unit
  | none => x

def scaleRound (raw : Float) (scale : Option Float) (fixed : Option Nat) : Float :=
  (scaleDecimal raw scale fixed).getD (scaleBinary raw scale fixed)

/-- Numbers of tags with a scale or a number of digits. -/
def applies (tag : Tag) (value : Json) : Bool :=
  value.isNumber && (tag.scale.isSome || tag.fixed.isSome)

/-- The rounding stage (`handle`). What is not finite, before or after, is dropped. -/
def handle (tag : Tag) (value : Json) : StageOutput :=
  match value.finite? with
  | none => .dropped
  | some raw =>
    match Json.ofFloat? (scaleRound raw tag.scale tag.fixed) with
    | some j => .value j
    | none => .dropped

end DeviceLink.Scale
