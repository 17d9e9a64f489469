import DeviceLink.Decimal.Basic
import DeviceLink.Number.Double
/-!
# Decimals and doubles

A double m · 2^q becomes a decimal by trading factors two against powers of ten, then keeping no
more digits than the double is worth; a decimal becomes a double by way of its integer part and
its fraction. They are `to_decimal` and `from_decimal` of the pipeline.
-/
namespace DeviceLink.Decimal

/-- Replaces m · 10^e / 5^k by the same with fewer fives to divide by. -/
def tradeHalves : Nat → Nat → Int → Nat × Int
  | 0, m, e => (m, e)
  | k + 1, m, e =>
    if m % 2 = 0 then tradeHalves k (m / 2) (e + 1)
    else if 5 * m < limit then tradeHalves k (5 * m) e
    else tradeHalves k (m / 2) (e + 1)

/-- Replaces m · 10^e · 5^(-k) by the same without fives; `none` when that is out of reach. -/
def tradeDoubles : Nat → Nat → Int → Option (Nat × Int)
  | 0, m, e => some (m, e)
  | k + 1, m, e =>
    if m < Nat.pow 2 95 then tradeDoubles k (2 * m) (e - 1)
    else if ((k + 1 : Nat) : Int) < 2 * e then none
    else tradeDoubles k (m / 5) e

/-- m · 10^k as a mantissa. -/
def raise : Nat → Nat → Option Nat
  | 0, m => some m
  | k + 1, m => if 10 * m < limit then raise k (10 * m) else none

/-- Drops `k` digits, each a half up; nothing left is zero. -/
def dropDigits : Nat → Nat → Option Nat
  | 0, m => some m
  | k + 1, m =>
    if m / 10 = 0 then none
    else dropDigits k (if 5 ≤ m % 10 then m / 10 + 1 else m / 10)

/-- Drops digits of the fraction that a double does not carry. -/
def dropNoise : Nat → Nat → Nat × Nat
  | 0, m => (m, 0)
  | s + 1, m =>
    if Nat.pow 2 52 ≤ m then dropNoise s (if 5 ≤ m % 10 then m / 10 + 1 else m / 10) else (m, s + 1)

def dropZeros : Nat → Nat → Nat × Nat
  | 0, m => (m, 0)
  | s + 1, m => if m % 10 = 0 then dropZeros s (m / 10) else (m, s + 1)

/-- The fraction m / 10^s without noise and trailing zeros. -/
def tidy (negative : Bool) (m s : Nat) : Option Decimal :=
  let (m, s) := dropNoise s m
  let (m, s) := dropZeros s m
  ofParts? negative m s

/-- m · 10^e as a decimal. -/
def place (negative : Bool) (m : Nat) (e : Int) : Option Decimal :=
  if 0 < e then (raise e.toNat m).bind fun m => ofParts? negative m 0
  else
    let s := (-e).toNat
    if maxScale < s then
      match dropDigits (s - maxScale) m with
      | none => some (signedZero negative)
      | some m => tidy negative m maxScale
    else tidy negative m s

/-- The decimal of a double; `none` of a double that is not finite or too large. -/
def ofFloat (x : Float) : Option Decimal :=
  match Number.parts x with
  | .finite negative m q =>
    if m = 0 then some (signedZero negative)
    else match q with
      | .negSucc k =>
        let (m, e) := tradeHalves (k + 1) m q
        place negative m e
      | .ofNat k => do
        let (m, e) ← tradeDoubles k m q
        place negative m e
  | _ => none

/-- The double of a decimal: the integer part plus the fraction, rounded to the scale. -/
def toFloat (d : Decimal) : Float :=
  if d.scale = 0 then
    if d.mantissa = 0 then 0 else Number.ofNat d.negative d.mantissa
  else
    let p := Nat.pow 10 d.scale
    let whole := d.mantissa / p
    let fraction := Float.ofNat (d.mantissa % p) / Float.ofNat p
    if fraction == 0 then Number.ofNat d.negative whole
    else
      let unit := Number.pow10 d.scale
      let x := Number.roundAway ((Float.ofNat whole + fraction) * unit) / unit
      if d.negative then -x else x

end DeviceLink.Decimal
