/-!
# Doubles, taken apart

A finite double is ± m · 2^q with natural `m`. Exact on those parts are the rounding to an integer
(`roundAway`, the `round` of the stages) and the double nearest to a decimal numeral. The powers of
ten are those of `powi`, whose products are rounded one by one.
-/
namespace DeviceLink.Number

inductive Parts
  | nan
  | infinite (negative : Bool)
  | finite (negative : Bool) (m : Nat) (q : Int)
deriving DecidableEq, Repr

/-- Sign, significand and exponent of a double. -/
def parts (x : Float) : Parts :=
  let bits := x.toBits.toNat
  let negative := decide (Nat.pow 2 63 ≤ bits)
  let e : Nat := bits / Nat.pow 2 52 % Nat.pow 2 11
  let f : Nat := bits % Nat.pow 2 52
  if e = 0x7FF then (if f = 0 then .infinite negative else .nan)
  else if e = 0 then .finite negative f (-1074)
  else .finite negative (f + Nat.pow 2 52) ((e : Int) - 1075)

def isFinite (x : Float) : Bool := x.isFinite

/-- The double with the magnitude of `n`, rounded to nearest. -/
def ofNat (negative : Bool) (n : Nat) : Float :=
  if negative then -Float.ofNat n else Float.ofNat n

/-- Nearest integer, halves away from zero. The sign of a zero stays. -/
def roundAway (x : Float) : Float :=
  match parts x with
  | .finite negative m (.negSucc k) =>
    let unit := Nat.pow 2 (k + 1)
    let up := if unit ≤ 2 * (m % unit) then 1 else 0
    ofNat negative (m / unit + up)
  | _ => x

/-- `base ^ n` by repeated squaring, each product rounded; `fuel` exceeds the length of `n` in
bits. -/
def powLoop (fuel : Nat) (acc base : Float) (n : Nat) : Float :=
  match fuel with
  | 0 => acc
  | fuel + 1 =>
    let acc := if n % 2 = 1 then acc * base else acc
    if n / 2 = 0 then acc else powLoop fuel acc (base * base) (n / 2)

/-- The double 10^n as repeated squaring gives it. -/
def pow10 (n : Nat) : Float := powLoop (n.log2 + 2) 1 10 n

/-- How many decimal digits `n` has. -/
def digitCount (n : Nat) : Nat := (Nat.toDigits 10 n).length

/-- The double nearest to ± m · 10^e, ties to even; far exponents give zero or infinity without
the power being formed. -/
def nearest (negative : Bool) (m : Nat) (e : Int) : Float :=
  let x : Float :=
    if m = 0 then 0
    else
      let top := e + digitCount m
      if 320 < top then 1 / 0
      else if top < -340 then 0
      else Float.ofScientific m (decide (e < 0)) e.natAbs
  if negative then -x else x

end DeviceLink.Number
