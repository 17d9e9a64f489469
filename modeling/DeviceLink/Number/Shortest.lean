import DeviceLink.Number.Double
/-!
# Shortest digits

The decimal `coeff · 10^exponent` with the fewest digits that a double is the nearest one to; of
several, the one closest to the double. The search runs in exact integers: it walks down the
powers of ten until one of the two multiples around the double lies in the interval of reals that
round to it.
-/
namespace DeviceLink.Number

structure Digits where
  coeff    : Nat
  exponent : Int
deriving DecidableEq, Repr

/-- The interval of reals that round to m · 2^q, in units of 2^(q-2): its ends, and whether they
belong to it. -/
structure Interval where
  low    : Nat
  mid    : Nat
  high   : Nat
  closed : Bool
deriving DecidableEq, Repr

def interval (m : Nat) (q : Int) : Interval :=
  let low := if m = Nat.pow 2 52 ∧ -1074 < q then 4 * m - 1 else 4 * m - 2
  ⟨low, 4 * m, 4 * m + 2, m % 2 == 0⟩

def Interval.contains (i : Interval) (x low high : Nat) : Bool :=
  if i.closed then low ≤ x && x ≤ high else low < x && x < high

/-- A multiple of 10^k in the interval, in units of 2^(q-2): the closer of the two multiples
around the middle that qualify, the even one when both are equally close. -/
def onGrid (i : Interval) (q k : Int) : Option Nat :=
  let step := Nat.pow 10 k.toNat * Nat.pow 2 (2 - q).toNat
  let unit := Nat.pow 10 (-k).toNat * Nat.pow 2 (q - 2).toNat
  let mid := i.mid * unit
  let c := mid / step
  let inside (c : Nat) := i.contains (c * step) (i.low * unit) (i.high * unit)
  let below := mid - c * step
  let above := (c + 1) * step - mid
  match inside c && c != 0, inside (c + 1) with
  | true, true =>
    if below < above then some c
    else if above < below then some (c + 1)
    else some (if c % 2 = 0 then c else c + 1)
  | true, false => some c
  | false, true => some (c + 1)
  | false, false => none

def descend (i : Interval) (q : Int) : Nat → Int → Digits
  | 0, k => ⟨0, k⟩
  | fuel + 1, k =>
    match onGrid i q k with
    | some c => ⟨c, k⟩
    | none => descend i q fuel (k - 1)

/-- An exponent of ten above every double with significand `m` and exponent `q`. -/
def above (m : Nat) (q : Int) : Int :=
  let b := (m.log2 : Int) + 1 + q
  if 0 ≤ b then b * 30103 / 100000 + 1 else b * 30103 / 100000 + 2

/-- Digits of the positive double m · 2^q. -/
def shortest (m : Nat) (q : Int) : Digits := descend (interval m q) q 40 (above m q)

end DeviceLink.Number
