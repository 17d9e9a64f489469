/-!
# Decimal arithmetic

A decimal is ± mantissa / 10^scale with a mantissa below 2^96 and a scale of at most 28. Results
that do not fit are shortened by dropping digits, a half going to the even neighbour; what still
does not fit is no decimal.

| here | in the SDK |
| --- | --- |
| `Decimal` | `Decimal`: 96 bits, a scale and a sign |
| `mul`, `add`, `sub`, `div` | `checked_mul` and the like |
| `roundTo` | `round_dp_with_strategy` |
-/
namespace DeviceLink

namespace Decimal

/-- Mantissas stay below this. -/
def limit : Nat := Nat.pow 2 96

def maxScale : Nat := 28

theorem limit_eq : limit = 79228162514264337593543950336 := by decide

end Decimal

structure Decimal where
  negative : Bool
  mantissa : Nat
  scale    : Nat
  mantissa_lt : mantissa < Decimal.limit
  scale_le    : scale ≤ Decimal.maxScale
deriving DecidableEq, Repr

namespace Decimal

/-- Zero, which may have a sign. -/
def signedZero (negative : Bool) : Decimal := ⟨negative, 0, 0, by decide, Nat.zero_le _⟩

def zero : Decimal := signedZero false

/-- The decimal of a sign, a mantissa and a scale, if they are as they may be; a zero loses its sign
(`from_parts`). -/
def ofParts? (negative : Bool) (m s : Nat) : Option Decimal :=
  if h : m < limit ∧ s ≤ maxScale then some ⟨negative && m != 0, m, s, h.1, h.2⟩ else none

def neg (d : Decimal) : Decimal := { d with negative := !d.negative }

/-- `a / b` to the nearest integer, a half to the even one. -/
def divEven (a b : Nat) : Nat :=
  let q := a / b
  let r := a % b
  if 2 * r < b then q else if b < 2 * r then q + 1 else q + q % 2

/-- `a / b` to the nearest integer, a half up. -/
def divUp (a b : Nat) : Nat :=
  let q := a / b
  if 2 * (a % b) < b then q else q + 1

/-- `a / b` to the nearest integer, a half down. -/
def divDown (a b : Nat) : Nat :=
  let q := a / b
  if b < 2 * (a % b) then q + 1 else q

/-- How a half is rounded. -/
inductive Half
  | awayFromZero
  | towardZero
deriving DecidableEq, Repr

/-- The whole quotient, with a half as the rule says. -/
def divHalf : Half → Nat → Nat → Nat
  | .awayFromZero => divUp
  | .towardZero => divDown

theorem divHalf_le (half : Half) (a b : Nat) : divHalf half a b ≤ a / b + 1 := by
  cases half with
  | awayFromZero =>
    dsimp only [divHalf, divUp]
    split <;> omega
  | towardZero =>
    dsimp only [divHalf, divDown]
    split <;> omega

/-- A mantissa with a digit less is a mantissa again, though its last digit may be rounded up. -/
theorem divHalf_lt (half : Half) {m k : Nat} (below : m < limit) (fewer : 0 < k) :
    divHalf half m (Nat.pow 10 k) < limit := by
  have unit : 10 ≤ Nat.pow 10 k := Nat.le_pow fewer
  have tenth : m / Nat.pow 10 k ≤ m / 10 := Nat.div_le_div_left unit (by decide)
  have digits := divHalf_le half m (Nat.pow 10 k)
  rw [limit_eq] at below ⊢
  omega

/-- Drops the fewest digits of m / 10^s, at least `k`, that leave a mantissa below the limit;
`none` when even all the fraction is not enough. -/
def shrink (m s k : Nat) : Option (Nat × Nat) :=
  if h : s < k then none
  else
    let q := divEven m (Nat.pow 10 k)
    if m / Nat.pow 10 k < limit ∧ q < limit then some (q, s - k)
    else shrink m s (k + 1)
termination_by s + 1 - k

/-- The decimal of ± m / 10^s with at least `k` digits dropped. -/
def shorten (negative : Bool) (m s k : Nat) : Option Decimal :=
  (shrink m s k).bind fun (q, s) => ofParts? negative q s

/-- Factors of one word each take a path of their own (`mul_impl`). -/
def mul (a b : Decimal) : Option Decimal :=
  if a.mantissa = 0 ∨ b.mantissa = 0 then some zero
  else
    let m := a.mantissa * b.mantissa
    let s := a.scale + b.scale
    let negative := a.negative != b.negative
    if a.mantissa < Nat.pow 2 32 ∧ b.mantissa < Nat.pow 2 32 then
      if 47 < s then some zero
      else if maxScale < s then
        ofParts? negative (divEven m (Nat.pow 10 (s - maxScale))) maxScale
      else ofParts? negative m s
    else if limit ≤ m ∨ maxScale < s then shorten negative m s (s - maxScale)
    else ofParts? negative m s

/-- The mantissa at a scale of at least `d.scale`, with its sign. -/
def signedAt (d : Decimal) (scale : Nat) : Int :=
  let m : Int := (d.mantissa * Nat.pow 10 (scale - d.scale) : Nat)
  if d.negative then -m else m

def add (a b : Decimal) : Option Decimal :=
  if a.mantissa = 0 then some b
  else if b.mantissa = 0 then some a
  else
    let s := max a.scale b.scale
    let m := a.signedAt s + b.signedAt s
    if limit ≤ m.natAbs then shorten (decide (m < 0)) m.natAbs s 0
    else ofParts? (decide (m < 0)) m.natAbs s

def sub (a b : Decimal) : Option Decimal := add a b.neg

/-- Digits of a quotient: nine at most in one round, until nothing remains or the scale is full.
The flag tells whether a remainder was met. -/
def divLoop (d : Nat) : Nat → Nat → Nat → Int → Bool → Nat × Int × Bool
  | 0, q, _, s, inexact => (q, s, inexact)
  | fuel + 1, q, r, s, inexact =>
    if r = 0 then
      if 0 ≤ s then (q, s, inexact)
      else
        let p := min 9 (-s).toNat
        divLoop d fuel (q * Nat.pow 10 p) 0 (s + p) inexact
    else if s = maxScale then
      let up := if d < 2 * r ∨ (2 * r = d ∧ q % 2 = 1) then 1 else 0
      (q + up, s, true)
    else
      let p := min 9 ((maxScale : Int) - s).toNat
      let n := r * Nat.pow 10 p
      divLoop d fuel (q * Nat.pow 10 p + n / d) (n % d) (s + p) true

/-- Drops `k` trailing zeros when there are that many in the fraction. -/
def stripOnce (k : Nat) (qs : Nat × Nat) : Nat × Nat :=
  if k ≤ qs.2 ∧ qs.1 % Nat.pow 10 k = 0 then (qs.1 / Nat.pow 10 k, qs.2 - k) else qs

def stripEights : Nat → Nat × Nat → Nat × Nat
  | 0, qs => qs
  | fuel + 1, qs =>
    if qs.1 % Nat.pow 2 32 = 0 ∧ 8 ≤ qs.2 ∧ qs.1 % Nat.pow 10 8 = 0 then
      stripEights fuel (qs.1 / Nat.pow 10 8, qs.2 - 8)
    else qs

/-- Drops trailing zeros of a fraction, eight at a time and then four, two and one. -/
def stripZeros (q s : Nat) : Nat × Nat :=
  stripOnce 1 (stripOnce 2 (stripOnce 4 (stripEights (s + 1) (q, s))))

/-- The quotient with all places (`div_impl`). It is for quotients of at most one in size, which
always fit (`div_roundsTo`): a greater one whose digits do not fit is given up, not shortened. -/
def div (a b : Decimal) : Option Decimal :=
  if b.mantissa = 0 then none
  else if a.mantissa = 0 then some zero
  else
    let d := b.mantissa
    let s : Int := (a.scale : Int) - b.scale
    let (q, s, inexact) := divLoop d 64 (a.mantissa / d) (a.mantissa % d) s false
    let (q, s) := if inexact then stripZeros q s.toNat else (q, s.toNat)
    ofParts? (a.negative != b.negative) q s

/-- Keeps at most `places` digits of the fraction. -/
def roundTo (half : Half) (places : Nat) (d : Decimal) : Decimal :=
  if h : d.scale ≤ places then d
  else
    let q := divHalf half d.mantissa (Nat.pow 10 (d.scale - places))
    ⟨d.negative && q != 0, q, places, divHalf_lt half d.mantissa_lt (by omega),
      Nat.le_trans (Nat.le_of_not_le h) d.scale_le⟩

end Decimal
end DeviceLink
