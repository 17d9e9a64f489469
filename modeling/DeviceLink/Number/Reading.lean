import DeviceLink.Number.Double
import DeviceLink.Text.Blank
/-!
# Reading numerals

The grammar of a free-standing number in text: optional sign, digits with an optional point (one
digit at least), optional exponent; also the names of infinity and of the undefined value.
-/
namespace DeviceLink.Number

def isDigit (c : Char) : Bool := '0' ≤ c && c ≤ '9'

def digitOf (c : Char) : Nat := c.toNat - '0'.toNat

def natOf (cs : List Char) : Nat := cs.foldl (fun n c => 10 * n + digitOf c) 0

/-- The digits at the start, and what follows them. -/
def spanDigits (cs : List Char) : List Char × List Char :=
  (cs.takeWhile isDigit, cs.dropWhile isDigit)

/-- A signed run of digits that ends the text. -/
def exponent? (cs : List Char) : Option Int :=
  let (negative, ds) := match cs with
    | '-' :: ds => (true, ds)
    | '+' :: ds => (false, ds)
    | ds => (false, ds)
  if ds ≠ [] ∧ ds.all isDigit then some (if negative then -(natOf ds : Int) else natOf ds)
  else none

/-- The number that an unsigned numeral names, rounded to nearest. -/
def unsigned? (negative : Bool) (cs : List Char) : Option Float :=
  let (whole, rest) := spanDigits cs
  let (part, rest) := match rest with
    | '.' :: rest => spanDigits rest
    | rest => ([], rest)
  if whole = [] ∧ part = [] then none
  else
    let m := natOf (whole ++ part)
    let scale : Int := part.length
    match rest with
    | [] => some (nearest negative m (-scale))
    | c :: rest =>
      if c = 'e' ∨ c = 'E' then (exponent? rest).map fun e => nearest negative m (e - scale)
      else none

/-- The double written in `cs`, if the whole of it is a number. -/
def float? (cs : List Char) : Option Float :=
  let (negative, body) := match cs with
    | '-' :: cs => (true, cs)
    | '+' :: cs => (false, cs)
    | cs => (false, cs)
  let word := String.ofList (body.map Text.lowerChar)
  if word = "inf" ∨ word = "infinity" then some (if negative then -(1 / 0) else 1 / 0)
  else if word = "nan" then some (0 / 0)
  else unsigned? negative body

end DeviceLink.Number
