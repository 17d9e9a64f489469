import DeviceLink.Number.Reading
import DeviceLink.Text.Blank
import DeviceLink.Time.Span
/-!
# Durations in settings

A duration is written as a sum of counts with units, such as `1h 30m`. Blanks may stand between
and within the parts; a count may have a fraction if that comes out whole. Seconds and nanoseconds
are words of 64 bits, and nothing may exceed them on the way.
-/
namespace DeviceLink.Span

/-! ## Units -/

def second : Nat := 1000000000

/-- The length of a unit in nanoseconds. -/
def unit? (name : String) : Option Nat :=
  let is (names : List String) : Bool := names.contains name
  if is ["nanos", "nsec", "ns"] then some 1
  else if is ["usec", "us", "µs"] then some 1000
  else if is ["millis", "msec", "ms"] then some 1000000
  else if is ["seconds", "second", "secs", "sec", "s"] then some second
  else if is ["minutes", "minute", "min", "mins", "m"] then some (60 * second)
  else if is ["hours", "hour", "hrs", "hr", "h"] then some (3600 * second)
  else if is ["days", "day", "d"] then some (86400 * second)
  else if is ["weeks", "week", "wk", "wks", "w"] then some (604800 * second)
  else if is ["months", "month", "M"] then some (2630016 * second)
  else if is ["years", "year", "yr", "yrs", "y"] then some (31557600 * second)
  else none

def isUnitChar (c : Char) : Bool := ('a' ≤ c && c ≤ 'z') || ('A' ≤ c && c ≤ 'Z') || c.toNat == 0xB5

/-! ## Words of 64 bits -/

def wordLimit : Nat := Nat.pow 2 64

def word? (n : Nat) : Option Nat := if n < wordLimit then some n else none

/-- Adds seconds and nanoseconds to a span. -/
def plus? (s : Span) (seconds nanos : Nat) : Option Span := do
  let nanos ← word? (s.nanos % second + nanos)
  let seconds ← word? (s.nanos / second + seconds + nanos / second)
  pure ⟨seconds * second + nanos % second⟩

/-- Adds so many units: short ones are counted in nanoseconds, long ones in seconds. -/
def plusWhole? (s : Span) (n unit : Nat) : Option Span := do
  if unit < second then plus? s 0 (← word? (n * unit))
  else plus? s (← word? (n * (unit / second))) 0

def divideExactly? (n d : Nat) : Option Nat := if n % d = 0 then some (n / d) else none

/-- Adds a fraction of a unit, which comes out as whole nanoseconds, and for units longer than a
minute as whole seconds. -/
def plusFraction? (s : Span) (numerator denominator unit : Nat) : Option Span := do
  if unit = 1 then none
  else if unit ≤ 60 * second then
    plus? s 0 (← divideExactly? (← word? (numerator * unit)) denominator)
  else
    plus? s (← divideExactly? (← word? (numerator * (unit / second))) denominator) 0

/-! ## Reading -/

def isDigitOrSpace (c : Char) : Bool := Number.isDigit c || Text.isSpace c

/-- The digits at the start, blanks between them passed over, and what follows. -/
def digitsOf (cs : List Char) : List Char × List Char :=
  ((cs.takeWhile isDigitOrSpace).filter Number.isDigit, cs.dropWhile isDigitOrSpace)

/-- A count with its unit at the start of the text, added to `s`. -/
def group? (s : Span) (cs : List Char) : Option (Span × List Char) := do
  let (whole, rest) := digitsOf cs
  let (fraction, rest) ← match rest with
    | '.' :: rest =>
      let (ds, rest) := digitsOf rest
      if ds = [] then none else some (some ds, rest)
    | rest => some (none, rest)
  let unit ← unit? (String.ofList (rest.takeWhile isUnitChar))
  let rest := rest.dropWhile isUnitChar
  let s ← s.plusWhole? (← word? (Number.natOf whole)) unit
  match fraction with
  | none => pure (s, rest)
  | some ds =>
    let denominator ← word? (Nat.pow 10 ds.length)
    pure (← s.plusFraction? (Number.natOf ds) denominator unit, rest)

/-- Groups up to the end of the text, one at least; each begins with a digit. -/
def groups? : Nat → Span → List Char → Option Span
  | 0, _, _ => none
  | fuel + 1, s, cs =>
    match Text.trimStart cs with
    | [] => none
    | c :: rest =>
      if Number.isDigit c then
        match group? s (c :: rest) with
        | none => none
        | some (s, rest) => if Text.trimStart rest = [] then some s else groups? fuel s rest
      else none

def parse? (text : String) : Option Span :=
  if text = "0" then some ⟨0⟩ else groups? (text.length + 1) ⟨0⟩ text.toList

/-! ## Writing -/

/-- A part of a written duration, left out when it is zero. -/
def part (n : Nat) (unit : String) : List String := if n = 0 then [] else [toString n ++ unit]

/-- A part whose unit takes an `s` when there are several. -/
def namedPart (n : Nat) (unit : String) : List String :=
  part n (if 1 < n then unit ++ "s" else unit)

/-- Years, months, days and shorter units, as far as they are not zero. -/
def written (s : Span) : String :=
  let seconds := s.nanos / second
  let nanos := s.nanos % second
  let inYear := seconds % 31557600
  let inMonth := inYear % 2630016
  let inDay := inMonth % 86400
  let parts := namedPart (seconds / 31557600) "year" ++ namedPart (inYear / 2630016) "month" ++
    namedPart (inMonth / 86400) "day" ++ part (inDay / 3600) "h" ++ part (inDay % 3600 / 60) "m" ++
    part (inDay % 60) "s" ++ part (nanos / 1000000) "ms" ++ part (nanos / 1000 % 1000) "us" ++
    part (nanos % 1000) "ns"
  if parts.isEmpty then "0s" else " ".intercalate parts

end DeviceLink.Span
