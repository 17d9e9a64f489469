/-!
# Spans of time

Lengths of time in nanoseconds and their short text, in the largest unit that keeps a whole part.
-/
namespace DeviceLink

structure Span where
  nanos : Nat
deriving DecidableEq, Repr

namespace Span

def ofMillis (n : Nat) : Span := ⟨n * 1000000⟩

def ofSeconds (n : Nat) : Span := ⟨n * 1000000000⟩

/-- Whole milliseconds, a part of one counted as one. -/
def ticks (s : Span) : Nat := (s.nanos + 999999) / 1000000

/-- The digits of `rest / unit` for `rest < unit = 10^width`, without zeros at the end. -/
def fractionDigits (width rest : Nat) : List Char :=
  let ds := Nat.toDigits 10 rest
  ((List.replicate (width - ds.length) '0' ++ ds).reverse.dropWhile (· == '0')).reverse

/-- A count of units of `10^width` nanoseconds, with a fraction when there is one. -/
def inUnit (width nanos : Nat) (unit : String) : String :=
  let whole := Nat.toDigits 10 (nanos / Nat.pow 10 width)
  let rest := nanos % Nat.pow 10 width
  String.ofList (if rest = 0 then whole else whole ++ '.' :: fractionDigits width rest) ++ unit

/-- Seconds, milliseconds, microseconds or nanoseconds, the first of which there is a whole one. -/
def text (s : Span) : String :=
  if 1000000000 ≤ s.nanos then inUnit 9 s.nanos "s"
  else if 1000000 ≤ s.nanos then inUnit 6 s.nanos "ms"
  else if 1000 ≤ s.nanos then inUnit 3 s.nanos "µs"
  else inUnit 0 s.nanos "ns"

end Span
end DeviceLink
