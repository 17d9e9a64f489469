import DeviceLink.Number.Reading
import DeviceLink.Text.Blank
import DeviceLink.Time.Calendar
/-!
# Instants

A point in time in UTC with nanoseconds, its text with date, time and zone, and the reading of
such texts. A second may be a leap second: its nanoseconds are then counted past 10^9 on the
second before.
-/
namespace DeviceLink

structure Instant where
  /-- Seconds since 1970-01-01 00:00:00. -/
  seconds : Int
  /-- Below 2 · 10^9; from 10^9 on within a leap second. -/
  nanos   : Nat
deriving DecidableEq, Repr

namespace Instant

/-- Whole milliseconds since 1970, rounded down. -/
def millis (t : Instant) : Int := t.seconds * 1000 + t.nanos / 1000000

/-! ## Text -/

def padded (width n : Nat) : List Char :=
  let ds := Nat.toDigits 10 n
  List.replicate (width - ds.length) '0' ++ ds

/-- Four digits; years outside 0 to 9999 have a sign. -/
def yearText (y : Int) : List Char :=
  if 0 ≤ y ∧ y ≤ 9999 then padded 4 y.toNat
  else (if y < 0 then '-' else '+') :: padded 4 y.natAbs

/-- Date and time of day, down to the second, with the rest in nanoseconds. -/
def civil (t : Instant) : List Char × Nat :=
  let date := Date.ofDays (t.seconds / 86400)
  let second := (t.seconds % 86400).toNat
  let leap := decide (1000000000 ≤ t.nanos)
  let sec := second % 60 + (if leap then 1 else 0)
  (yearText date.year ++ '-' :: padded 2 date.month ++ '-' :: padded 2 date.day ++
    'T' :: padded 2 (second / 3600) ++ ':' :: padded 2 (second / 60 % 60) ++ ':' :: padded 2 sec,
    if leap then t.nanos - 1000000000 else t.nanos)

/-- Text with three digits of the second, further digits cut off. -/
def milliText (t : Instant) : String :=
  let (cs, nanos) := t.civil
  String.ofList (cs ++ '.' :: padded 3 (nanos / 1000000) ++ ['Z'])

/-- Text with 0, 3, 6 or 9 digits of the second, as few as keep the instant. -/
def text (t : Instant) : String :=
  let (cs, nanos) := t.civil
  let fraction :=
    if nanos = 0 then []
    else if nanos % 1000000 = 0 then '.' :: padded 3 (nanos / 1000000)
    else if nanos % 1000 = 0 then '.' :: padded 6 (nanos / 1000)
    else '.' :: padded 9 nanos
  String.ofList (cs ++ fraction ++ ['Z'])

/-! ## Reading -/

/-- One to `width` digits. -/
def number (width : Nat) (cs : List Char) : Option (Nat × List Char) :=
  let ds := (cs.take width).takeWhile Number.isDigit
  if ds = [] then none else some (Number.natOf ds, cs.drop ds.length)

/-- Digits after blanks. -/
def spaced (width : Nat) (cs : List Char) : Option (Nat × List Char) :=
  number width (Text.trimStart cs)

/-- A year: up to four digits, or any number of them after a sign. -/
def year (cs : List Char) : Option (Int × List Char) :=
  match Text.trimStart cs with
  | '-' :: cs => (number cs.length cs).map fun (n, cs) => (-(n : Int), cs)
  | '+' :: cs => (number cs.length cs).map fun (n, cs) => ((n : Int), cs)
  | cs => (number 4 cs).map fun (n, cs) => ((n : Int), cs)

/-- A mark after blanks. -/
def mark (c : Char) (cs : List Char) : Option (List Char) :=
  match Text.trimStart cs with
  | d :: cs => if d = c then some cs else none
  | [] => none

/-- The fraction of a second in nanoseconds; digits after the ninth are passed over. -/
def fraction : List Char → Option (Nat × List Char)
  | '.' :: cs =>
    let ds := cs.takeWhile Number.isDigit
    if ds = [] then none
    else
      let kept := ds.take 9
      some (Number.natOf kept * Nat.pow 10 (9 - kept.length), cs.dropWhile Number.isDigit)
  | cs => some (0, cs)

def twoDigits : List Char → Option (Nat × List Char)
  | a :: b :: cs =>
    if Number.isDigit a ∧ Number.isDigit b then some (Number.natOf [a, b], cs) else none
  | _ => none

/-- Seconds east of UTC. -/
def offset (cs : List Char) : Option (Int × List Char) :=
  let signed (negative : Bool) (cs : List Char) : Option (Int × List Char) := do
    let (h, cs) ← twoDigits cs
    let cs := cs.dropWhile fun c => c == ':' || Text.isSpace c
    let (m, cs) ← twoDigits cs
    if m < 60 ∧ h < 24 then
      let s : Int := h * 3600 + m * 60
      pure (if negative then -s else s, cs)
    else none
  match cs with
  | [] => none
  | c :: rest =>
    if c = 'Z' ∨ c = 'z' then some (0, rest)
    else if c = '+' then signed false rest
    else if c = '-' ∨ c.toNat = 0x2212 then signed true rest
    else
      match cs with
      | u :: t :: c :: rest =>
        if Text.lower (String.ofList [u, t, c]) = "utc" then some (0, rest) else none
      | _ => none

/-- The instant of a date, a time of day and an offset. -/
def assemble (date : Date) (h m s nanos : Nat) (east : Int) : Option Instant :=
  if date.isValid ∧ h < 24 ∧ m < 60 ∧ s ≤ 60 then
    let second : Nat := if s = 60 then 59 else s
    let nanos := if s = 60 then nanos + 1000000000 else nanos
    let seconds := date.toDays * 86400 + (h * 3600 + m * 60 + second : Nat) - east
    if date.inRange ∧ (Date.ofDays (seconds / 86400)).inRange then some ⟨seconds, nanos⟩
    else none
  else none

/-- The instant that a text names, with blanks around the parts and either `T` or a blank between
date and time. -/
def parse (text : String) : Option Instant := do
  let (y, cs) ← year text.toList
  let (mo, cs) ← (mark '-' cs).bind (spaced 2)
  let (d, cs) ← (mark '-' cs).bind (spaced 2)
  let cs ← match cs with
    | c :: cs => if c = 'T' ∨ c = 't' ∨ c = ' ' then some cs else none
    | [] => none
  let (h, cs) ← spaced 2 cs
  let (m, cs) ← (mark ':' cs).bind (spaced 2)
  let (s, cs) ← (mark ':' cs).bind (spaced 2)
  let (nanos, cs) ← fraction cs
  let (east, cs) ← offset (Text.trimStart cs)
  if Text.trimStart cs = [] then assemble ⟨y, mo, d⟩ h m s nanos east else none

end Instant
end DeviceLink
