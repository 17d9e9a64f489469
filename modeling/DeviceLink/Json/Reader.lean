import DeviceLink.Json.Basic
import DeviceLink.Number.Reading
import DeviceLink.Text.Utf8
/-!
# Reading JSON text

The strict grammar over bytes: no leading zeros, no trailing commas, no raw control characters in
strings, nothing but blanks around the value. A text that breaks the grammar has no reading; one
whose strings are no Unicode text has a reading with `unreadable` parts.
-/
namespace DeviceLink.Source

def isBlankByte (b : UInt8) : Bool := b == 0x20 || b == 0x09 || b == 0x0A || b == 0x0D

def skipBlanks (bs : Bytes) : Bytes := bs.dropWhile isBlankByte

def isDigitByte (b : UInt8) : Bool := 0x30 ≤ b && b ≤ 0x39

/-! ## Numerals -/

def natOfBytes (bs : Bytes) : Nat := bs.foldl (fun n b => 10 * n + (b.toNat - 0x30)) 0

/-- The whole part of a numeral: a lone zero, or digits that do not begin with one. -/
def wholeDigits : Bytes → Option (Bytes × Bytes)
  | 0x30 :: rest =>
    match rest with
    | b :: _ => if isDigitByte b then none else some ([0x30], rest)
    | [] => some ([0x30], [])
  | bs =>
    let ds := bs.takeWhile isDigitByte
    if ds = [] then none else some (ds, bs.dropWhile isDigitByte)

/-- The digits after a point; none without a point, and one at least with it. -/
def fractionDigits : Bytes → Option (Bytes × Bytes)
  | 0x2E :: rest =>
    let ds := rest.takeWhile isDigitByte
    if ds = [] then none else some (ds, rest.dropWhile isDigitByte)
  | bs => some ([], bs)

/-- The exponent, `none` where no exponent is written. -/
def exponentPart : Bytes → Option (Option Int × Bytes)
  | b :: rest =>
    if b == 0x65 || b == 0x45 then
      let (negative, rest) := match rest with
        | 0x2D :: rest => (true, rest)
        | 0x2B :: rest => (false, rest)
        | rest => (false, rest)
      let ds := rest.takeWhile isDigitByte
      if ds = [] then none
      else
        let e : Int := natOfBytes ds
        some (some (if negative then -e else e), rest.dropWhile isDigitByte)
    else some (none, b :: rest)
  | [] => some (none, [])

/-- Takes leading digits into a significand, as long as it stays below 2^64; the digits left over
follow. -/
def takeIn (m : Nat) : Bytes → Nat × Bytes
  | [] => (m, [])
  | b :: bs =>
    let m' := 10 * m + (b.toNat - 0x30)
    if m' < Nat.pow 2 64 then takeIn m' bs else (m, b :: bs)

/-- The double nearest to 10^k. -/
def tenTo (k : Nat) : Float := Number.nearest false 1 k

/-- m · 10^e as `f64_from_parts` of the number reader forms it: the significand becomes a double,
which one power of ten multiplies or divides. A numeral of many digits may end up next to the
double that is nearest to it. -/
def scaled (m : Nat) (e : Int) : Float :=
  let x := Float.ofNat m
  if 308 < e then (if m = 0 then 0 else 1 / 0)
  else if 0 ≤ e then x * tenTo e.toNat
  else if -308 ≤ e then x / tenTo (-e).toNat
  -- powers beyond the largest double are divided out in two steps
  else if -616 ≤ e then x / tenTo 308 / tenTo (-e - 308).toNat
  else 0

/-- The number that the parts of a numeral name. Digits beyond the significand count as zeros
before the point and are passed over after it. -/
def numberOf (negative : Bool) (whole fraction : Bytes) (exponent : Option Int) : Number :=
  let (m, beyond) := takeIn 0 whole
  let i : Int := if negative then -(m : Int) else m
  if beyond = [] ∧ fraction = [] ∧ exponent = none ∧ Number.fits i ∧ ¬ (negative ∧ m = 0) then
    .int i
  else
    let (m, dropped) := takeIn m fraction
    let e : Int := exponent.getD 0 + beyond.length - (fraction.length - dropped.length : Nat)
    let x := scaled m e
    .real (if negative then -x else x)

def numeral (bs : Bytes) : Option (Number × Bytes) := do
  let (negative, bs) := match bs with
    | 0x2D :: rest => (true, rest)
    | bs => (false, bs)
  let (whole, bs) ← wholeDigits bs
  let (fraction, bs) ← fractionDigits bs
  let (exponent, bs) ← exponentPart bs
  pure (numberOf negative whole fraction exponent, bs)

/-! ## Strings -/

def hexByte (b : UInt8) : Option Nat := Hex.digitValue (Char.ofNat b.toNat)

def fourDigits : Bytes → Option (Nat × Bytes)
  | a :: b :: c :: d :: rest => do
    let a ← hexByte a
    let b ← hexByte b
    let c ← hexByte c
    let d ← hexByte d
    pure (((a * 16 + b) * 16 + c) * 16 + d, rest)
  | _ => none

def isHighSurrogate (n : Nat) : Bool := 0xD800 ≤ n && n ≤ 0xDBFF

def isLowSurrogate (n : Nat) : Bool := 0xDC00 ≤ n && n ≤ 0xDFFF

/-- The character after `\u`, `none` for a surrogate without its partner. -/
def unicodeEscape (bs : Bytes) : Option (Option Char × Bytes) := do
  let (n, rest) ← fourDigits bs
  if isHighSurrogate n then
    match rest with
    | 0x5C :: 0x75 :: rest' =>
      let (k, rest') ← fourDigits rest'
      if isLowSurrogate k then
        pure (some (Char.ofNat (0x10000 + (n - 0xD800) * 0x400 + (k - 0xDC00))), rest')
      else pure (none, rest)
    | _ => pure (none, rest)
  else if isLowSurrogate n then pure (none, rest)
  else pure (some (Char.ofNat n), rest)

def escapeByte (b : UInt8) : Option UInt8 :=
  if b == 0x22 || b == 0x5C || b == 0x2F then some b
  else if b == 0x62 then some 0x08
  else if b == 0x66 then some 0x0C
  else if b == 0x6E then some 0x0A
  else if b == 0x72 then some 0x0D
  else if b == 0x74 then some 0x09
  else none

/-- The bytes of a string up to its closing quote, last byte first; the flag says that all
escapes name characters. -/
def stringBody : Nat → Bytes → Bytes → Bool → Option (Bytes × Bool × Bytes)
  | 0, _, _, _ => none
  | _ + 1, [], _, _ => none
  | fuel + 1, b :: bs, acc, sound =>
    if b == 0x22 then some (acc, sound, bs)
    else if b < 0x20 then none
    else if b == 0x5C then
      match bs with
      | [] => none
      | e :: rest =>
        if e == 0x75 then
          match unicodeEscape rest with
          | none => none
          | some (some c, rest) =>
            stringBody fuel rest ((Utf8.encode (String.ofList [c])).reverse ++ acc) sound
          | some (none, rest) => stringBody fuel rest acc false
        else
          match escapeByte e with
          | none => none
          | some b => stringBody fuel rest (b :: acc) sound
    else stringBody fuel bs (b :: acc) sound

/-- A string after its opening quote; the text is `none` when it is unreadable. -/
def quotedText (bs : Bytes) : Option (Option String × Bytes) := do
  let (acc, sound, rest) ← stringBody (bs.length + 1) bs [] true
  pure (if sound then Utf8.decode acc.reverse else none, rest)

/-! ## Values -/

/-- Consumes the word that a value begins with. -/
def word (w : Bytes) (s : Source) (bs : Bytes) : Option (Source × Bytes) :=
  if w.isPrefixOf bs then some (s, bs.drop w.length) else none

mutual

/-- A value at the start of the text, after blanks. The fuel exceeds the length of the text. -/
def value : Nat → Bytes → Option (Source × Bytes)
  | 0, _ => none
  | fuel + 1, bs =>
    match skipBlanks bs with
    | [] => none
    | b :: bs =>
      if b == 0x22 then
        match quotedText bs with
        | none => none
        | some (some s, rest) => some (.string s, rest)
        | some (none, rest) => some (.unreadable, rest)
      else if b == 0x5B then
        match skipBlanks bs with
        | 0x5D :: rest => some (.array [], rest)
        | bs => items fuel bs []
      else if b == 0x7B then
        match skipBlanks bs with
        | 0x7D :: rest => some (.object [], rest)
        | bs => members fuel bs [] true
      else if b == 0x6E then word [0x75, 0x6C, 0x6C] .null bs
      else if b == 0x74 then word [0x72, 0x75, 0x65] (.bool true) bs
      else if b == 0x66 then word [0x61, 0x6C, 0x73, 0x65] (.bool false) bs
      else (numeral (b :: bs)).map fun (n, rest) => (.number n, rest)

/-- The items of an array, those already read last one first. -/
def items : Nat → Bytes → List Source → Option (Source × Bytes)
  | 0, _, _ => none
  | fuel + 1, bs, acc =>
    match value fuel bs with
    | none => none
    | some (s, rest) =>
      match skipBlanks rest with
      | 0x2C :: rest => items fuel rest (s :: acc)
      | 0x5D :: rest => some (.array (s :: acc).reverse, rest)
      | _ => none

/-- The members of an object, those already read last one first; the flag says that every key so
far is readable. -/
def members : Nat → Bytes → List (String × Source) → Bool → Option (Source × Bytes)
  | 0, _, _, _ => none
  | fuel + 1, bs, acc, sound =>
    match skipBlanks bs with
    | 0x22 :: bs =>
      match quotedText bs with
      | none => none
      | some (key, rest) =>
        match skipBlanks rest with
        | 0x3A :: rest =>
          match value fuel rest with
          | none => none
          | some (s, rest) =>
            let acc := (key.getD "", s) :: acc
            let sound := sound && key.isSome
            match skipBlanks rest with
            | 0x2C :: rest => members fuel rest acc sound
            | 0x7D :: rest => some (if sound then .object acc.reverse else .unreadable, rest)
            | _ => none
        | _ => none
    | _ => none

end

/-- The reading of a whole text. -/
def parse (bs : Bytes) : Option Source := do
  let (s, rest) ← value (2 * bs.length + 2) bs
  if skipBlanks rest = [] then some s else none

def parseText (s : String) : Option Source := parse (Utf8.encode s)

end DeviceLink.Source
