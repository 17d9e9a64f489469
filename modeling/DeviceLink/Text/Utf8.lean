import DeviceLink.Text.Hex
/-!
# UTF-8

Strict reading (`decode`) and replacing reading (`decodeLossy`): each longest ill-formed start of
a character is read as one replacement character. Main statement: `decode_encode`.
-/
namespace DeviceLink.Utf8

def encode (s : String) : Bytes := s.toUTF8.data.toList

def decode (bs : Bytes) : Option String := String.fromUTF8? ⟨bs.toArray⟩

theorem fromUTF8_toUTF8 (s : String) : String.fromUTF8? s.toUTF8 = some s :=
  dif_pos s.isValidUTF8

theorem decode_encode (s : String) : decode (encode s) = some s := by
  have h : (⟨(encode s).toArray⟩ : ByteArray) = s.toUTF8 := by
    rw [encode, Array.toArray_toList]
  rw [decode, h, fromUTF8_toUTF8]

/-! ## Replacing what is ill-formed -/

def replacement : Char := Char.ofNat 0xFFFD

/-- A character that has begun: its bits so far, the range of the next byte, and how many
continuation bytes follow that one. -/
structure Pending where
  bits : Nat
  lo   : Nat
  hi   : Nat
  more : Nat

/-- Reads a byte where a character may begin. -/
def start (b : UInt8) : List Char × Option Pending :=
  let n := b.toNat
  if n < 0x80 then ([Char.ofNat n], none)
  else if n < 0xC2 then ([replacement], none)
  else if n < 0xE0 then ([], some ⟨n - 0xC0, 0x80, 0xBF, 0⟩)
  else if n < 0xF0 then
    let lo := if n = 0xE0 then 0xA0 else 0x80
    let hi := if n = 0xED then 0x9F else 0xBF
    ([], some ⟨n - 0xE0, lo, hi, 1⟩)
  else if n < 0xF5 then
    let lo := if n = 0xF0 then 0x90 else 0x80
    let hi := if n = 0xF4 then 0x8F else 0xBF
    ([], some ⟨n - 0xF0, lo, hi, 2⟩)
  else ([replacement], none)

/-- Reads a byte after `p`; a byte that cannot continue a character begins the next one. -/
def feed (p : Option Pending) (b : UInt8) : List Char × Option Pending :=
  match p with
  | none => start b
  | some p =>
    let n := b.toNat
    if p.lo ≤ n ∧ n ≤ p.hi then
      let bits := p.bits * 64 + (n - 0x80)
      match p.more with
      | 0 => ([Char.ofNat bits], none)
      | k + 1 => ([], some ⟨bits, 0x80, 0xBF, k⟩)
    else
      let (cs, q) := start b
      (replacement :: cs, q)

def decodeFrom : Option Pending → Bytes → List Char
  | none, [] => []
  | some _, [] => [replacement]
  | p, b :: bs =>
    let (cs, q) := feed p b
    cs ++ decodeFrom q bs

def decodeLossy (bs : Bytes) : String :=
  match decode bs with
  | some s => s
  | none => String.ofList (decodeFrom none bs)

end DeviceLink.Utf8
