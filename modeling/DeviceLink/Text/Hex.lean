/-!
# Hexadecimal text

Two lower-case digits a byte. Main statements: `decode_encode`, `length_encode`, `encode_lower`.
-/
namespace DeviceLink

/-- Raw data, as it crosses the link. -/
abbrev Bytes := List UInt8

namespace Hex

def digits : List Char := "0123456789abcdef".toList

def digit (n : Nat) : Char := digits.getD n '0'

/-- The value of a digit of either case. -/
def digitValue (c : Char) : Option Nat :=
  let n := c.toNat
  if 48 ≤ n ∧ n ≤ 57 then some (n - 48)
  else if 97 ≤ n ∧ n ≤ 102 then some (n - 87)
  else if 65 ≤ n ∧ n ≤ 70 then some (n - 55)
  else none

def encode : Bytes → List Char
  | [] => []
  | b :: bs => digit (b.toNat / 16) :: digit (b.toNat % 16) :: encode bs

/-- Refuses an odd number of digits and anything that is no digit. -/
def decode : List Char → Option Bytes
  | [] => some []
  | [_] => none
  | c :: d :: cs => do
    let hi ← digitValue c
    let lo ← digitValue d
    let bs ← decode cs
    pure (UInt8.ofNat (16 * hi + lo) :: bs)

def text (bs : Bytes) : String := String.ofList (encode bs)

def parse (s : String) : Option Bytes := decode s.toList

theorem digitValue_digit : ∀ n < 16, digitValue (digit n) = some n := by decide

theorem digit_lower : ∀ n < 16, digit n ∈ digits := by decide

theorem decode_encode (bs : Bytes) : decode (encode bs) = some bs := by
  induction bs with
  | nil => rfl
  | cons b bs ih =>
    have hb := b.toNat_lt
    have hlo : b.toNat % 16 < 16 := Nat.mod_lt _ (by omega)
    have hhi : b.toNat / 16 < 16 := by omega
    have hb' : 16 * (b.toNat / 16) + b.toNat % 16 = b.toNat := by omega
    simp only [encode, decode, digitValue_digit _ hhi, digitValue_digit _ hlo, ih, hb',
      UInt8.ofNat_toNat, Option.bind_eq_bind, Option.bind_some, Option.pure_def]

theorem length_encode (bs : Bytes) : (encode bs).length = 2 * bs.length := by
  induction bs with
  | nil => rfl
  | cons b bs ih => simp only [encode, List.length_cons, ih]; omega

/-- Only digits and lower-case letters are written. -/
theorem encode_lower {bs : Bytes} {c : Char} (h : c ∈ encode bs) : c ∈ digits := by
  induction bs with
  | nil => simp [encode] at h
  | cons b bs ih =>
    have hb := b.toNat_lt
    simp only [encode, List.mem_cons] at h
    rcases h with rfl | rfl | h
    · exact digit_lower _ (by omega)
    · exact digit_lower _ (by omega)
    · exact ih h

end Hex
end DeviceLink
