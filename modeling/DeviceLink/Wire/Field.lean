import DeviceLink.Text.Utf8
/-!
# Fields on the wire

A message is a run of numbered fields, each with a payload of one of four sizes. A reader that
does not know a number passes its field over; groups of fields are known only to be passed over.
-/
namespace DeviceLink.Wire

/-! ## Numbers in base 128 -/

/-- The digits of `n`, the lowest first, each marked when another one follows. -/
def varintBytes : Nat → Nat → Bytes
  | 0, n => [UInt8.ofNat n]
  | more + 1, n =>
    if n < 128 then [UInt8.ofNat n]
    else UInt8.ofNat (n % 128 + 128) :: varintBytes more (n / 128)

/-- The digits of a number below 2^64: ten at most. -/
def varint (n : Nat) : Bytes := varintBytes 9 n

/-- Reads at most `more + 1` digits; the last one possible is zero or one. -/
def varintFrom : Nat → Bytes → Option (Nat × Bytes)
  | _, [] => none
  | 0, b :: bs => if b.toNat < 2 then some (b.toNat, bs) else none
  | more + 1, b :: bs =>
    if b.toNat < 128 then some (b.toNat, bs)
    else (varintFrom more bs).map fun (n, rest) => (b.toNat - 128 + 128 * n, rest)

/-- Reads a number below 2^64. -/
def varint? (bs : Bytes) : Option (Nat × Bytes) := varintFrom 9 bs

/-! ## Payloads -/

inductive Payload
  | varint (n : Nat)
  | eight (data : Bytes)
  | bytes (data : Bytes)
  /-- A group that was passed over. -/
  | group
  | four (data : Bytes)
deriving DecidableEq, Repr

structure Field where
  number  : Nat
  payload : Payload
deriving DecidableEq, Repr

/-- The kind of a payload, as it stands beside the number of the field. -/
def Payload.kind : Payload → Nat
  | .varint _ => 0
  | .eight _ => 1
  | .bytes _ => 2
  | .group => 3
  | .four _ => 5

def Payload.encode : Payload → Bytes
  | .varint n => Wire.varint n
  | .eight data | .four data => data
  | .bytes data => Wire.varint data.length ++ data
  | .group => []

def keyBytes (number kind : Nat) : Bytes := varint (8 * number + kind)

/-- A group is written empty: its opening and its end. -/
def Field.encode (f : Field) : Bytes :=
  keyBytes f.number f.payload.kind ++ f.payload.encode ++
    (if f.payload = .group then keyBytes f.number 4 else [])

/-! ## Reading -/

/-- A number and a kind: 32 bits together, and the number is not zero. -/
def key? (bs : Bytes) : Option (Nat × Nat × Bytes) :=
  match varint? bs with
  | none => none
  | some (k, rest) => if 8 ≤ k ∧ k < Nat.pow 2 32 then some (k / 8, k % 8, rest) else none

def taken? (n : Nat) (bs : Bytes) : Option (Bytes × Bytes) :=
  if n ≤ bs.length then some (bs.take n, bs.drop n) else none

/-- A payload that is no group. -/
def payload? (kind : Nat) (bs : Bytes) : Option (Payload × Bytes) :=
  match kind with
  | 0 => (varint? bs).map fun (n, rest) => (.varint n, rest)
  | 1 => (taken? 8 bs).map fun (data, rest) => (.eight data, rest)
  | 2 =>
    (varint? bs).bind fun (n, rest) =>
      (taken? n rest).map fun (data, rest) => (.bytes data, rest)
  | 5 => (taken? 4 bs).map fun (data, rest) => (.four data, rest)
  | _ => none

/-- Passes over the rest of a group, whose fields may nest `room` deep; what follows its end. The
fuel exceeds the number of bytes. -/
def groupEnd? : Nat → Nat → Nat → Bytes → Option Bytes
  | 0, _, _, _ => none
  | fuel + 1, room, number, bs =>
    match key? bs with
    | none => none
    | some (n, kind, rest) =>
      if kind = 4 then if n = number then some rest else none
      else
        match room with
        | 0 => none
        | inner + 1 =>
          if kind = 3 then (groupEnd? fuel inner n rest).bind (groupEnd? fuel room number)
          else (payload? kind rest).bind fun (_, rest) => groupEnd? fuel room number rest

/-- The fields of a message, groups in which may nest `room` deep. -/
def fieldsFrom : Nat → Nat → Bytes → Option (List Field)
  | _, _, [] => some []
  | 0, _, _ => none
  | fuel + 1, room, bs =>
    match key? bs with
    | none => none
    | some (n, kind, rest) =>
      if kind = 3 then
        (groupEnd? rest.length.succ (room - 1) n rest).bind fun rest =>
          (fieldsFrom fuel room rest).map (⟨n, .group⟩ :: ·)
      else
        (payload? kind rest).bind fun (payload, rest) =>
          (fieldsFrom fuel room rest).map (⟨n, payload⟩ :: ·)

def fields? (room : Nat) (bs : Bytes) : Option (List Field) := fieldsFrom bs.length room bs

end DeviceLink.Wire
