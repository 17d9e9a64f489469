import DeviceLink.Text.Utf8
/-!
# Endpoints

Which texts name an endpoint: a path alone, an authority alone, or a scheme with an authority and
a path. Only the form is looked at, as `connect_lazy` does; whether anything can be reached there is
another question.
-/
namespace DeviceLink.Endpoint

def isLetter (b : UInt8) : Bool := (0x41 ≤ b && b ≤ 0x5A) || (0x61 ≤ b && b ≤ 0x7A)

def isDigit (b : UInt8) : Bool := 0x30 ≤ b && b ≤ 0x39

def bytesOf (s : String) : Bytes := Utf8.encode s

/-! ## Scheme -/

def isSchemeByte (b : UInt8) : Bool := isLetter b || isDigit b || (bytesOf "+-.").contains b

def lowerByte (b : UInt8) : UInt8 := if 0x41 ≤ b && b ≤ 0x5A then b + 0x20 else b

def startsWith (head : String) (bs : Bytes) : Bool :=
  bytesOf head == (bs.take head.utf8ByteSize).map lowerByte

def schemeLimit : Nat := 64

inductive Scheme
  | absent
  /-- What follows the scheme and the two slashes. -/
  | present (rest : Bytes)
  | tooLong

def scheme (bs : Bytes) : Scheme :=
  if startsWith "http://" bs then .present (bs.drop 7)
  else if startsWith "https://" bs then .present (bs.drop 8)
  else
    let name := bs.takeWhile isSchemeByte
    let rest := bs.dropWhile isSchemeByte
    if 3 < bs.length ∧ (bytesOf "://").isPrefixOf rest then
      if schemeLimit < name.length then .tooLong else .present (rest.drop 3)
    else .absent

/-! ## Authority -/

/-- Bytes that an address may hold anywhere. -/
def isAddressByte (b : UInt8) : Bool :=
  isLetter b || isDigit b || (bytesOf "!#$&'()*+,-./:;=?@[]_~").contains b

def endsAuthority (b : UInt8) : Bool := (bytesOf "/?#").contains b

structure AuthorityScan where
  /-- Colons since the last `@` or closing bracket. -/
  colons  : Nat
  opened  : Bool
  closed  : Bool
  percent : Bool
  /-- The last byte was an `@`. -/
  atSign  : Bool

def colonLimit : Nat := 8

def AuthorityScan.step (s : AuthorityScan) (b : UInt8) : Option AuthorityScan :=
  let s := { s with atSign := false }
  if b = 0x3A then
    if colonLimit ≤ s.colons then none else some { s with colons := s.colons + 1 }
  else if b = 0x5B then
    if s.percent || s.opened then none else some { s with opened := true }
  else if b = 0x5D then
    if !s.opened || s.closed then none
    else some { s with closed := true, colons := 0, percent := false }
  else if b = 0x40 then some { s with atSign := true, colons := 0, percent := false }
  else if b = 0x25 then some { s with percent := true }
  else if isAddressByte b then some s
  else none

/-- A host, with an optional number after one colon and after optional credentials. -/
def isAuthority (bs : Bytes) : Bool :=
  match bs.foldlM AuthorityScan.step ⟨0, false, false, false, false⟩ with
  | none => false
  | some s => s.opened == s.closed && s.colons ≤ 1 && !s.atSign && !s.percent

/-! ## Path and query -/

def isPathByte (b : UInt8) : Bool :=
  b == 0x21 || (0x24 ≤ b && b ≤ 0x3B) || b == 0x3D || (0x40 ≤ b && b ≤ 0x5F) ||
    (0x61 ≤ b && b ≤ 0x7A) || b == 0x7C || b == 0x7E || b == 0x22 || b == 0x7B || b == 0x7D

def isQueryByte (b : UInt8) : Bool :=
  b == 0x21 || (0x24 ≤ b && b ≤ 0x3B) || b == 0x3D || (0x3F ≤ b && b ≤ 0x7E)

/-- A path and a query; what follows a `#` is not looked at. -/
def isPath (bs : Bytes) : Bool :=
  let path := bs.takeWhile fun b => b != 0x3F && b != 0x23
  let query := match bs.drop path.length with
    | 0x3F :: rest => rest.takeWhile fun b => b != 0x23
    | _ => []
  path.all isPathByte && query.all isQueryByte

/-! ## The whole -/

def lengthLimit : Nat := 65534

def hasForm (bs : Bytes) : Bool :=
  match bs with
  | [] => false
  | [0x2F] | [0x2A] => true
  | [b] => isAuthority [b] && !endsAuthority b
  | 0x2F :: _ => isPath bs
  | _ =>
    match scheme bs with
    | .tooLong => false
    | .absent => isAuthority bs && !bs.any endsAuthority
    | .present rest =>
      let authority := rest.takeWhile fun b => !endsAuthority b
      authority != [] && isAuthority authority && isPath (rest.drop authority.length)

def isValid (endpoint : String) : Bool :=
  endpoint.utf8ByteSize ≤ lengthLimit && hasForm (bytesOf endpoint)

end DeviceLink.Endpoint
