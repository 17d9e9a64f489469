import DeviceLink.Number.Shortest
/-!
# Number text

How digits are laid out: positional within a band of exponents, scientific outside.
-/
namespace DeviceLink.Number

/-- A layout of decimal digits. The point position of `d₁d₂…dₙ · 10^e` is `n + e`; positions
above `positionalFrom` up to `positionalTo` are written positionally. -/
structure Layout where
  positionalFrom : Int
  positionalTo   : Int

/-- Numbers in documents and diagnostics: positional from 10^-5 to below 10^16, always with a
point or an exponent, exponents signed. -/
def standard : Layout := ⟨-5, 16⟩

def digitText (n : Nat) : List Char := Nat.toDigits 10 n

def zeros (n : Nat) : List Char := List.replicate n '0'

def exponentText (e : Int) : List Char :=
  'e' :: (if e < 0 then '-' else '+') :: digitText e.natAbs

def Layout.positional (cs : List Char) (point : Int) : List Char :=
  if point ≤ 0 then '0' :: '.' :: zeros (-point).toNat ++ cs
  else
    let k := point.toNat
    if cs.length ≤ k then cs ++ zeros (k - cs.length) ++ ['.', '0']
    else cs.take k ++ '.' :: cs.drop k

def Layout.scientific (cs : List Char) (point : Int) : List Char :=
  match cs with
  | [] => []
  | [c] => c :: exponentText (point - 1)
  | c :: cs => c :: '.' :: cs ++ exponentText (point - 1)

def Layout.digits (l : Layout) (d : Digits) : List Char :=
  let cs := digitText d.coeff
  let point := cs.length + d.exponent
  if l.positionalFrom < point ∧ point ≤ l.positionalTo then Layout.positional cs point
  else Layout.scientific cs point

/-- Text of a finite double, `none` of any other. -/
def Layout.finite? (l : Layout) (x : Float) : Option String :=
  match parts x with
  | .finite negative m q =>
    let body := if m = 0 then ['0', '.', '0'] else l.digits (shortest m q)
    some (String.ofList (if negative then '-' :: body else body))
  | _ => none

/-- Text of any double; those that are not finite are named. -/
def text (x : Float) : String :=
  match parts x with
  | .nan => "NaN"
  | .infinite true => "-inf"
  | .infinite false => "inf"
  | _ => (standard.finite? x).getD ""

end DeviceLink.Number
