import DeviceLink.Number.Double
import DeviceLink.Text.Hex
/-!
# JSON values

Two trees. `Json` is a value that is kept: integers and doubles apart, object members
sorted by key and each key once. `Source` is a text as written: members in the order of the text,
keys repeated if they are, a numeral beyond the doubles read as an infinity. `Source.keep` turns
the second into the first, within a limit on nesting.
-/
namespace DeviceLink

/-- A number: an integer between -2^63 and 2^64 - 1 when written as one, else a double. -/
inductive Number
  | int (n : Int)
  | real (x : Float)
deriving DecidableEq

inductive Json
  | null
  | bool (b : Bool)
  | number (n : Number)
  | string (s : String)
  | array (items : List Json)
  | object (members : List (String × Json))

instance : Inhabited Json := ⟨.null⟩

inductive Source
  | null
  | bool (b : Bool)
  | number (n : Number)
  | string (s : String)
  | array (items : List Source)
  | object (members : List (String × Source))
  /-- Well-formed enough to be passed over, but with text in it that is no Unicode text. -/
  | unreadable

instance : Inhabited Source := ⟨.null⟩

namespace Number

def toFloat : Number → Float
  | .int n => Float.ofInt n
  | .real x => x

/-- The number of a finite double. -/
def ofFloat? (x : Float) : Option Number := if isFinite x then some (.real x) else none

/-- Integers that are kept as such. -/
def fits (n : Int) : Bool := -(Nat.pow 2 63 : Int) ≤ n && n < (Nat.pow 2 64 : Int)

end Number

namespace Json

def isNull : Json → Bool
  | .null => true
  | _ => false

def isNumber : Json → Bool
  | .number _ => true
  | _ => false

def ofNat (n : Nat) : Json := .number (.int n)

def ofInt (n : Int) : Json := .number (.int n)

/-- The value of a finite double. -/
def ofFloat? (x : Float) : Option Json := (Number.ofFloat? x).map .number

/-- The double that a number stands for. -/
def toFloat? : Json → Option Float
  | .number n => some n.toFloat
  | _ => none

/-- The finite double that a number stands for. -/
def finite? (j : Json) : Option Float := j.toFloat?.filter Number.isFinite

/-- Sets a member of an object whose members are sorted by key. -/
def setMember (key : String) (value : Json) : List (String × Json) → List (String × Json)
  | [] => [(key, value)]
  | (k, v) :: rest =>
    if key = k then (key, value) :: rest
    else if key < k then (key, value) :: (k, v) :: rest
    else (k, v) :: setMember key value rest

/-- Sorted members; of a repeated key the last one counts. -/
def sortMembers (members : List (String × Json)) : List (String × Json) :=
  members.foldl (fun acc m => setMember m.1 m.2 acc) []

def ofMembers (members : List (String × Json)) : Json := .object (sortMembers members)

end Json

/-- How many levels of arrays and objects may still be opened; `none` when there is no limit. -/
abbrev Room := Option Nat

namespace Room

/-- Texts may nest this deep where their values are kept. -/
def text : Room := some 127

def enter : Room → Option Room
  | none => some none
  | some 0 => none
  | some (n + 1) => some (some n)

/-- Goes several levels down. -/
def enterBy : Nat → Room → Option Room
  | 0, r => some r
  | n + 1, r => r.enter.bind (enterBy n)

end Room

namespace Source

/-- The value of a tree, if all of it can be kept: readable text, numbers within the doubles and
no deeper than `room` allows. -/
def keep (room : Room) : Source → Option Json
  | .null => some .null
  | .bool b => some (.bool b)
  | .number (.int n) => some (.number (.int n))
  | .number (.real x) => if Number.isFinite x then some (.number (.real x)) else none
  | .string s => some (.string s)
  | .array items => do
    let room ← room.enter
    let items ← keepItems room items
    pure (.array items)
  | .object members => do
    let room ← room.enter
    let members ← keepMembers room members
    pure (Json.ofMembers members)
  | .unreadable => none
where
  keepItems (room : Room) : List Source → Option (List Json)
    | [] => some []
    | s :: rest => do
      let j ← keep room s
      let js ← keepItems room rest
      pure (j :: js)
  keepMembers (room : Room) : List (String × Source) → Option (List (String × Json))
    | [] => some []
    | (k, s) :: rest => do
      let j ← keep room s
      let js ← keepMembers room rest
      pure ((k, j) :: js)

end Source

namespace Json

/-- The text form of a value: the same tree. -/
def written : Json → Source
  | .null => .null
  | .bool b => .bool b
  | .number n => .number n
  | .string s => .string s
  | .array items => .array (writtenItems items)
  | .object members => .object (writtenMembers members)
where
  writtenItems : List Json → List Source
    | [] => []
    | j :: rest => written j :: writtenItems rest
  writtenMembers : List (String × Json) → List (String × Source)
    | [] => []
    | (k, j) :: rest => (k, written j) :: writtenMembers rest

end Json
end DeviceLink
