import DeviceLink.Json.Basic
/-!
# Structures in JSON

A structure is written as an object, whose unknown keys are passed over and whose known keys may
stand once, or as the array of its fields in order, from whose end fields with a default may be
missing.
-/
namespace DeviceLink.Source

/-- The value of a key that stands at most once: `none` when it repeats. -/
def single (members : List (String × Source)) (key : String) : Option (Option Source) :=
  match members.filter fun m => m.1 == key with
  | [] => some none
  | [m] => some (some m.2)
  | _ => none

/-- The fields of a structure in the order of `keys`, whichever way it is written. -/
def fields (keys : List String) : Source → Option (List (Option Source))
  | .object members => keys.mapM (single members)
  | .array items =>
    if items.length ≤ keys.length then
      some (items.map some ++ List.replicate (keys.length - items.length) none)
    else none
  | _ => none

/-! ## Fields -/

def required {α : Type} (read : Source → Option α) (field : Option Source) : Option α :=
  field.bind read

/-- A field that may be missing or null. -/
def optional {α : Type} (read : Source → Option α) : Option Source → Option (Option α)
  | none | some .null => some none
  | some s => (read s).map some

/-- A field that may be missing, but not null. -/
def orElse {α : Type} (read : Source → Option α) (default : α) : Option Source → Option α
  | none => some default
  | some s => read s

/-! ## Values of fields -/

def text : Source → Option String
  | .string s => some s
  | _ => none

def flag : Source → Option Bool
  | .bool b => some b
  | _ => none

/-- A double; integers are numbers too, numerals beyond the doubles are not. -/
def double : Source → Option Float
  | .number n => if Number.isFinite n.toFloat then some n.toFloat else none
  | _ => none

/-- An integer in a field of the given width. -/
def natBelow (bound : Nat) : Source → Option Nat
  | .number (.int n) => if 0 ≤ n ∧ n < bound then some n.toNat else none
  | _ => none

def list {α : Type} (read : Source → Option α) : Source → Option (List α)
  | .array items => items.mapM read
  | _ => none

/-- A name out of a fixed set, alone or as the only key of an object with null. -/
def variant {α : Type} (read : String → Option α) : Source → Option α
  | .string s => read s
  | .object [(s, .null)] => read s
  | _ => none

end DeviceLink.Source

namespace DeviceLink.Json

def ofFloat (x : Float) : Json := .number (.real x)

/-- A member that is written only when present. -/
def memberIf {α : Type} (key : String) (write : α → Json) : Option α → List (String × Json)
  | none => []
  | some a => [(key, write a)]

/-- A value that is written as null when absent. -/
def orNull {α : Type} (write : α → Json) : Option α → Json
  | none => .null
  | some a => write a

end DeviceLink.Json
