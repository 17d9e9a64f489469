/-!
# Tags

How the readings of one tag are processed: a linear mapping, a scale factor with rounding, and
rules of validity. The comparison rules are stated for any type of numbers, so that they can be
read over exact numbers as well as over doubles.

| here | in the SDK |
| --- | --- |
| `Tag` | `TagSpec`, with `bare` and `is_bare` |
| `LinearMapping`, `RangeSpec` | the types of these names; `complete` gives the `Bounds` |
| `Mode`, `Test` | `ConditionMode`, `ConditionKind` |
| `Condition` | `Condition`, with `new`, `with_id`, `as_default` and `label` |
| `Action`, `Trace` | `RangeAction`, `InvalidAction` |
-/
namespace DeviceLink

/-- The four bounds of a linear mapping. -/
structure Bounds where
  minRaw   : Float
  maxRaw   : Float
  minValue : Float
  maxValue : Float
deriving DecidableEq

/-- A linear mapping as configured: it takes effect when all bounds are present. -/
structure LinearMapping where
  minRaw   : Option Float
  maxRaw   : Option Float
  minValue : Option Float
  maxValue : Option Float
deriving DecidableEq

def LinearMapping.complete (m : LinearMapping) : Option Bounds := do
  pure ⟨← m.minRaw, ← m.maxRaw, ← m.minValue, ← m.maxValue⟩

def LinearMapping.ofBounds (b : Bounds) : LinearMapping :=
  ⟨some b.minRaw, some b.maxRaw, some b.minValue, some b.maxValue⟩

/-- What a condition looks at: the reading itself, its relative change against the last accepted
value in percent, or its absolute change. -/
inductive Mode
  | number
  | rate
  | delta
deriving DecidableEq

def Mode.name : Mode → String
  | .number => "number"
  | .rate => "rate"
  | .delta => "delta"

/-- How a condition compares: within both ends, above a threshold, or below one. -/
inductive Test (α : Type)
  | within (lo hi : α)
  | greater (threshold : α)
  | less (threshold : α)
deriving DecidableEq

structure Condition where
  id        : Option String
  mode      : Mode
  test      : Test Float
  /-- Its threshold is the one that a boundary action emits. -/
  isDefault : Bool
deriving DecidableEq

/-- A condition without an identifier, not the default. -/
def Condition.new (mode : Mode) (test : Test Float) : Condition := ⟨none, mode, test, false⟩

def Condition.withId (c : Condition) (id : String) : Condition := { c with id := some id }

def Condition.asDefault (c : Condition) : Condition := { c with isDefault := true }

/-- How markers name a condition: by its identifier, else by its position. -/
def Condition.label (c : Condition) (index : Nat) : String :=
  c.id.getD ("condition-" ++ toString index)

/-- What stands in for an invalid reading. -/
inductive Action
  | fixed
  | boundary
  | holdLast
  | discard
deriving DecidableEq

/-- Whether a rejection leaves marker fields. -/
inductive Trace
  | ignore
  | save
deriving DecidableEq

structure RangeSpec where
  minValue         : Option Float
  maxValue         : Option Float
  conditions       : List Condition
  action           : Action
  fixedValue       : Option Float
  invalidAction    : Trace
  saveInvalidValue : Bool
deriving DecidableEq

namespace RangeSpec

/-- The form with one interval. -/
def hasSimpleBounds (r : RangeSpec) : Bool := r.minValue.isSome || r.maxValue.isSome

/-- The form with a list of conditions. -/
def isConditional (r : RangeSpec) : Bool := !r.conditions.isEmpty

end RangeSpec

structure Tag where
  id      : String
  name    : Option String
  mapping : Option LinearMapping
  range   : Option RangeSpec
  scale   : Option Float
  fixed   : Option Nat
deriving DecidableEq

namespace Tag

def bare (id : String) : Tag := ⟨id, none, none, none, none, none⟩

/-- Nothing is configured; a display name does not count. -/
def isBare (t : Tag) : Bool :=
  t.mapping.isNone && t.range.isNone && t.scale.isNone && t.fixed.isNone

def bounds (t : Tag) : Option Bounds := t.mapping.bind LinearMapping.complete

end Tag
end DeviceLink
