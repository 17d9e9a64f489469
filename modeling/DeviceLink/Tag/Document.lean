import DeviceLink.Json.Structure
import DeviceLink.Tag.Basic
/-!
# Tags in documents

Reading and writing the configuration of tags. A condition is the one structure that must be an
object: its thresholds stand beside its own fields, and what is unknown in it is kept long enough
to have to be readable. The fields, their names and their defaults are those that `TagSpec`,
`LinearMapping`, `RangeSpec` and `Condition` declare.
-/
namespace DeviceLink

/-! ## Names -/

namespace Mode

def ofName : String → Option Mode
  | "number" => some .number
  | "rate" => some .rate
  | "delta" => some .delta
  | _ => none

end Mode

namespace Action

def name : Action → String
  | .fixed => "fixed"
  | .boundary => "boundary"
  | .holdLast => "holdLast"
  | .discard => "discard"

def ofName : String → Option Action
  | "fixed" => some .fixed
  | "boundary" => some .boundary
  | "holdLast" => some .holdLast
  | "latest" => some .holdLast
  | "discard" => some .discard
  | _ => none

end Action

namespace Trace

def name : Trace → String
  | .ignore => "ignore"
  | .save => "save"

def ofName : String → Option Trace
  | "ignore" => some .ignore
  | "save" => some .save
  | _ => none

end Trace

/-! ## Conditions -/

inductive TestKind
  | within
  | greater
  | less
deriving DecidableEq

namespace TestKind

def ofName : String → Option TestKind
  | "range" => some .within
  | "greater" => some .greater
  | "less" => some .less
  | _ => none

/-- A kind is named, or given by its position. -/
def read : Source → Option TestKind
  | .string s => ofName s
  | .number (.int 0) => some .within
  | .number (.int 1) => some .greater
  | .number (.int 2) => some .less
  | _ => none

end TestKind

namespace Test

/-- The thresholds of a condition, among the members that are not its own fields. -/
def read (kind : TestKind) (members : List (String × Source)) : Option (Test Float) := do
  match kind with
  | .within =>
    let lo ← Source.required Source.double (← Source.single members "minValue")
    let hi ← Source.required Source.double (← Source.single members "maxValue")
    pure (.within lo hi)
  | .greater => pure (.greater (← Source.required Source.double (← Source.single members "value")))
  | .less => pure (.less (← Source.required Source.double (← Source.single members "value")))

def members : Test Float → List (String × Json)
  | .within lo hi =>
    [("condition", .string "range"), ("minValue", .ofFloat lo), ("maxValue", .ofFloat hi)]
  | .greater t => [("condition", .string "greater"), ("value", .ofFloat t)]
  | .less t => [("condition", .string "less"), ("value", .ofFloat t)]

end Test

namespace Condition

/-- The fields of its own; all other members are kept together. -/
def ownKeys : List String := ["id", "mode", "default"]

def read (room : Room) : Source → Option Condition
  | .object members => do
    let room ← room.enter
    let own := Source.single members
    let id ← Source.optional Source.text (← own "id")
    let mode ← Source.required (Source.variant Mode.ofName) (← own "mode")
    let isDefault ← Source.orElse Source.flag false (← own "default")
    let others := members.filter fun m => !ownKeys.contains m.1
    if others.all fun m => (m.2.keep room).isSome then
      let kind ← Source.required TestKind.read (← Source.single others "condition")
      let test ← Test.read kind others
      pure ⟨id, mode, test, isDefault⟩
    else none
  | _ => none

def write (c : Condition) : Json :=
  .object (Json.memberIf "id" .string c.id ++ [("mode", .string c.mode.name)] ++
    c.test.members ++ [("default", .bool c.isDefault)])

end Condition

/-! ## Mappings, ranges and tags -/

namespace LinearMapping

def keys : List String := ["minRaw", "maxRaw", "minValue", "maxValue"]

/-- As an array, a mapping has all four bounds. -/
def wellSized : Source → Bool
  | .array items => items.length == 4
  | _ => true

def read (s : Source) : Option LinearMapping := do
  if wellSized s then
    match ← s.fields keys with
    | [a, b, c, d] =>
      let bound := Source.optional Source.double
      pure ⟨← bound a, ← bound b, ← bound c, ← bound d⟩
    | _ => none
  else none

def write (m : LinearMapping) : Json :=
  .object [("minRaw", .orNull .ofFloat m.minRaw), ("maxRaw", .orNull .ofFloat m.maxRaw),
    ("minValue", .orNull .ofFloat m.minValue), ("maxValue", .orNull .ofFloat m.maxValue)]

end LinearMapping

namespace RangeSpec

def keys : List String :=
  ["minValue", "maxValue", "conditions", "action", "fixedValue", "invalidAction",
    "saveInvalidValue"]

def read (room : Room) (s : Source) : Option RangeSpec := do
  let inner ← room.enterBy 2
  match ← s.fields keys with
  | [lo, hi, conditions, action, fixed, invalid, save] =>
    pure {
      minValue := ← Source.optional Source.double lo
      maxValue := ← Source.optional Source.double hi
      conditions := ← Source.orElse (Source.list (Condition.read inner)) [] conditions
      action := ← Source.required (Source.variant Action.ofName) action
      fixedValue := ← Source.optional Source.double fixed
      invalidAction := ← Source.orElse (Source.variant Trace.ofName) .ignore invalid
      saveInvalidValue := ← Source.orElse Source.flag false save }
  | _ => none

def write (r : RangeSpec) : Json :=
  .object (Json.memberIf "minValue" .ofFloat r.minValue ++
    Json.memberIf "maxValue" .ofFloat r.maxValue ++
    (if r.conditions.isEmpty then []
      else [("conditions", .array (r.conditions.map Condition.write))]) ++
    [("action", .string r.action.name)] ++ Json.memberIf "fixedValue" .ofFloat r.fixedValue ++
    [("invalidAction", .string r.invalidAction.name),
      ("saveInvalidValue", .bool r.saveInvalidValue)])

end RangeSpec

namespace Tag

def keys : List String := ["id", "name", "tagValue", "range", "scale", "fixed"]

def read (room : Room) (s : Source) : Option Tag := do
  let inner ← room.enter
  match ← s.fields keys with
  | [id, name, mapping, range, scale, fixed] =>
    pure {
      id := ← Source.required Source.text id
      name := ← Source.optional Source.text name
      mapping := ← Source.optional LinearMapping.read mapping
      range := ← Source.optional (RangeSpec.read inner) range
      scale := ← Source.optional Source.double scale
      fixed := ← Source.optional (Source.natBelow (Nat.pow 2 32)) fixed }
  | _ => none

def write (t : Tag) : Json :=
  .object ([("id", .string t.id)] ++ Json.memberIf "name" .string t.name ++
    Json.memberIf "tagValue" LinearMapping.write t.mapping ++
    Json.memberIf "range" RangeSpec.write t.range ++ Json.memberIf "scale" .ofFloat t.scale ++
    Json.memberIf "fixed" .ofNat t.fixed)

end Tag
end DeviceLink
