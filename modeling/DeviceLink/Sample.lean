import DeviceLink.Json.Structure
import DeviceLink.Tag.Basic
import DeviceLink.Time.Instant
/-!
# Samples

A sample is a timed set of raw readings of one device; a processed sample is what is left of it
to be transmitted (`Field`, `Sample`, `ProcessedField` and `ProcessedSample` of the data model).
-/
namespace DeviceLink

/-- The declared type of a field. -/
inductive FieldType
  | number
  | string
  | boolean
deriving DecidableEq

namespace FieldType

def name : FieldType → String
  | .number => "number"
  | .string => "string"
  | .boolean => "boolean"

def ofName : String → Option FieldType
  | "number" => some .number
  | "string" => some .string
  | "boolean" => some .boolean
  | _ => none

end FieldType

structure Field where
  tag   : Tag
  value : Json

/-- A field that only names its tag. -/
def Field.byId (id : String) (value : Json) : Field := ⟨Tag.bare id, value⟩

structure Sample where
  device : String
  sub    : Option String
  /-- Looked up by device when absent. -/
  table  : Option String
  time   : Instant
  fields : List Field
  /-- Declared types by tag id; of a repeated id the first entry counts. -/
  types  : List (String × FieldType)

structure ProcessedField where
  id    : String
  value : Json

namespace ProcessedField

def keys : List String := ["id", "value"]

def read (room : Room) (s : Source) : Option ProcessedField := do
  let inner ← room.enter
  match ← s.fields keys with
  | [id, value] =>
    pure ⟨← Source.required Source.text id, ← Source.required (Source.keep inner) value⟩
  | _ => none

def write (f : ProcessedField) : Json := .object [("id", .string f.id), ("value", f.value)]

end ProcessedField

structure ProcessedSample where
  table  : String
  device : String
  sub    : Option String
  time   : Instant
  fields : List ProcessedField

end DeviceLink
