import DeviceLink.Json.Writer
import DeviceLink.Pipeline.Basic
/-!
# Stages of the bench

Small stages from outside, each showing one thing that such a stage may do: change a value, add
fields, discard, fail, or look at the cache.
-/
namespace DeviceLink.Bench

inductive StageKind
  /-- Adds a constant to numbers. -/
  | offset
  /-- Keeps the value and adds a copy of it. -/
  | copy
  /-- Moves the value into an extra field. -/
  | sink
  | drop
  /-- Makes the value null. -/
  | erase
  /-- Makes the value its own text. -/
  | quote
  | fail
  /-- Takes the cached value in place of the value. -/
  | last
  /-- Hands the value on. -/
  | pass
deriving DecidableEq

structure StageSpec where
  name     : String
  kind     : StageKind
  priority : Int
  /-- The one tag that the stage applies to; every tag when absent. -/
  only     : Option String
  /-- What `offset` adds. -/
  shift    : Float

namespace StageSpec

def applies (s : StageSpec) (tag : Tag) (value : Json) : Bool :=
  (s.only.all fun id => id == tag.id) && (s.kind != .offset || value.isNumber)

/-- The value of a double, null when it is not finite. -/
def floatOrNull (x : Float) : Json := (Json.ofFloat? x).getD .null

def shifted (amount : Float) (value : Json) : Json :=
  match value.toFloat? with
  | some x => floatOrNull (x + amount)
  | none => value

def refusal : String := "refused by stage"

/-- The cached value of the field, else the value itself. -/
def lastValue (key : CacheKey) (value : Json) (cache : Cache) : Except StageError StageOutput :=
  match cache.get key with
  | .ok (some x) => .ok (.value (floatOrNull x))
  | .ok none => .ok (.value value)
  | .error e => .error (.cache e)

def result (s : StageSpec) (place : Place) (tag : Tag) (value : Json) (cache : Cache) :
    Except StageError StageOutput :=
  match s.kind with
  | .offset => .ok (.value (shifted s.shift value))
  | .copy => .ok (.fanOut (some value) [⟨tag.id ++ "_copy", value⟩])
  | .sink => .ok (.fanOut none [⟨tag.id ++ "_sunk", value⟩])
  | .drop => .ok .dropped
  | .erase => .ok (.value .null)
  | .quote => .ok (.value (.string value.render))
  | .fail => .error (.configuration tag.id refusal)
  | .last => lastValue (place.key tag) value cache
  | .pass => .ok (.value value)

/-- The stage itself; none of them changes the cache. -/
def stage (s : StageSpec) : ExternalStage where
  name := s.name
  applies := s.applies
  handle := fun place tag value cache => (s.result place tag value cache, cache)

end StageSpec

/-- A pipeline with further stages, added in the order of the list. -/
def extend (p : Pipeline) (stages : List StageSpec) : Pipeline :=
  stages.foldl (fun p s => p.withStage s.stage s.priority) p

end DeviceLink.Bench
