import DeviceLink.Cache
import DeviceLink.Sample
/-!
# Stages

What a stage makes of one value: a value that goes on, nothing, or extra fields beside either.

| here | in the SDK |
| --- | --- |
| `StageOutput`, `StageError` | the types of these names |
| `Place` | `StageContext`, without the cache |
| `ExternalStage` | `FieldStage` |
| `Warning` | what the pipeline and the registry log as warnings |
-/
namespace DeviceLink

inductive StageOutput
  | value (j : Json)
  | dropped
  /-- Extra fields go into the sample at once; without a value, processing ends. -/
  | fanOut (value : Option Json) (extra : List ProcessedField)

inductive StageError
  | configuration (tag reason : String)
  | cache (error : CacheError)
deriving DecidableEq

def StageError.message : StageError → String
  | .configuration tag reason => "Tag '" ++ tag ++ "' is misconfigured: " ++ reason
  | .cache e => e.message

/-- What an operator is told about while work goes on. -/
inductive Warning
  | noDefaultCondition
  | fieldDiscarded (error : StageError)
  | duplicateDevice
deriving DecidableEq

def Warning.message : Warning → String
  | .noDefaultCondition =>
    "Range action is boundary but no condition is flagged default; emitting nothing"
  | .fieldDiscarded e => "Discarding field: " ++ e.message
  | .duplicateDevice => "Device id listed in more than one table; keeping the first"

/-- The table and the device whose field is processed. -/
structure Place where
  table  : String
  device : String
deriving DecidableEq

def Place.key (p : Place) (tag : Tag) : CacheKey := ⟨p.table, p.device, tag.id⟩

structure StageRun where
  result   : Except StageError StageOutput
  cache    : Cache
  warnings : List Warning

/-- A stage supplied from outside: besides the value it sees and may change the cache. -/
structure ExternalStage where
  name    : String
  applies : Tag → Json → Bool
  handle  : Place → Tag → Json → Cache → Except StageError StageOutput × Cache

end DeviceLink
