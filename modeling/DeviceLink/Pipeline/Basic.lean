import DeviceLink.Pipeline.Linear
import DeviceLink.Pipeline.Range
import DeviceLink.Pipeline.Scale
import DeviceLink.Text.Quoted
/-!
# The pipeline

Stages in the order of their priorities, those of one priority in the order in which they were
registered. Every field of a sample walks through them on its own; a fault costs that field only.

| here | in the SDK |
| --- | --- |
| `Stage` | `Stage`, with `priority`, `name`, `applies` and `handle` |
| `Pipeline`, `Pipeline.standard` | `ProcessingPipeline`, as `new` makes it |
| `register`, `withStage`, `stageNames` | `register`, `with_stage`, `stage_names` |
| `runStages`, `runField` | `process_field` |
| `runFields`, `process` | `process` |
-/
namespace DeviceLink

inductive Stage
  | linearMapping
  | scaleRound
  | rangeValidity
  | external (stage : ExternalStage) (priority : Int)

namespace Stage

def priority : Stage → Int
  | .linearMapping => 0
  | .scaleRound => 100
  | .rangeValidity => 200
  | .external _ p => p

def name : Stage → String
  | .linearMapping => "linear_mapping"
  | .scaleRound => "scale_round"
  | .rangeValidity => "range_validity"
  | .external s _ => s.name

def applies (s : Stage) (tag : Tag) (value : Json) : Bool :=
  match s with
  | .linearMapping => Linear.applies tag value
  | .scaleRound => Scale.applies tag value
  | .rangeValidity => Range.applies tag value
  | .external s _ => s.applies tag value

def handle (s : Stage) (place : Place) (tag : Tag) (value : Json) (cache : Cache) : StageRun :=
  match s with
  | .linearMapping => ⟨.ok (Linear.handle tag value), cache, []⟩
  | .scaleRound => ⟨.ok (Scale.handle tag value), cache, []⟩
  | .rangeValidity => Range.handle place tag value cache
  | .external s _ =>
    let (result, cache) := s.handle place tag value cache
    ⟨result, cache, []⟩

/-- How a stage is shown in diagnostics. -/
def describe (s : Stage) : String :=
  "Stage \x7b name: " ++ Text.quoted s.name ++ ", priority: " ++ toString s.priority ++ " \x7d"

end Stage

structure Pipeline where
  stages : List Stage

/-- What the processing of one or more fields leaves behind. -/
structure PipelineRun where
  fields   : List ProcessedField
  cache    : Cache
  warnings : List Warning

namespace Pipeline

def empty : Pipeline := ⟨[]⟩

/-- Adds a stage after those of the same priority. -/
def register (p : Pipeline) (s : Stage) : Pipeline :=
  ⟨(p.stages ++ [s]).mergeSort fun a b => decide (a.priority ≤ b.priority)⟩

def withStage (p : Pipeline) (s : ExternalStage) (priority : Int) : Pipeline :=
  p.register (.external s priority)

/-- The pipeline with the three stages of its own. -/
def standard : Pipeline :=
  ((empty.register .linearMapping).register .scaleRound).register .rangeValidity

def stageNames (p : Pipeline) : List String := p.stages.map Stage.name

/-- One field through the stages: null ends it, an error or a drop discards it, extra fields come
before its own. -/
def runStages (place : Place) (tag : Tag) : List Stage → Json → Cache → PipelineRun
  | [], value, cache => ⟨if value.isNull then [] else [⟨tag.id, value⟩], cache, []⟩
  | s :: rest, value, cache =>
    if value.isNull then ⟨[], cache, []⟩
    else if s.applies tag value then
      let run := s.handle place tag value cache
      match run.result with
      | .error e => ⟨[], run.cache, run.warnings ++ [.fieldDiscarded e]⟩
      | .ok .dropped => ⟨[], run.cache, run.warnings⟩
      | .ok (.value next) =>
        let tail := runStages place tag rest next run.cache
        ⟨tail.fields, tail.cache, run.warnings ++ tail.warnings⟩
      | .ok (.fanOut none extra) => ⟨extra, run.cache, run.warnings⟩
      | .ok (.fanOut (some next) extra) =>
        let tail := runStages place tag rest next run.cache
        ⟨extra ++ tail.fields, tail.cache, run.warnings ++ tail.warnings⟩
    else runStages place tag rest value cache

def runField (p : Pipeline) (place : Place) (cache : Cache) (f : Field) : PipelineRun :=
  runStages place f.tag p.stages f.value cache

/-- Fields one after the other, over one cache. -/
def runFields (p : Pipeline) (place : Place) : List Field → Cache → PipelineRun
  | [], cache => ⟨[], cache, []⟩
  | f :: rest, cache =>
    let head := p.runField place cache f
    let tail := p.runFields place rest head.cache
    ⟨head.fields ++ tail.fields, tail.cache, head.warnings ++ tail.warnings⟩

/-- The processed sample, with the cache and the warnings that its processing left. -/
def process (p : Pipeline) (table : String) (s : Sample) (cache : Cache) :
    ProcessedSample × Cache × List Warning :=
  let run := p.runFields ⟨table, s.device⟩ s.fields cache
  (⟨table, s.device, s.sub, s.time, run.fields⟩, run.cache, run.warnings)

end Pipeline
end DeviceLink
