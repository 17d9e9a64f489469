import DeviceLink.Pipeline.Stage
/-!
# Validity rules

A range holds either one interval or a list of conditions. A condition that cannot be judged for
want of a usable last value is passed over; one that holds makes the reading valid; otherwise the
action says what is emitted instead. What is emitted becomes the last accepted value.

| here | in the SDK |
| --- | --- |
| `Mode.comparand`, `Mode.invert` | `comparand`, `invert` |
| `Test.holds`, `Test.violated` | `matches`, `violated_threshold` |
| `Verdict`, `Violation` | the types of these names |
| `crossed`, `judgeSimple` | `evaluate_simple` |
| `violations`, `judgeConditions` | `evaluate_conditions` |
| `accepted` | what `handle` stores in the cache |
| `markers`, `output` | what `handle` makes of a verdict |
| `applies`, `handle` | the methods of `RangeValidityStage` |
-/
namespace DeviceLink

/-! ## Conditions over any numbers -/

namespace Mode

/-- What a condition looks at; `none` when there is no last value to compare with. -/
def comparand {α : Type} [Sub α] [Mul α] [Div α] [BEq α] [OfNat α 0] [OfNat α 100] (mode : Mode)
    (raw : α) (last : Option α) : Option α :=
  match mode with
  | .number => some raw
  | .rate => (last.filter fun l => !(l == 0)).map fun l => (raw - l) / l * 100
  | .delta => last.map fun l => raw - l

/-- The reading whose comparand is the threshold. -/
def invert {α : Type} [Add α] [Mul α] [Div α] [OfNat α 100] (mode : Mode) (threshold : α)
    (last : Option α) : α :=
  match mode, last with
  | .rate, some l => l + threshold / 100 * l
  | .delta, some l => l + threshold
  | _, _ => threshold

end Mode

namespace Test

variable {α : Type} [LT α] [LE α] [DecidableLT α] [DecidableLE α]

def holds : Test α → α → Bool
  | .within lo hi, x => decide (lo ≤ x) && decide (x ≤ hi)
  | .greater t, x => decide (t < x)
  | .less t, x => decide (x < t)

/-- The threshold on the side to which the comparand fell out. -/
def violated : Test α → α → α
  | .within lo hi, x => if x < lo then lo else hi
  | .greater t, _ => t
  | .less t, _ => t

end Test

/-! ## Verdicts -/

inductive Verdict
  | valid
  | invalid (replacement : Option Float) (rejectedBy : String)
deriving DecidableEq

/-- A condition that was judged and did not hold. -/
structure Violation where
  index     : Nat
  condition : Condition
  boundary  : Float
deriving DecidableEq

structure Judgement where
  verdict  : Verdict
  warnings : List Warning
deriving DecidableEq

namespace Range

/-- What rejections by one interval are called. -/
def simpleMarker : String := "range"

/-- What a rejection is called when every condition was passed over. -/
def noConditionMarker : String := "none"

/-- What the action emits, given the boundary that was crossed. -/
def replacement (r : RangeSpec) (raw : Float) (last boundary : Option Float) : Option Float :=
  match r.action with
  | .fixed => r.fixedValue
  | .boundary => boundary
  | .holdLast => some (last.getD raw)
  | .discard => none

/-- The bound that the reading lies beyond, the lower one first. -/
def crossed (r : RangeSpec) (raw : Float) : Option Float :=
  (r.minValue.filter fun lo => decide (raw < lo)).or
    (r.maxValue.filter fun hi => decide (hi < raw))

/-- The verdict of one interval (`evaluate_simple`). -/
def judgeSimple (r : RangeSpec) (raw : Float) (last : Option Float) : Verdict :=
  match crossed r raw with
  | none => .valid
  | some b => .invalid (replacement r raw last (some b)) simpleMarker

/-- The violations of all conditions from position `i` on, or `none` as soon as one holds. -/
def violations (raw : Float) (last : Option Float) : Nat → List Condition →
    Option (List Violation)
  | _, [] => some []
  | i, c :: rest =>
    match c.mode.comparand raw last with
    | none => violations raw last (i + 1) rest
    | some x =>
      if c.test.holds x then none
      else
        let v : Violation := ⟨i, c, c.mode.invert (c.test.violated x) last⟩
        (violations raw last (i + 1) rest).map (v :: ·)

/-- The verdict of a list of conditions (`evaluate_conditions`): of those that do not hold the
default counts, else the first one. -/
def judgeConditions (r : RangeSpec) (raw : Float) (last : Option Float) : Judgement :=
  match violations raw last 0 r.conditions with
  | none => ⟨.valid, []⟩
  | some vs =>
    let flagged := vs.find? fun v => v.condition.isDefault
    let label := match flagged.or vs.head? with
      | some v => v.condition.label v.index
      | none => noConditionMarker
    let warnings :=
      if r.action = .boundary ∧ flagged.isNone ∧ ¬ (r.conditions.any fun c => c.isDefault) then
        [.noDefaultCondition]
      else []
    ⟨.invalid (replacement r raw last (flagged.map fun v => v.boundary)) label, warnings⟩

def judge (r : RangeSpec) (raw : Float) (last : Option Float) : Judgement :=
  if r.isConditional then judgeConditions r raw last else ⟨judgeSimple r raw last, []⟩

/-- The value to remember after a verdict. -/
def accepted (raw : Float) : Verdict → Option Float
  | .valid => some raw
  | .invalid replacement _ => replacement.filter Number.isFinite

/-! ## The stage -/

def invalidSuffix : String := "__invalid"

def conditionSuffix : String := "__invalid_condition"

/-- The fields that record a rejection. -/
def markers (tag : Tag) (r : RangeSpec) (value : Json) (rejectedBy : String) :
    List ProcessedField :=
  match r.invalidAction with
  | .ignore => []
  | .save =>
    ⟨tag.id ++ conditionSuffix, .string rejectedBy⟩ ::
      (if r.saveInvalidValue then [⟨tag.id ++ invalidSuffix, value⟩] else [])

def output (tag : Tag) (r : RangeSpec) (value : Json) : Verdict → StageOutput
  | .valid => .value value
  | .invalid replacement rejectedBy =>
    let emitted := replacement.bind Json.ofFloat?
    match emitted, markers tag r value rejectedBy with
    | some j, [] => .value j
    | none, [] => .dropped
    | emitted, extra => .fanOut emitted extra

/-- Numbers of tags with rules. -/
def applies (tag : Tag) (value : Json) : Bool := tag.range.isSome && value.isNumber

def bothForms : String := "both minValue/maxValue and a condition list are configured"

/-- The range stage (`handle`). The entry of the tag is looked at and changed in one `update`. -/
def handle (place : Place) (tag : Tag) (value : Json) (cache : Cache) : StageRun :=
  match tag.range with
  | none => ⟨.ok (.value value), cache, []⟩
  | some r =>
    match value.finite? with
    | none => ⟨.ok .dropped, cache, []⟩
    | some raw =>
      if r.hasSimpleBounds && r.isConditional then
        ⟨.error (.configuration tag.id bothForms), cache, []⟩
      else
        let next (last : Option Float) : Option Float × Judgement :=
          let j := judge r raw last
          (accepted raw j.verdict, j)
        match cache.update (place.key tag) next with
        | .error e => ⟨.error (.cache e), cache, []⟩
        | .ok (j, cache) => ⟨.ok (output tag r value j.verdict), cache, j.warnings⟩

end Range
end DeviceLink
