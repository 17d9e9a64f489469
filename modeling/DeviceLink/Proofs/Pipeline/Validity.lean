import DeviceLink.Pipeline.Range
/-!
# What validity rules mean

The stage judges conditions one by one, stops at the first that holds and collects violations on
its way. Here the rules are said without that order of work: which conditions can be judged, which
readings are valid, what stands in for the others, what is recorded and what is remembered
(`meaning`). The stage does just that: `handle_eq_meaning`.

The one induction is over the list of conditions (`violations_eq`): what was collected are the
conditions that could be judged, each with its own position.
-/
namespace DeviceLink.Range

/-! ## Conditions -/

/-- There is something to compare a reading with. -/
def Usable (last : Option Float) : Mode → Prop
  | .number => True
  | .delta => last.isSome = true
  | .rate => ∃ l ∈ last, ¬ (l == 0) = true

instance (last : Option Float) : DecidablePred (Usable last)
  | .number => isTrue trivial
  | .delta => inferInstanceAs (Decidable (last.isSome = true))
  | .rate => inferInstanceAs (Decidable (∃ l ∈ last, ¬ (l == 0) = true))

/-- What a usable condition looks at: the reading, its change, or its change in percent. -/
def compared (raw : Float) (last : Option Float) : Mode → Float
  | .number => raw
  | .delta => raw - last.getD 0
  | .rate => (raw - last.getD 0) / last.getD 0 * 100

def Accepts : Test Float → Float → Prop
  | .within lo hi, x => lo ≤ x ∧ x ≤ hi
  | .greater t, x => t < x
  | .less t, x => x < t

instance (t : Test Float) : DecidablePred (Accepts t) := fun x =>
  match t with
  | .within lo hi => inferInstanceAs (Decidable (lo ≤ x ∧ x ≤ hi))
  | .greater t => inferInstanceAs (Decidable (t < x))
  | .less t => inferInstanceAs (Decidable (x < t))

/-- The threshold that a comparand fell short of or went beyond. -/
def threshold : Test Float → Float → Float
  | .within lo hi, x => if x < lo then lo else hi
  | .greater t, _ => t
  | .less t, _ => t

/-- The reading at which a usable condition would look at the threshold. -/
def readingAt (last : Option Float) (threshold : Float) : Mode → Float
  | .number => threshold
  | .delta => last.getD 0 + threshold
  | .rate => last.getD 0 + threshold / 100 * last.getD 0

/-! ## Rules -/

section rules

variable (r : RangeSpec) (raw : Float) (last : Option Float)

/-- The conditions that can be judged, with their positions among all. -/
def usable : List (Condition × Nat) :=
  r.conditions.zipIdx.filter fun c => decide (Usable last c.1.mode)

/-- The first condition that can be judged and is flagged as the default. -/
def flagged : Option (Condition × Nat) := (usable r last).find? fun c => c.1.isDefault

def Below : Prop := ∃ lo ∈ r.minValue, raw < lo

instance : Decidable (Below r raw) := inferInstanceAs (Decidable (∃ lo ∈ r.minValue, raw < lo))

def Above : Prop := ∃ hi ∈ r.maxValue, hi < raw

instance : Decidable (Above r raw) := inferInstanceAs (Decidable (∃ hi ∈ r.maxValue, hi < raw))

/-- Some condition that can be judged holds; by one interval: neither bound is crossed. -/
def Valid : Prop :=
  if r.isConditional then
    ∃ c ∈ r.conditions, Usable last c.mode ∧ Accepts c.test (compared raw last c.mode)
  else ¬ Below r raw ∧ ¬ Above r raw

instance : Decidable (Valid r raw last) :=
  inferInstanceAs <| Decidable <|
    if r.isConditional then
      ∃ c ∈ r.conditions, Usable last c.mode ∧ Accepts c.test (compared raw last c.mode)
    else ¬ Below r raw ∧ ¬ Above r raw

/-- The reading at the edge of what is valid. -/
def boundary : Option Float :=
  if r.isConditional then
    (flagged r last).map fun c =>
      readingAt last (threshold c.1.test (compared raw last c.1.mode)) c.1.mode
  else if Below r raw then r.minValue
  else r.maxValue

/-- What stands in for a reading that is not valid. What is not finite stands for nothing. -/
def substitute : Option Float :=
  Option.filter Number.isFinite <|
    match r.action with
    | .fixed => r.fixedValue
    | .boundary => boundary r raw last
    | .holdLast => some (last.getD raw)
    | .discard => none

/-- What rejects a reading that is not valid. -/
def rejector : String :=
  if r.isConditional then
    match (flagged r last).or (usable r last).head? with
    | some (c, i) => c.label i
    | none => "none"
  else "range"

/-- Nothing can be emitted by a boundary that no condition is flagged for. -/
def warnings : List Warning :=
  if r.isConditional ∧ r.action = .boundary ∧ ∀ c ∈ r.conditions, c.isDefault = false then
    [.noDefaultCondition]
  else []

end rules

/-- The fields that record what rejected a value, and if wanted the value. -/
def records (tag : Tag) (r : RangeSpec) (value : Json) (rejector : String) :
    List ProcessedField :=
  if r.invalidAction = .save then
    ⟨tag.id ++ "__invalid_condition", .string rejector⟩ ::
      if r.saveInvalidValue then [⟨tag.id ++ "__invalid", value⟩] else []
  else []

/-- A value alone goes on, nothing at all is dropped, and fields are sent beside either. -/
def emission : Option Json → List ProcessedField → StageOutput
  | some v, [] => .value v
  | none, [] => .dropped
  | v, f :: fs => .fanOut v (f :: fs)

/-- All that the rules make of a finite reading. -/
def meaning (tag : Tag) (r : RangeSpec) (value : Json) (raw : Float) (k : CacheKey)
    (cache : Cache) : StageRun :=
  let last := cache.find? k
  if Valid r raw last then ⟨.ok (.value value), cache.set k raw, []⟩
  else
    let emitted := substitute r raw last
    { result := .ok (emission (emitted.map fun x => .number (.real x))
        (records tag r value (rejector r last)))
      cache := match emitted with
        | some x => cache.set k x
        | none => cache
      warnings := warnings r }

/-! ## Single conditions -/

theorem comparand_eq (mode : Mode) (raw : Float) (last : Option Float) :
    mode.comparand raw last =
      if Usable last mode then some (compared raw last mode) else none := by
  cases mode with
  | number => rfl
  | delta => cases last <;> rfl
  | rate =>
    cases last with
    | none => rfl
    | some l =>
      by_cases h : (l == 0) = true
      · have hn : ¬ Usable (some l) .rate := by simp [Usable, h]
        have hf : (some l).filter (fun l => !(l == 0)) = none := by simp [h]
        rw [if_neg hn, Mode.comparand, hf]
        rfl
      · have hu : Usable (some l) .rate := ⟨l, rfl, h⟩
        have hf : (some l).filter (fun l => !(l == 0)) = some l := by simp [Option.filter, h]
        rw [if_pos hu, Mode.comparand, hf]
        rfl

theorem holds_iff (t : Test Float) (x : Float) : t.holds x = true ↔ Accepts t x := by
  cases t <;> simp [Test.holds, Accepts]

theorem violated_eq (t : Test Float) (x : Float) : t.violated x = threshold t x := by
  cases t <;> rfl

theorem invert_eq {mode : Mode} {last : Option Float} (h : Usable last mode) (t : Float) :
    mode.invert t last = readingAt last t mode := by
  cases mode with
  | number => rfl
  | delta =>
    cases last with
    | none => cases h
    | some l => rfl
  | rate =>
    cases last with
    | none => simp [Usable] at h
    | some l => rfl

/-! ## Lists of conditions -/

/-- A condition that did not hold, with the reading at its edge. -/
def violation (raw : Float) (last : Option Float) (c : Condition × Nat) : Violation :=
  ⟨c.2, c.1, readingAt last (threshold c.1.test (compared raw last c.1.mode)) c.1.mode⟩

/-- Unless some condition holds, the violations are the conditions that can be judged. -/
theorem violations_eq (raw : Float) (last : Option Float) (cs : List Condition) :
    ∀ i, violations raw last i cs =
      if ∃ c ∈ cs, Usable last c.mode ∧ Accepts c.test (compared raw last c.mode) then none
      else some (((cs.zipIdx i).filter fun c => decide (Usable last c.1.mode)).map
        (violation raw last)) := by
  induction cs with
  | nil => intro i; simp [violations]
  | cons c cs ih =>
    intro i
    rw [violations, comparand_eq, List.zipIdx_cons]
    by_cases hu : Usable last c.mode
    · rw [if_pos hu]
      by_cases ha : Accepts c.test (compared raw last c.mode)
      · -- it stops at the first that holds
        have hx : ∃ d ∈ c :: cs, Usable last d.mode ∧ Accepts d.test (compared raw last d.mode) :=
          ⟨c, List.mem_cons_self, hu, ha⟩
        simp only [(holds_iff _ _).2 ha, if_true, if_pos hx]
      · have hx : (∃ d ∈ c :: cs,
            Usable last d.mode ∧ Accepts d.test (compared raw last d.mode)) ↔
            ∃ d ∈ cs, Usable last d.mode ∧ Accepts d.test (compared raw last d.mode) := by
          simp [ha]
        have hf : c.test.holds (compared raw last c.mode) = false := by
          rw [← Bool.not_eq_true, holds_iff]; exact ha
        simp only [hf, Bool.false_eq_true, if_false, ih, hx, hu, decide_true, List.filter_cons,
          if_true, List.map_cons]
        split
        · rfl
        · simp only [Option.map_some, violation, violated_eq, invert_eq hu]
    · have hx : (∃ d ∈ c :: cs,
          Usable last d.mode ∧ Accepts d.test (compared raw last d.mode)) ↔
          ∃ d ∈ cs, Usable last d.mode ∧ Accepts d.test (compared raw last d.mode) := by
        simp [hu]
      simp only [ih, hx, hu, decide_false, List.filter_cons, Bool.false_eq_true,
        if_false]

/-! ## Verdicts -/

/-- The action's choice before what is not finite is taken out of it. -/
def choice (r : RangeSpec) (raw : Float) (last : Option Float) : Option Float :=
  replacement r raw last (boundary r raw last)

theorem choice_filter (r : RangeSpec) (raw : Float) (last : Option Float) :
    (choice r raw last).filter Number.isFinite = substitute r raw last := by
  unfold choice replacement substitute
  cases r.action <;> rfl

theorem filter_decide {α : Type} (o : Option α) (p : α → Prop) [DecidablePred p] :
    o.filter (fun x => decide (p x)) = if ∃ x ∈ o, p x then o else none := by
  cases o with
  | none => simp
  | some x => by_cases h : p x <;> simp [Option.filter, h]

/-- A bound that is crossed is the boundary; otherwise the reading is valid. -/
theorem crossed_eq {r : RangeSpec} (form : r.isConditional = false) (raw : Float)
    (last : Option Float) :
    (Valid r raw last ∧ crossed r raw = none) ∨
      (¬ Valid r raw last ∧ ∃ b, crossed r raw = some b ∧ boundary r raw last = some b) := by
  have hvalid : Valid r raw last ↔ ¬ Below r raw ∧ ¬ Above r raw := by simp [Valid, form]
  have hcrossed : crossed r raw =
      (if Below r raw then r.minValue else none).or (if Above r raw then r.maxValue else none) := by
    unfold crossed
    rw [filter_decide, filter_decide]
    rfl
  have hboundary : boundary r raw last = if Below r raw then r.minValue else r.maxValue := by
    simp [boundary, form]
  rw [hvalid, hcrossed, hboundary]
  by_cases hb : Below r raw
  · obtain ⟨lo, hlo, -⟩ := id hb
    have hmin : r.minValue = some lo := hlo
    exact .inr ⟨fun h => h.1 hb, lo, by simp [hb, hmin], by simp [hb, hmin]⟩
  · by_cases ha : Above r raw
    · obtain ⟨hi, hhi, -⟩ := id ha
      have hmax : r.maxValue = some hi := hhi
      exact .inr ⟨fun h => h.2 ha, hi, by simp [hb, ha, hmax], by simp [hb, hmax]⟩
    · exact .inl ⟨⟨hb, ha⟩, by simp [hb, ha]⟩

theorem judgeSimple_eq {r : RangeSpec} (form : r.isConditional = false) (raw : Float)
    (last : Option Float) :
    judgeSimple r raw last =
      if Valid r raw last then .valid
      else .invalid (choice r raw last) (rejector r last) := by
  unfold judgeSimple
  rcases crossed_eq form raw last with ⟨hv, hc⟩ | ⟨hv, b, hc, hb⟩
  · rw [if_pos hv, hc]
  · have hr : rejector r last = simpleMarker := by simp [rejector, form, simpleMarker]
    rw [if_neg hv, hc, hr, choice, hb]

/-- No condition that is flagged can be judged when none is flagged at all. -/
theorem flagged_eq_none {r : RangeSpec} (h : ∀ c ∈ r.conditions, c.isDefault = false)
    (last : Option Float) : flagged r last = none := by
  unfold flagged usable
  rw [List.find?_eq_none]
  intro c hc
  have hmem : c.1 ∈ r.conditions := by
    obtain ⟨-, -, hx⟩ := List.mem_zipIdx (List.mem_filter.1 hc).1
    rw [hx]
    exact List.getElem_mem _
  rw [h c.1 hmem]
  exact Bool.false_ne_true

/-- The warning is given when no violation is flagged and no condition is. -/
theorem warns_iff {r : RangeSpec} (form : r.isConditional = true) (raw : Float)
    (last : Option Float) :
    (r.action = .boundary ∧ ((flagged r last).map (violation raw last)).isNone = true ∧
        ¬ (r.conditions.any fun c => c.isDefault) = true) ↔
      (r.isConditional = true ∧ r.action = .boundary ∧
        ∀ c ∈ r.conditions, c.isDefault = false) := by
  constructor
  · rintro ⟨haction, -, hany⟩
    refine ⟨form, haction, fun c hc => ?_⟩
    simpa using fun h => hany (List.any_eq_true.2 ⟨c, hc, h⟩)
  · rintro ⟨-, haction, hnone⟩
    refine ⟨haction, by rw [flagged_eq_none hnone]; rfl, ?_⟩
    simpa using hnone

theorem judgeConditions_eq {r : RangeSpec} (form : r.isConditional = true) (raw : Float)
    (last : Option Float) :
    judgeConditions r raw last =
      if Valid r raw last then ⟨.valid, []⟩
      else ⟨.invalid (choice r raw last) (rejector r last), warnings r⟩ := by
  have hvalid : Valid r raw last ↔
      ∃ c ∈ r.conditions, Usable last c.mode ∧ Accepts c.test (compared raw last c.mode) := by
    simp [Valid, form]
  unfold judgeConditions
  rw [violations_eq]
  by_cases hv : Valid r raw last
  · rw [if_pos (hvalid.1 hv), if_pos hv]
  · rw [if_neg (fun h => hv (hvalid.2 h)), if_neg hv, ← usable]
    -- the violation that is flagged is that of the flagged condition
    have hflag : (((usable r last).map (violation raw last)).find? fun v =>
        v.condition.isDefault) = (flagged r last).map (violation raw last) := by
      rw [List.find?_map]
      rfl
    have hboundary : ((flagged r last).map (violation raw last)).map (fun v => v.boundary) =
        boundary r raw last := by
      rw [boundary, if_pos form, Option.map_map]
      rfl
    simp only [hflag, hboundary, List.head?_map, ← Option.map_or]
    simp only [warns_iff form]
    rw [warnings, rejector, if_pos form]
    cases (flagged r last).or (usable r last).head? <;> rfl

theorem judge_eq (r : RangeSpec) (raw : Float) (last : Option Float) :
    judge r raw last =
      if Valid r raw last then ⟨.valid, []⟩
      else ⟨.invalid (choice r raw last) (rejector r last), warnings r⟩ := by
  unfold judge
  by_cases form : r.isConditional = true
  · rw [if_pos form, judgeConditions_eq form]
  · have hs : r.isConditional = false := by simpa using form
    have hw : warnings r = [] := by simp [warnings, hs]
    rw [if_neg form, judgeSimple_eq hs, hw]
    split <;> rfl

theorem verdict_eq_valid_iff (r : RangeSpec) (raw : Float) (last : Option Float) :
    (judge r raw last).verdict = .valid ↔ Valid r raw last := by
  rw [judge_eq]
  by_cases valid : Valid r raw last
  · simp [valid]
  · simp [valid]

/-! ## The stage -/

theorem bind_ofFloat? (x : Option Float) :
    x.bind Json.ofFloat? = (x.filter Number.isFinite).map fun x => .number (.real x) := by
  cases x with
  | none => rfl
  | some x =>
    by_cases h : Number.isFinite x = true
    · simp [Json.ofFloat?, Number.ofFloat?, Option.filter, h]
    · simp [Json.ofFloat?, Number.ofFloat?, Option.filter, h]

theorem markers_eq (tag : Tag) (r : RangeSpec) (value : Json) (rejector : String) :
    markers tag r value rejector = records tag r value rejector := by
  unfold markers records
  cases r.invalidAction with
  | ignore => rfl
  | save => rfl

theorem output_invalid (tag : Tag) (r : RangeSpec) (value : Json) (x : Option Float)
    (rejector : String) :
    output tag r value (.invalid x rejector) =
      emission ((x.filter Number.isFinite).map fun x => .number (.real x))
        (records tag r value rejector) := by
  rw [← bind_ofFloat?, ← markers_eq]
  dsimp only [output]
  cases x.bind Json.ofFloat? <;> cases markers tag r value rejector <;> rfl

/-- A key without blank parts is looked up and stored as it is. -/
theorem update_eq {α : Type} {k : CacheKey}
    (named : ∀ part ∈ [k.table, k.device, k.tag], Text.isBlank part = false) (cache : Cache)
    (decide : Option Float → Option Float × α) :
    cache.update k decide = .ok ((decide (cache.find? k)).2,
      match (decide (cache.find? k)).1 with
      | some x => cache.set k x
      | none => cache) := by
  have hcheck : k.check = .ok k := by
    simp only [List.mem_cons, List.not_mem_nil, or_false, forall_eq_or_imp, forall_eq] at named
    obtain ⟨htable, hdevice, htag⟩ := named
    simp [CacheKey.check, CacheKey.blankPart?, htable, hdevice, htag]
  unfold Cache.update
  rw [hcheck]
  show (match (decide (cache.find? k)).1 with
    | some x => pure ((decide (cache.find? k)).2, cache.set k x)
    | none => pure ((decide (cache.find? k)).2, cache)) = _
  cases (decide (cache.find? k)).1 <;> rfl

/-- **What validity rules mean**: given a finite number, rules of one form and a key that names
something, the stage does what the rules say, whatever was last accepted. -/
theorem handle_eq_meaning (place : Place) {tag : Tag} {r : RangeSpec} {value : Json} {raw : Float}
    (cache : Cache) (rules : tag.range = some r) (number : value.finite? = some raw)
    (oneForm : ¬ (r.hasSimpleBounds = true ∧ r.isConditional = true))
    (named : ∀ part ∈ [place.table, place.device, tag.id], Text.isBlank part = false) :
    handle place tag value cache = meaning tag r value raw (place.key tag) cache := by
  unfold handle
  have hform : (r.hasSimpleBounds && r.isConditional) = false := by
    simpa [Bool.and_eq_true] using oneForm
  simp only [rules, number, hform, Bool.false_eq_true, if_false,
    update_eq (k := place.key tag) named, judge_eq]
  unfold meaning
  by_cases hv : Valid r raw (cache.find? (place.key tag))
  · simp only [if_pos hv]
    rfl
  · simp only [if_neg hv, accepted, output_invalid, choice_filter]

/-- Steps of less than five, and rates within ten percent; the edge of a step stands in for what
goes beyond. -/
def steps : RangeSpec where
  minValue := none
  maxValue := none
  conditions :=
    [⟨none, .rate, .within (-10) 10, false⟩, ⟨some "step", .delta, .less 5, true⟩]
  action := .boundary
  fixedValue := none
  invalidAction := .save
  saveInvalidValue := true

theorem handle_steps :
    handle ⟨"boiler", "b-1"⟩ { Tag.bare "temp" with range := some steps } (.number (.real 60))
        ⟨[(⟨"boiler", "b-1", "temp"⟩, 50)]⟩ =
      { result := .ok (.fanOut (some (.number (.real 55)))
          [⟨"temp__invalid_condition", .string "step"⟩, ⟨"temp__invalid", .number (.real 60)⟩])
        cache := ⟨[(⟨"boiler", "b-1", "temp"⟩, 55)]⟩
        warnings := [] } := by
  have invalid : ¬ Valid steps 60 (some 50) := by decide +kernel
  have emitted : substitute steps 60 (some 50) = some 55 := by decide +kernel
  have rejected : rejector steps (some 50) = "step" := by decide +kernel
  have found : (⟨[(⟨"boiler", "b-1", "temp"⟩, 50)]⟩ : Cache).find?
      (Place.key ⟨"boiler", "b-1"⟩ { Tag.bare "temp" with range := some steps }) = some 50 := rfl
  have number : (Json.number (.real 60)).finite? = some 60 := by decide +kernel
  rw [handle_eq_meaning (r := steps) ⟨"boiler", "b-1"⟩ _ rfl number (by decide) (by decide)]
  dsimp only [meaning]
  rw [found, if_neg invalid, emitted, rejected]
  rfl

end DeviceLink.Range
