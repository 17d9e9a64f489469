import DeviceLink.Proofs.Gateway.DeclaredTypes
/-!
# One group for each field

Stages may end a field, hand its value on or add fields beside it, so the list of processed fields
is longer or shorter than that of the fields that went in. It falls into groups nevertheless, one
for each field and in their order (`process_shaped`): nothing for a value that is absent, the value
itself where it is no number, and for a number at most the two markers of a rejection and the number
that goes on, in this order.

The stages before the rules touch neither the list nor the cache (`runStages_arrived`), and what the
rules add is the record of a rejection, which they keep of just the values that they reject
(`grouped_rules`).
-/
namespace DeviceLink.Pipeline

/-! ## The fields of a sample one by one -/

/-- A field that was processed: the cache that it found, and what came of it. -/
structure Passage where
  field : Field
  found : Cache
  run   : PipelineRun

/-- The fields one after the other, each with the cache that those before it left. -/
def passages (p : Pipeline) (place : Place) : List Field → Cache → List Passage
  | [], _ => []
  | f :: rest, c =>
    let run := p.runField place c f
    ⟨f, c, run⟩ :: p.passages place rest run.cache

theorem map_field_passages (p : Pipeline) (place : Place) (fields : List Field) :
    ∀ c, (p.passages place fields c).map Passage.field = fields := by
  induction fields with
  | nil => exact fun _ => rfl
  | cons f fields ih =>
    intro c
    exact congrArg (f :: ·) (ih _)

theorem fields_passages (p : Pipeline) (place : Place) (fields : List Field) :
    ∀ c, (p.runFields place fields c).fields =
      (p.passages place fields c).flatMap fun x => x.run.fields := by
  induction fields with
  | nil => exact fun _ => rfl
  | cons f fields ih =>
    intro c
    rw [runFields, passages, List.flatMap_cons, ih]

theorem of_mem_passages (p : Pipeline) (place : Place) (fields : List Field) :
    ∀ {c x}, x ∈ p.passages place fields c → x.run = p.runField place x.found x.field := by
  induction fields with
  | nil =>
    intro c x mem
    cases mem
  | cons f fields ih =>
    intro c x mem
    rcases List.mem_cons.1 mem with rfl | mem
    · rfl
    · exact ih mem

/-! ## What is sent of a number -/

/-- The name of what rejected a value and that value, where they are recorded, and the value that
goes on. -/
structure Group where
  rejectedBy : Option String
  rejected   : Option Json
  value      : Option Json

/-- In the order in which they are sent. -/
def Group.fields (id : String) (g : Group) : List ProcessedField :=
  (g.rejectedBy.map fun name => ⟨id ++ "__invalid_condition", .string name⟩).toList ++
    (g.rejected.map fun v => ⟨id ++ "__invalid", v⟩).toList ++
    (g.value.map (ProcessedField.mk id)).toList

/-- The rules of a field apply to the value `v` with which it gets to them, reject it, and keep a
record of that. -/
structure Recorded (place : Place) (f : Field) (found : Cache) (r : RangeSpec) (v : Json) :
    Prop where
  rules   : f.tag.range = some r
  saves   : r.invalidAction = .save
  oneForm : ¬ (r.hasSimpleBounds = true ∧ r.isConditional = true)
  keyed   : ∀ part ∈ [place.table, place.device, f.tag.id], Text.isBlank part = false
  reaches : arrived place f.tag [.linearMapping, .scaleRound] f.value found = some v
  rejects : ∃ raw, v.finite? = some raw ∧
    ¬ Range.Valid r raw (found.find? (place.key f.tag))

/-- The group of a number. -/
structure Grouped (place : Place) (f : Field) (found : Cache) (g : Group) : Prop where
  number     : ∀ v, g.value = some v → v.isNumber = true
  named      : g.rejected.isSome = true → g.rejectedBy.isSome = true
  recorded   : g.rejectedBy.isSome = true ↔ ∃ r v, Recorded place f found r v
  rejectedBy : ∀ r v, Recorded place f found r v →
    g.rejectedBy = some (Range.rejector r (found.find? (place.key f.tag)))
  rejected   : ∀ r v, Recorded place f found r v →
    g.rejected = if r.saveInvalidValue then some v else none

section
variable {place : Place} {f : Field} {found : Cache}

/-- Without a record there is the value alone, if it goes on. -/
theorem grouped_alone (nothing : ∀ r v, ¬ Recorded place f found r v) {w : Option Json}
    (number : ∀ v, w = some v → v.isNumber = true) : Grouped place f found ⟨none, none, w⟩ where
  number := number
  named := nofun
  recorded := by
    constructor
    · exact nofun
    · rintro ⟨r, v, recorded⟩
      exact absurd recorded (nothing r v)
  rejectedBy r v recorded := absurd recorded (nothing r v)
  rejected r v recorded := absurd recorded (nothing r v)

/-- A record names what rejected the value. -/
theorem grouped_recorded {r : RangeSpec} {v : Json} (recorded : Recorded place f found r v)
    {w : Option Json} (number : ∀ v, w = some v → v.isNumber = true) :
    Grouped place f found ⟨some (Range.rejector r (found.find? (place.key f.tag))),
      if r.saveInvalidValue then some v else none, w⟩ where
  number := number
  named _ := rfl
  recorded := ⟨fun _ => ⟨r, v, recorded⟩, fun _ => rfl⟩
  rejectedBy r' v' other := by
    cases recorded.rules.symm.trans other.rules
    rfl
  rejected r' v' other := by
    cases recorded.rules.symm.trans other.rules
    cases recorded.reaches.symm.trans other.reaches
    rfl

end

/-! ## Stages -/

theorem runStages_null (place : Place) (tag : Tag) (stages : List Stage) {value : Json}
    (null : value.isNull = true) (c : Cache) :
    runStages place tag stages value c = ⟨[], c, []⟩ := by
  cases stages with
  | nil => rw [runStages, if_pos null]
  | cons s rest => rw [runStages, if_pos null]

/-- A value that no stage applies to is handed through. -/
theorem runStages_unasked (place : Place) (tag : Tag) {stages : List Stage} {value : Json}
    (present : value.isNull = false) (unasked : ∀ s ∈ stages, s.applies tag value = false)
    (c : Cache) : runStages place tag stages value c = ⟨[⟨tag.id, value⟩], c, []⟩ := by
  induction stages with
  | nil => simp [runStages, present]
  | cons s rest ih =>
    have own := unasked s List.mem_cons_self
    simp only [runStages, present, own, Bool.false_eq_true, if_false]
    exact ih fun s hs => unasked s (List.mem_cons_of_mem _ hs)

/-- Before the rules a field is ended, or it gets to what comes after with the value that arrives
there. -/
theorem runStages_arrived (place : Place) (tag : Tag) {before : List Stage}
    (arithmetic : ∀ s ∈ before, s = .linearMapping ∨ s = .scaleRound) (rest : List Stage)
    (c : Cache) : ∀ value,
      (arrived place tag before value c = none ∧
        runStages place tag (before ++ rest) value c = ⟨[], c, []⟩) ∨
      ∃ w, arrived place tag before value c = some w ∧
        runStages place tag (before ++ rest) value c = runStages place tag rest w c := by
  induction before with
  | nil =>
    intro value
    rw [arrived]
    by_cases null : value.isNull = true
    · rw [if_pos null]
      exact .inl ⟨rfl, runStages_null place tag rest null c⟩
    · rw [if_neg null]
      exact .inr ⟨value, rfl, rfl⟩
  | cons s before ih =>
    intro value
    have later := ih fun s hs => arithmetic s (List.mem_cons_of_mem _ hs)
    obtain ⟨out, handled, outcome⟩ :=
      handle_arithmetic (arithmetic s List.mem_cons_self) place tag value
    rw [List.cons_append, runStages_cons, arrived, handled]
    by_cases null : value.isNull = true
    · rw [if_pos null, if_pos null]
      exact .inl ⟨rfl, rfl⟩
    · rw [if_neg null, if_neg null]
      by_cases applies : s.applies tag value = true
      · rw [if_pos applies, if_pos applies]
        rcases outcome with rfl | ⟨next, rfl⟩
        · exact .inl ⟨rfl, rfl⟩
        · exact later next
      · rw [if_neg applies, if_neg applies]
        exact later value

theorem present_of_number {v : Json} (number : v.isNumber = true) : v.isNull = false := by
  cases v with
  | null => cases number
  | _ => rfl

/-- After the rules nothing holds back what they let through. -/
theorem fields_rules (place : Place) {tag : Tag} {v : Json} (c : Cache)
    (number : v.isNumber = true) (ruled : tag.range.isSome = true) :
    (runStages place tag [.rangeValidity] v c).fields =
      extras (Range.handle place tag v c).result ++
        ((primary (Range.handle place tag v c).result).map (ProcessedField.mk tag.id)).toList := by
  have present := present_of_number number
  have applies : Stage.rangeValidity.applies tag v = true := by
    simp [Stage.applies, Range.applies, ruled, number]
  have asked : consulted place tag [.rangeValidity] v c = [⟨tag, .rangeValidity, v, c⟩] := by
    rw [consulted, if_neg (by simp [present]), if_pos applies]
    dsimp only
    split
    · rfl
    · rfl
  have own : arrived place tag [.rangeValidity] v c =
      primary (Range.handle place tag v c).result := by
    rw [arrived, if_neg (by simp [present]), if_pos applies]
    dsimp only [Stage.handle]
    split
    · next next emitted =>
      have kept := present_of_number (isNumber_range number emitted)
      rw [emitted, arrived, if_neg (by simp [kept])]
    · next silent => exact silent.symm
  rw [fields_runStages, asked, own]
  simp [Consultation.adds, Stage.handle]

section
variable {place : Place} {f : Field} {found : Cache} {v : Json}

/-- What the rules record they send beside what they emit. -/
theorem extras_recorded {r : RangeSpec} (recorded : Recorded place f found r v) :
    extras (Range.handle place f.tag v found).result =
      Range.records f.tag r v (Range.rejector r (found.find? (place.key f.tag))) := by
  obtain ⟨raw, finite, rejects⟩ := recorded.rejects
  rw [Range.handle_eq_meaning place found recorded.rules finite recorded.oneForm recorded.keyed,
    Range.meaning]
  dsimp only
  rw [if_neg rejects, Range.extras_emission]

/-- They send nothing else. -/
theorem extras_unrecorded
    (reaches : arrived place f.tag [.linearMapping, .scaleRound] f.value found = some v)
    (nothing : ∀ r, ¬ Recorded place f found r v) :
    extras (Range.handle place f.tag v found).result = [] := by
  cases rules : f.tag.range with
  | none => simp only [Range.handle, rules, extras]
  | some r =>
    cases finite : v.finite? with
    | none => simp only [Range.handle, rules, finite, extras]
    | some raw =>
      by_cases oneForm : r.hasSimpleBounds = true ∧ r.isConditional = true
      · have both : (r.hasSimpleBounds && r.isConditional) = true := Bool.and_eq_true_iff.2 oneForm
        simp only [Range.handle, rules, finite, both, if_true, extras]
      · cases key : (place.key f.tag).blankPart? with
        | some part =>
          have one : (r.hasSimpleBounds && r.isConditional) = false := by simpa using oneForm
          simp only [Range.handle_blank rules finite one key, extras]
        | none =>
          have keyed := CacheKey.named_of_blankPart? key
          rw [Range.handle_eq_meaning place found rules finite oneForm keyed, Range.meaning]
          dsimp only
          by_cases valid : Range.Valid r raw (found.find? (place.key f.tag))
          · rw [if_pos valid]
            rfl
          · -- a rejection that is not recorded is one that is to be ignored
            have ignored : r.invalidAction ≠ .save := fun saves =>
              nothing r ⟨rules, saves, oneForm, keyed, reaches, raw, finite, valid⟩
            rw [if_neg valid, Range.extras_emission, Range.records, if_neg ignored]

/-- What is sent of a number that gets to the rules. -/
theorem grouped_rules
    (reaches : arrived place f.tag [.linearMapping, .scaleRound] f.value found = some v)
    (number : v.isNumber = true) :
    ∃ g : Group, (runStages place f.tag [.rangeValidity] v found).fields = g.fields f.tag.id ∧
      Grouped place f found g := by
  cases rules : f.tag.range with
  | none =>
    have unasked : ∀ s ∈ [Stage.rangeValidity], s.applies f.tag v = false := by
      simp [Stage.applies, Range.applies, rules]
    rw [runStages_unasked place f.tag (present_of_number number) unasked]
    refine ⟨⟨none, none, some v⟩, rfl, grouped_alone (fun r w recorded => ?_) ?_⟩
    · cases rules.symm.trans recorded.rules
    · rintro w ⟨⟩
      exact number
  | some r =>
    have goesOn : ∀ w, primary (Range.handle place f.tag v found).result = some w →
        w.isNumber = true := fun w => isNumber_range number
    rw [fields_rules place found number (by rw [rules]; rfl)]
    by_cases kept : ∃ r, Recorded place f found r v
    · obtain ⟨r, recorded⟩ := kept
      refine ⟨_, ?_, grouped_recorded recorded goesOn⟩
      rw [extras_recorded recorded, Range.records, if_pos recorded.saves]
      cases r.saveInvalidValue with
      | false => rfl
      | true => rfl
    · have nothing : ∀ r w, ¬ Recorded place f found r w := by
        intro r w recorded
        cases reaches.symm.trans recorded.reaches
        exact kept ⟨r, recorded⟩
      rw [extras_unrecorded reaches fun r => nothing r v]
      exact ⟨⟨none, none, _⟩, rfl, grouped_alone nothing goesOn⟩

end

/-! ## One group for each field -/

/-- What a field comes to, according to the kind of its value. -/
structure Shaped (place : Place) (x : Passage) : Prop where
  absent : x.field.value.isNull = true → x.run.fields = [] ∧ x.run.cache = x.found
  other  : x.field.value.isNull = false → x.field.value.isNumber = false →
    x.run.fields = [⟨x.field.tag.id, x.field.value⟩] ∧ x.run.cache = x.found
  bare   : x.field.value.isNumber = true → x.field.tag.isBare = true →
    x.run.fields = [⟨x.field.tag.id, x.field.value⟩] ∧ x.run.cache = x.found
  number : x.field.value.isNumber = true →
    ∃ g : Group, x.run.fields = g.fields x.field.tag.id ∧ Grouped place x.field x.found g

theorem builtIn_standard : ∀ s ∈ standard.stages, s.IsBuiltIn := by
  rw [standard_stages]
  simp [Stage.IsBuiltIn]

/-- Nothing is asked about a tag without configuration. -/
theorem applies_bare {s : Stage} (builtIn : s.IsBuiltIn) {tag : Tag} (bare : tag.isBare = true)
    (v : Json) : s.applies tag v = false := by
  simp only [Tag.isBare, Bool.and_eq_true, Option.isNone_iff_eq_none] at bare
  obtain ⟨⟨⟨mapping, range⟩, scale⟩, fixed⟩ := bare
  cases s with
  | linearMapping => simp [Stage.applies, Linear.applies, Tag.bounds, mapping]
  | scaleRound => simp [Stage.applies, Scale.applies, scale, fixed]
  | rangeValidity => simp [Stage.applies, Range.applies, range]
  | external stage priority => exact builtIn.elim

theorem grouped_number (place : Place) (f : Field) (found : Cache)
    (number : f.value.isNumber = true) :
    ∃ g : Group, (standard.runField place found f).fields = g.fields f.tag.id ∧
      Grouped place f found g := by
  have arithmetic : ∀ s ∈ [Stage.linearMapping, .scaleRound],
      s = .linearMapping ∨ s = .scaleRound := by simp
  rw [runField, standard_stages]
  rcases runStages_arrived place f.tag arithmetic [.rangeValidity] found f.value with
    ⟨nowhere, ended⟩ | ⟨v, reaches, handed⟩
  · refine ⟨⟨none, none, none⟩, congrArg PipelineRun.fields ended,
      grouped_alone (fun r v recorded => ?_) (by simp)⟩
    cases nowhere.symm.trans recorded.reaches
  · have builtIn : ∀ s ∈ [Stage.linearMapping, .scaleRound], s.IsBuiltIn := by
      simp [Stage.IsBuiltIn]
    have numberThen := (kind_of_arrived place f.tag builtIn reaches).1 number
    obtain ⟨g, fields, grouped⟩ := grouped_rules reaches numberThen
    exact ⟨g, (congrArg PipelineRun.fields handed).trans fields, grouped⟩

theorem shaped (place : Place) {x : Passage}
    (ran : x.run = standard.runField place x.found x.field) : Shaped place x where
  absent null := by
    rw [ran, runField, runStages_null place _ _ null]
    exact ⟨rfl, rfl⟩
  other present other := by
    have unasked : ∀ s ∈ standard.stages, s.applies x.field.tag x.field.value = false := by
      intro s hs
      by_contra applies
      rw [isNumber_of_applies (builtIn_standard s hs) (by simpa using applies)] at other
      cases other
    rw [ran, runField, runStages_unasked place _ present unasked]
    exact ⟨rfl, rfl⟩
  bare number bare := by
    have unasked : ∀ s ∈ standard.stages, s.applies x.field.tag x.field.value = false :=
      fun s hs => applies_bare (builtIn_standard s hs) bare _
    rw [ran, runField, runStages_unasked place _ (present_of_number number) unasked]
    exact ⟨rfl, rfl⟩
  number number := by
    rw [ran]
    exact grouped_number place x.field x.found number

/-- **One group for each field.** Whatever the table, the sample and the cache, the stages that
come with every pipeline take the fields one after the other, each with the cache that those before
it left. What is processed are the groups of the fields in their order: none of a value that is
absent, the value itself where it is no number or its tag has no configuration, and for any other
number at most the name of what rejected it, the value that was rejected and the number that goes
on. Table, device, sub device and time are those of the call. -/
theorem process_shaped (table : String) (s : Sample) (cache : Cache) :
    let place : Place := ⟨table, s.device⟩
    let run := standard.process table s cache
    let passed := standard.passages place s.fields cache
    run.1.table = table ∧ run.1.device = s.device ∧ run.1.sub = s.sub ∧ run.1.time = s.time ∧
      passed.map Passage.field = s.fields ∧
      run.1.fields = passed.flatMap (fun x => x.run.fields) ∧
      ∀ x ∈ passed, Shaped place x := by
  intro place run passed
  exact ⟨rfl, rfl, rfl, rfl, map_field_passages standard place s.fields cache,
    fields_passages standard place s.fields cache,
    fun x mem => shaped place (of_mem_passages standard place s.fields mem)⟩

/-- Nothing measured, a text, a number without configuration and one above its limit of forty. -/
def oneOfEach : Sample :=
  let limit : RangeSpec := ⟨none, some 40, [], .boundary, none, .save, true⟩
  ⟨"b-1", none, some "boiler", ⟨0, 0⟩,
    [⟨{ Tag.bare "level" with fixed := some 1 }, .null⟩,
      ⟨{ Tag.bare "mode" with range := some limit }, .string "auto"⟩,
      ⟨Tag.bare "load", .number (.real 0.125)⟩,
      ⟨{ Tag.bare "temp" with range := some limit }, .number (.real 60)⟩], []⟩

theorem process_shaped_oneOfEach :
    (standard.process "boiler" oneOfEach Cache.empty).1.fields.map ProcessedField.id =
        ["mode", "load", "temp__invalid_condition", "temp__invalid", "temp"] ∧
      (standard.passages ⟨"boiler", "b-1"⟩ oneOfEach.fields Cache.empty).map
          (fun x => x.run.fields.length) = [0, 1, 1, 3] ∧
      ∀ x ∈ standard.passages ⟨"boiler", "b-1"⟩ oneOfEach.fields Cache.empty,
        Shaped ⟨"boiler", "b-1"⟩ x := by
  obtain ⟨-, -, -, -, -, -, each⟩ := process_shaped "boiler" oneOfEach Cache.empty
  refine ⟨?_, ?_, each⟩
  · rw [standard_eq]
    decide +kernel
  · rw [standard_eq]
    decide +kernel

end DeviceLink.Pipeline
