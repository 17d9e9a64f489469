import DeviceLink.Proofs.Pipeline.Memory
/-!
# Where processed fields come from

A processed field has one of two origins: a stage added it while some field went through the
stages, or it is that field itself, with the value that it had at the end (`fields_runStages`).
The pipeline looks at the second kind before it lets them go, so none of them is absent; what the
stages that come with it add is never absent either. A stage from outside may add whatever it
likes, and nobody looks at that: so absent values are sent exactly if such a stage adds them
(`process_absent`, `added_absence`).
-/
namespace DeviceLink

/-- The fields that a stage adds beside the value. -/
def extras : Except StageError StageOutput → List ProcessedField
  | .ok (.fanOut _ extra) => extra
  | _ => []

/-- A stage that is asked about a value, and the cache by then. -/
structure Consultation where
  tag   : Tag
  stage : Stage
  value : Json
  cache : Cache

/-- What the stage adds on that occasion. -/
def Consultation.adds (place : Place) (q : Consultation) : List ProcessedField :=
  extras (q.stage.handle place q.tag q.value q.cache).result

namespace Pipeline

/-! ## One field -/

/-- The stages that are asked about a field, one after the other. -/
def consulted (place : Place) (tag : Tag) : List Stage → Json → Cache → List Consultation
  | [], _, _ => []
  | s :: rest, value, cache =>
    if value.isNull then []
    else if s.applies tag value then
      let run := s.handle place tag value cache
      ⟨tag, s, value, cache⟩ ::
        match primary run.result with
        | some next => consulted place tag rest next run.cache
        | none => []
    else consulted place tag rest value cache

/-- The value of the field at the end, if it gets there with one. -/
def arrived (place : Place) (tag : Tag) : List Stage → Json → Cache → Option Json
  | [], value, _ => if value.isNull then none else some value
  | s :: rest, value, cache =>
    if value.isNull then none
    else if s.applies tag value then
      let run := s.handle place tag value cache
      match primary run.result with
      | some next => arrived place tag rest next run.cache
      | none => none
    else arrived place tag rest value cache

/-- What stages add comes in the order in which they are asked, and the field itself last. -/
theorem fields_runStages (place : Place) (tag : Tag) (stages : List Stage) :
    ∀ value cache, (runStages place tag stages value cache).fields =
      (consulted place tag stages value cache).flatMap (Consultation.adds place) ++
        ((arrived place tag stages value cache).map (ProcessedField.mk tag.id)).toList := by
  induction stages with
  | nil =>
    intro value cache
    by_cases null : value.isNull = true
    · simp [runStages, consulted, arrived, null]
    · simp [runStages, consulted, arrived, null]
  | cons s rest ih =>
    intro value cache
    rw [runStages_cons, consulted, arrived]
    by_cases null : value.isNull = true
    · simp [null]
    · rw [if_neg null, if_neg null, if_neg null]
      by_cases applies : s.applies tag value = true
      · rw [if_pos applies, if_pos applies, if_pos applies, List.flatMap_cons]
        dsimp only
        rw [Consultation.adds]
        obtain ⟨result, after, warnings⟩ := s.handle place tag value cache
        rcases result with e | (next | - | ⟨_ | next, extra⟩)
        · rfl
        · exact ih next after
        · rfl
        · simp [proceed, StageRun.parts, primary, extras]
        · simp [proceed, StageRun.parts, primary, extras, ih]
      · rw [if_neg applies, if_neg applies, if_neg applies]
        exact ih value cache

theorem present_of_arrived (place : Place) (tag : Tag) (stages : List Stage) :
    ∀ {value : Json} {cache : Cache} {v : Json},
      arrived place tag stages value cache = some v → v.isNull = false := by
  induction stages with
  | nil =>
    intro value cache v h
    rw [arrived] at h
    by_cases null : value.isNull = true
    · rw [if_pos null] at h
      cases h
    · rw [if_neg null] at h
      cases h
      simpa using null
  | cons s rest ih =>
    intro value cache v h
    rw [arrived] at h
    split at h
    · cases h
    · split at h
      · dsimp only at h
        split at h
        · exact ih h
        · cases h
      · exact ih h

/-- Only stages of the pipeline are asked, and only where they apply to a value that is there. -/
theorem of_mem_consulted (place : Place) (tag : Tag) (stages : List Stage) :
    ∀ {value : Json} {cache : Cache} {q : Consultation},
      q ∈ consulted place tag stages value cache →
        q.stage ∈ stages ∧ q.tag = tag ∧ q.value.isNull = false ∧
          q.stage.applies q.tag q.value = true := by
  induction stages with
  | nil =>
    intro value cache q h
    cases h
  | cons s rest ih =>
    intro value cache q h
    rw [consulted] at h
    by_cases null : value.isNull = true
    · rw [if_pos null] at h
      cases h
    · rw [if_neg null] at h
      have later : ∀ {next after}, q ∈ consulted place tag rest next after →
          q.stage ∈ s :: rest ∧ q.tag = tag ∧ q.value.isNull = false ∧
            q.stage.applies q.tag q.value = true := by
        intro next after h
        obtain ⟨mem, others⟩ := ih h
        exact ⟨List.mem_cons_of_mem s mem, others⟩
      by_cases applies : s.applies tag value = true
      · rw [if_pos applies] at h
        rcases List.mem_cons.1 h with rfl | h
        · exact ⟨List.mem_cons_self, rfl, by simpa using null, applies⟩
        · split at h
          · exact later h
          · cases h
      · rw [if_neg applies] at h
        exact later h

end Pipeline

/-! ## Stages that come with every pipeline -/

theorem extras_linear (tag : Tag) (value : Json) : extras (.ok (Linear.handle tag value)) = [] := by
  unfold Linear.handle
  split
  · rfl
  · split
    · rfl
    · split
      · rfl
      · rfl

theorem extras_scale (tag : Tag) (value : Json) : extras (.ok (Scale.handle tag value)) = [] := by
  unfold Scale.handle
  split
  · rfl
  · split
    · rfl
    · rfl

namespace Range

theorem extras_emission (v : Option Json) (fields : List ProcessedField) :
    extras (.ok (emission v fields)) = fields := by
  cases v with
  | none => cases fields <;> rfl
  | some w => cases fields <;> rfl

/-- The two markers are never called the same. -/
theorem condition_ne_invalid (a b : String) : a ++ conditionSuffix ≠ b ++ invalidSuffix := by
  intro same
  have last := congrArg (fun s => s.toList.getLast?) same
  simp [conditionSuffix, invalidSuffix] at last

/-- Markers hold a name, and the value that was rejected. -/
theorem present_of_mem_records {tag : Tag} {r : RangeSpec} {value : Json} {rejector : String}
    (present : value.isNull = false) :
    ∀ x ∈ records tag r value rejector, x.value.isNull = false := by
  intro x hx
  unfold records at hx
  by_cases save : r.invalidAction = .save
  · rw [if_pos save] at hx
    rcases List.mem_cons.1 hx with rfl | hx
    · rfl
    · by_cases wanted : r.saveInvalidValue = true
      · rw [if_pos wanted, List.mem_singleton] at hx
        rw [hx]
        exact present
      · rw [if_neg wanted] at hx
        cases hx
  · rw [if_neg save] at hx
    cases hx

/-- The rules add nothing, or the record of a rejection. -/
theorem extras_handle (place : Place) (tag : Tag) (value : Json) (cache : Cache) :
    extras (handle place tag value cache).result = [] ∨ ∃ r rejector,
      extras (handle place tag value cache).result = records tag r value rejector := by
  rcases handle_cases place tag value with ⟨result, h, hresult⟩ | ⟨r, raw, -, -, h⟩
  · rw [h]
    rcases hresult with ⟨-, rfl⟩ | rfl | ⟨e, rfl⟩
    · exact .inl rfl
    · exact .inl rfl
    · exact .inl rfl
  · rw [h]
    dsimp only
    cases (judge r raw (cache.find? (place.key tag))).verdict with
    | valid => exact .inl rfl
    | invalid replacement rejectedBy =>
      rw [output_invalid, extras_emission]
      exact .inr ⟨r, rejectedBy, rfl⟩

theorem present_of_mem_extras (place : Place) (tag : Tag) {value : Json} (cache : Cache)
    (present : value.isNull = false) :
    ∀ x ∈ extras (handle place tag value cache).result, x.value.isNull = false := by
  intro x hx
  rcases extras_handle place tag value cache with nothing | ⟨r, rejector, recorded⟩
  · rw [nothing] at hx
    cases hx
  · rw [recorded] at hx
    exact present_of_mem_records present x hx

end Range

theorem Stage.builtIn_or_external (s : Stage) :
    s.IsBuiltIn ∨ ∃ e priority, s = .external e priority := by
  cases s with
  | linearMapping => exact .inl trivial
  | scaleRound => exact .inl trivial
  | rangeValidity => exact .inl trivial
  | external e priority => exact .inr ⟨e, priority, rfl⟩

theorem present_of_mem_adds (place : Place) {q : Consultation} (builtIn : q.stage.IsBuiltIn)
    (present : q.value.isNull = false) : ∀ x ∈ q.adds place, x.value.isNull = false := by
  intro x hx
  obtain ⟨tag, stage, value, cache⟩ := q
  cases stage with
  | linearMapping =>
    have nothing : Consultation.adds place ⟨tag, .linearMapping, value, cache⟩ = [] :=
      extras_linear tag value
    rw [nothing] at hx
    cases hx
  | scaleRound =>
    have nothing : Consultation.adds place ⟨tag, .scaleRound, value, cache⟩ = [] :=
      extras_scale tag value
    rw [nothing] at hx
    cases hx
  | rangeValidity => exact Range.present_of_mem_extras place tag cache present x hx
  | external stage priority => exact builtIn.elim

/-! ## Samples -/

namespace Pipeline

/-- All consultations of stages about the fields of a sample. -/
def consultations (p : Pipeline) (place : Place) : List Field → Cache → List Consultation
  | [], _ => []
  | f :: rest, cache =>
    consulted place f.tag p.stages f.value cache ++
      p.consultations place rest (p.runField place cache f).cache

/-- A field that is absent was added by a stage. -/
theorem mem_runFields_iff (p : Pipeline) (place : Place) {x : ProcessedField}
    (absent : x.value.isNull = true) (fields : List Field) :
    ∀ cache, x ∈ (p.runFields place fields cache).fields ↔
      ∃ q ∈ p.consultations place fields cache, x ∈ q.adds place := by
  induction fields with
  | nil =>
    intro cache
    simp [runFields, consultations]
  | cons f fields ih =>
    intro cache
    have own : x ∉ ((arrived place f.tag p.stages f.value cache).map
        (ProcessedField.mk f.tag.id)).toList := by
      intro hx
      obtain ⟨v, hv, rfl⟩ := Option.map_eq_some_iff.1 (Option.mem_toList.1 hx)
      have present : v.isNull = false := present_of_arrived place f.tag p.stages hv
      cases absent.symm.trans present
    have head : x ∈ (p.runField place cache f).fields ↔
        ∃ q ∈ consulted place f.tag p.stages f.value cache, x ∈ q.adds place := by
      rw [runField, fields_runStages, List.mem_append, List.mem_flatMap]
      exact or_iff_left own
    rw [runFields, consultations]
    dsimp only
    rw [List.mem_append, head, ih]
    constructor
    · rintro (⟨q, hq, hx⟩ | ⟨q, hq, hx⟩)
      · exact ⟨q, List.mem_append_left _ hq, hx⟩
      · exact ⟨q, List.mem_append_right _ hq, hx⟩
    · rintro ⟨q, hq, hx⟩
      rcases List.mem_append.1 hq with hq | hq
      · exact .inl ⟨q, hq, hx⟩
      · exact .inr ⟨q, hq, hx⟩

theorem of_mem_consultations (p : Pipeline) (place : Place) (fields : List Field) :
    ∀ {cache : Cache} {q : Consultation}, q ∈ p.consultations place fields cache →
      q.stage ∈ p.stages ∧ (∃ f ∈ fields, f.tag = q.tag) ∧ q.value.isNull = false ∧
        q.stage.applies q.tag q.value = true := by
  induction fields with
  | nil =>
    intro cache q hq
    cases hq
  | cons f fields ih =>
    intro cache q hq
    rcases List.mem_append.1 hq with hq | hq
    · obtain ⟨stage, tag, others⟩ := of_mem_consulted place f.tag p.stages hq
      exact ⟨stage, ⟨f, List.mem_cons_self, tag.symm⟩, others⟩
    · obtain ⟨stage, ⟨g, hg, tag⟩, others⟩ := ih hq
      exact ⟨stage, ⟨g, List.mem_cons_of_mem f hg, tag⟩, others⟩

/-- **Where absent values come from**: whatever the stages are, of each field its own value comes
last and is there, and all others were added by stages. So an absent value in a processed sample
is one that a stage from outside added, which applied to a value that was there; and whatever such
a stage adds is in the sample. The stages that come with every pipeline add nothing absent. -/
theorem process_absent (p : Pipeline) (table : String) (s : Sample) (cache : Cache) :
    let place : Place := ⟨table, s.device⟩
    (∀ f c, (p.runField place c f).fields =
        (consulted place f.tag p.stages f.value c).flatMap (Consultation.adds place) ++
          ((arrived place f.tag p.stages f.value c).map (ProcessedField.mk f.tag.id)).toList ∧
      ∀ v, arrived place f.tag p.stages f.value c = some v → v.isNull = false) ∧
    (∀ q ∈ p.consultations place s.fields cache, q.stage ∈ p.stages ∧
      (∃ f ∈ s.fields, f.tag = q.tag) ∧ q.value.isNull = false ∧
      q.stage.applies q.tag q.value = true) ∧
    (∀ x, x.value.isNull = true →
      (x ∈ (p.process table s cache).1.fields ↔
        ∃ q ∈ p.consultations place s.fields cache,
          (∃ e priority, q.stage = .external e priority) ∧ x ∈ q.adds place)) ∧
    ((∀ stage ∈ p.stages, stage.IsBuiltIn) →
      ∀ x ∈ (p.process table s cache).1.fields, x.value.isNull = false) := by
  intro place
  have asked : ∀ q ∈ p.consultations place s.fields cache, q.stage ∈ p.stages ∧
      (∃ f ∈ s.fields, f.tag = q.tag) ∧ q.value.isNull = false ∧
      q.stage.applies q.tag q.value = true :=
    fun q hq => of_mem_consultations p place s.fields hq
  have origin : ∀ x, x.value.isNull = true →
      (x ∈ (p.process table s cache).1.fields ↔
        ∃ q ∈ p.consultations place s.fields cache,
          (∃ e priority, q.stage = .external e priority) ∧ x ∈ q.adds place) := by
    intro x absent
    refine (mem_runFields_iff p place absent s.fields cache).trans ?_
    constructor
    · rintro ⟨q, hq, hx⟩
      rcases q.stage.builtIn_or_external with builtIn | external
      · have present := present_of_mem_adds place builtIn (asked q hq).2.2.1 x hx
        cases absent.symm.trans present
      · exact ⟨q, hq, external, hx⟩
    · rintro ⟨q, hq, -, hx⟩
      exact ⟨q, hq, hx⟩
  refine ⟨fun f c => ?_, asked, origin, fun builtIn x hx => ?_⟩
  · exact ⟨fields_runStages place f.tag p.stages f.value c,
      fun v => present_of_arrived place f.tag p.stages⟩
  · cases absent : x.value.isNull with
    | false => rfl
    | true =>
      obtain ⟨q, hq, ⟨e, priority, stage⟩, -⟩ := (origin x absent).1 hx
      have contrary : (Stage.external e priority).IsBuiltIn :=
        stage ▸ builtIn q.stage (asked q hq).1
      exact contrary.elim

/-! ### A stage that adds what is not there -/

/-- Hands values on and adds a field without one. -/
def leaky : ExternalStage where
  name := "leaky"
  applies := fun _ _ => true
  handle := fun _ tag value cache =>
    (.ok (.fanOut (some value) [⟨tag.id ++ "_raw", .null⟩]), cache)

/-- A reading of a boiler. -/
def leaked : Sample := ⟨"b-1", none, some "boiler", ⟨0, 0⟩, [Field.byId "temp" (.ofNat 21)], []⟩

def leakyPipeline : Pipeline := empty.withStage leaky 0

theorem leakyPipeline_stages : leakyPipeline.stages = [.external leaky 0] := by
  simp [leakyPipeline, withStage, register, empty]

/-- The stage is asked about the reading, and nothing of what it adds is lost. -/
theorem process_absent_leaky :
    let absence : ProcessedField := ⟨"temp_raw", .null⟩
    absence.value.isNull = true ∧
      absence ∈ (leakyPipeline.process "boiler" leaked Cache.empty).1.fields ∧
      ∀ x ∈ (standard.process "boiler" leaked Cache.empty).1.fields, x.value.isNull = false := by
  intro absence
  have builtIn : ∀ stage ∈ standard.stages, stage.IsBuiltIn := by
    rw [standard_stages]
    simp [Stage.IsBuiltIn]
  have asked : ⟨Tag.bare "temp", .external leaky 0, .ofNat 21, Cache.empty⟩ ∈
      leakyPipeline.consultations ⟨"boiler", "b-1"⟩ leaked.fields Cache.empty := by
    refine List.mem_append_left _ ?_
    rw [leakyPipeline_stages]
    exact List.mem_cons_self
  have added : absence ∈ (leakyPipeline.process "boiler" leaked Cache.empty).1.fields :=
    ((process_absent leakyPipeline "boiler" leaked Cache.empty).2.2.1 absence rfl).2
      ⟨_, asked, ⟨leaky, 0, rfl⟩, List.mem_cons_self⟩
  exact ⟨rfl, added, (process_absent standard "boiler" leaked Cache.empty).2.2.2 builtIn⟩

/-- Nobody looks at what stages from outside add. -/
theorem added_absence :
    ¬ ∀ (p : Pipeline) (table : String) (s : Sample) (cache : Cache),
      ∀ x ∈ (p.process table s cache).1.fields, x.value.isNull = false := by
  intro claim
  have added : (⟨"temp_raw", .null⟩ : ProcessedField) ∈
      (leakyPipeline.process "boiler" leaked Cache.empty).1.fields := by
    refine List.mem_append_left _ ?_
    rw [runField, leakyPipeline_stages]
    exact List.mem_cons_self
  cases claim _ _ _ _ _ added

end Pipeline
end DeviceLink
