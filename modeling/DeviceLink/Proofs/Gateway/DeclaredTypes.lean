import DeviceLink.Proofs.Gateway.Preparation
/-!
# Declared types hold to the end

A value is made what it was declared to be before it is processed, and stays it. The stages that
come with every pipeline apply to numbers only and make numbers of them (`isNumber_of_primary`); so
what arrives of a field at the end is of the type that it had when it set out (`arrived_ofType`).
What is left of a sample falls into one share for each of its fields (`Share`): the markers that
the rules add, and the field's own value, which is of the declared type. A field that is null, or
that cannot be converted, has no share at all (`writeSample_declared`).
-/
namespace DeviceLink

/-! ## Conversions -/

/-- What converting a value to a declared type comes to. -/
structure Coerces (t : FieldType) (v : Json) : Prop where
  typed  : ∀ w, t.coerce v = some w → OfType t w
  absent : v = .null → t.coerce v = none
  keeps  : OfType t v → t.coerce v = some v
  again  : (t.coerce v).bind t.coerce = t.coerce v

theorem coerces (t : FieldType) (v : Json) : Coerces t v where
  typed _ converted := FieldType.ofType_coerce converted
  absent null := null ▸ t.coerce_null
  keeps typed := FieldType.coerce_ofType typed
  again := t.coerce_coerce v

theorem coerce_number_flag (b : Bool) :
    (FieldType.number.coerce (.bool b)).bind FieldType.boolean.coerce = some (.bool b) := by
  have zero : (Number.toFloat (.int 0) == 0) = true := by decide +kernel
  have one : (Number.toFloat (.int 1) == 0) = false ∧ (Number.toFloat (.int 1) == 1) = true := by
    decide +kernel
  cases b with
  | false => simp [FieldType.coerce, Json.ofNat, zero]
  | true => simp [FieldType.coerce, Json.ofNat, one]

theorem coerce_string_flag (b : Bool) :
    (FieldType.string.coerce (.bool b)).bind FieldType.boolean.coerce = some (.bool b) := by
  have no : Text.lower (Text.trim "false") = "false" := by decide +kernel
  have yes : Text.lower (Text.trim "true") = "true" := by decide +kernel
  cases b with
  | false => simp [FieldType.coerce, Json.render, no]
  | true => simp [FieldType.coerce, Json.render, yes]

/-! ## Stages -/

theorem isNumber_of_ofFloat? {x : Float} {w : Json} (made : Json.ofFloat? x = some w) :
    w.isNumber = true := by
  cases FieldType.ofType_ofFloat? made
  rfl

/-- The stages that come with every pipeline are asked about numbers. -/
theorem isNumber_of_applies {s : Stage} (builtIn : s.IsBuiltIn) {tag : Tag} {v : Json}
    (applies : s.applies tag v = true) : v.isNumber = true := by
  cases s with
  | linearMapping => exact (Bool.and_eq_true_iff.1 applies).1
  | scaleRound => exact (Bool.and_eq_true_iff.1 applies).1
  | rangeValidity => exact (Bool.and_eq_true_iff.1 applies).2
  | external stage priority => exact builtIn.elim

theorem isNumber_linear {tag : Tag} {v w : Json} (number : v.isNumber = true)
    (emitted : primary (.ok (Linear.handle tag v)) = some w) : w.isNumber = true := by
  unfold Linear.handle at emitted
  split at emitted
  · cases emitted
    exact number
  · split at emitted
    · cases emitted
    · split at emitted
      · rename_i made
        cases emitted
        exact isNumber_of_ofFloat? made
      · cases emitted

theorem isNumber_scale {tag : Tag} {v w : Json}
    (emitted : primary (.ok (Scale.handle tag v)) = some w) : w.isNumber = true := by
  unfold Scale.handle at emitted
  split at emitted
  · cases emitted
  · split at emitted
    · rename_i made
      cases emitted
      exact isNumber_of_ofFloat? made
    · cases emitted

theorem isNumber_range {place : Place} {tag : Tag} {v w : Json} {cache : Cache}
    (number : v.isNumber = true)
    (emitted : primary (Range.handle place tag v cache).result = some w) : w.isNumber = true := by
  rcases Range.handle_cases place tag v with ⟨result, h, hresult⟩ | ⟨r, raw, -, -, h⟩
  · rw [h] at emitted
    rcases hresult with ⟨-, rfl⟩ | rfl | ⟨e, rfl⟩
    · cases emitted
      exact number
    · cases emitted
    · cases emitted
  · rw [h] at emitted
    dsimp only at emitted
    rw [Range.primary_output] at emitted
    split at emitted
    · cases emitted
      exact number
    · obtain ⟨x, -, rfl⟩ := Option.map_eq_some_iff.1 emitted
      rfl

/-- And they make numbers of them. -/
theorem isNumber_of_primary {s : Stage} (builtIn : s.IsBuiltIn) {place : Place} {tag : Tag}
    {v w : Json} {cache : Cache} (number : v.isNumber = true)
    (emitted : primary (s.handle place tag v cache).result = some w) : w.isNumber = true := by
  cases s with
  | linearMapping => exact isNumber_linear number emitted
  | scaleRound => exact isNumber_scale emitted
  | rangeValidity => exact isNumber_range number emitted
  | external stage priority => exact builtIn.elim

namespace Pipeline

/-- A number arrives as a number, and anything else as what it was. -/
theorem kind_of_arrived (place : Place) (tag : Tag) {stages : List Stage}
    (builtIn : ∀ s ∈ stages, s.IsBuiltIn) :
    ∀ {v w : Json} {cache : Cache}, arrived place tag stages v cache = some w →
      (v.isNumber = true → w.isNumber = true) ∧ (v.isNumber = false → w = v) := by
  induction stages with
  | nil =>
    intro v w cache h
    rw [arrived] at h
    split at h
    · cases h
    · cases h
      exact ⟨id, fun _ => rfl⟩
  | cons s rest ih =>
    intro v w cache h
    have later := fun {v w : Json} {cache : Cache} =>
      @ih (fun s hs => builtIn s (List.mem_cons_of_mem _ hs)) v w cache
    rw [arrived] at h
    split at h
    · cases h
    · split at h
      · rename_i applies
        have own := builtIn s List.mem_cons_self
        have number := isNumber_of_applies own applies
        dsimp only at h
        split at h
        · rename_i next emitted
          have numberNext := isNumber_of_primary own number emitted
          refine ⟨fun _ => (later h).1 numberNext, fun other => ?_⟩
          rw [number] at other
          cases other
        · cases h
      · exact later h

theorem arrived_ofType (place : Place) (tag : Tag) {stages : List Stage}
    (builtIn : ∀ s ∈ stages, s.IsBuiltIn) {t : FieldType} {v w : Json} {cache : Cache}
    (typed : OfType t v) (h : arrived place tag stages v cache = some w) : OfType t w := by
  obtain ⟨numbers, others⟩ := kind_of_arrived place tag builtIn h
  cases typed with
  | number n =>
    cases w with
    | number n => exact .number n
    | _ => cases numbers rfl
  | string s => exact others rfl ▸ .string s
  | boolean b => exact others rfl ▸ .boolean b

/-! ## Shares -/

/-- What is left of a field of a sample: the markers that the rules add, and its own value. -/
structure Share where
  tag     : Tag
  markers : List ProcessedField
  value   : Option Json

def Share.fields (x : Share) : List ProcessedField :=
  x.markers ++ (x.value.map (ProcessedField.mk x.tag.id)).toList

/-- An id under which the rules may send something beside the value of a tag. -/
def Marks (tag : Tag) (id : String) : Prop :=
  id = tag.id ++ Range.conditionSuffix ∨ id = tag.id ++ Range.invalidSuffix

theorem Range.marks_of_mem_extras {place : Place} {tag : Tag} {v : Json} {cache : Cache}
    {m : ProcessedField} (added : m ∈ extras (Range.handle place tag v cache).result) :
    Marks tag m.id := by
  rcases Range.extras_handle place tag v cache with nothing | ⟨r, rejector, recorded⟩
  · rw [nothing] at added
    cases added
  · rw [recorded] at added
    have named := (Range.ids_records tag r v rejector).subset
      (List.mem_map_of_mem (f := ProcessedField.id) added)
    simpa [Marks] using named

/-- Of the stages that come with every pipeline only the rules add something. -/
theorem marks_of_mem_adds {place : Place} {q : Consultation} (builtIn : q.stage.IsBuiltIn)
    {m : ProcessedField} (added : m ∈ q.adds place) : Marks q.tag m.id := by
  obtain ⟨tag, stage, v, cache⟩ := q
  cases stage with
  | linearMapping =>
    rw [Consultation.adds, Stage.handle, extras_linear] at added
    cases added
  | scaleRound =>
    rw [Consultation.adds, Stage.handle, extras_scale] at added
    cases added
  | rangeValidity => exact Range.marks_of_mem_extras added
  | external stage priority => exact builtIn.elim

/-- The share of a field that reaches the stages. -/
def share (place : Place) (stages : List Stage) (f : Field) (cache : Cache) : Share where
  tag := f.tag
  markers := (consulted place f.tag stages f.value cache).flatMap (Consultation.adds place)
  value := arrived place f.tag stages f.value cache

theorem fields_runField (p : Pipeline) (place : Place) (f : Field) (cache : Cache) :
    (p.runField place cache f).fields = (share place p.stages f cache).fields :=
  fields_runStages place f.tag p.stages f.value cache

/-- A field that is null has no share. -/
theorem fields_share_null (place : Place) (stages : List Stage) {f : Field} (cache : Cache)
    (null : f.value.isNull = true) : (share place stages f cache).fields = [] := by
  cases stages with
  | nil => simp [share, Share.fields, consulted, arrived, null]
  | cons s rest => simp [share, Share.fields, consulted, arrived, null]

theorem markers_share (place : Place) {stages : List Stage} (builtIn : ∀ s ∈ stages, s.IsBuiltIn)
    (f : Field) (cache : Cache) :
    ∀ m ∈ (share place stages f cache).markers, Marks f.tag m.id ∧ m.value.isNull = false := by
  intro m hm
  obtain ⟨q, hq, added⟩ := List.mem_flatMap.1 hm
  obtain ⟨stage, tag, present, -⟩ := of_mem_consulted place f.tag stages hq
  have own := builtIn q.stage stage
  exact ⟨tag ▸ marks_of_mem_adds own added, present_of_mem_adds place own present m added⟩

end Pipeline

namespace Gateway

variable {σ : Type}

/-- What a sample declares about the share of one of its fields. -/
structure Heeds (registry : Registry) (s : Sample) (f : Field) (x : Pipeline.Share) : Prop where
  tag      : x.tag = resolve registry s.device f.tag
  typed    : ∀ t v, s.types.lookup x.tag.id = some t → x.value = some v → OfType t v
  present  : ∀ v, x.value = some v → v.isNull = false
  markers  : ∀ m ∈ x.markers, Pipeline.Marks x.tag m.id ∧ m.value.isNull = false
  withheld : f.value.isNull = true ∨
    (∃ t, s.types.lookup x.tag.id = some t ∧ t.coerce f.value = none) → x.fields = []

/-- A field that cannot be what it was declared to be is not processed at all. -/
theorem heeds_nothing (registry : Registry) (s : Sample) (f : Field) :
    Heeds registry s f ⟨resolve registry s.device f.tag, [], none⟩ where
  tag := rfl
  typed _ _ _ h := nomatch h
  present _ h := nomatch h
  markers _ h := nomatch h
  withheld _ := rfl

theorem heeds_share (place : Place) {stages : List Stage} (builtIn : ∀ s ∈ stages, s.IsBuiltIn)
    {registry : Registry} {s : Sample} {f g : Field} (cache : Cache)
    (prepared : prepareField registry s.device s.types f = some g) :
    Heeds registry s f (Pipeline.share place stages g cache) := by
  have present : ∀ v, (Pipeline.share place stages g cache).value = some v → v.isNull = false :=
    fun v => Pipeline.present_of_arrived place g.tag stages
  have markers := Pipeline.markers_share place builtIn g cache
  unfold prepareField at prepared
  dsimp only at prepared
  split at prepared
  · rename_i undeclared
    cases prepared
    constructor
    case tag => rfl
    case typed =>
      intro t v declared
      cases undeclared.symm.trans declared
    case present => exact present
    case markers => exact markers
    case withheld =>
      rintro (null | ⟨t, declared, -⟩)
      · exact Pipeline.fields_share_null place stages cache null
      · cases undeclared.symm.trans declared
  · rename_i t declared
    obtain ⟨w, converted, rfl⟩ := Option.map_eq_some_iff.1 prepared
    constructor
    case tag => rfl
    case typed =>
      intro t' v declared' arrived
      cases declared.symm.trans declared'
      exact Pipeline.arrived_ofType place _ builtIn (FieldType.ofType_coerce converted) arrived
    case present => exact present
    case markers => exact markers
    case withheld =>
      rintro (null | ⟨t', declared', failed⟩)
      · cases value : f.value with
        | null =>
          rw [value, t.coerce_null] at converted
          cases converted
        | _ =>
          rw [value] at null
          cases null
      · cases declared.symm.trans declared'
        cases failed.symm.trans converted

/-- What is left of the fields of a sample falls into one share for each. -/
theorem runFields_shares (p : Pipeline) (builtIn : ∀ s ∈ p.stages, s.IsBuiltIn) (place : Place)
    (registry : Registry) (s : Sample) (fields : List Field) :
    ∀ cache, ∃ shares, List.Forall₂ (Heeds registry s) fields shares ∧
      (p.runFields place (fields.filterMap (prepareField registry s.device s.types)) cache).fields =
        shares.flatMap Pipeline.Share.fields := by
  induction fields with
  | nil => exact fun _ => ⟨[], .nil, rfl⟩
  | cons f fields ih =>
    intro cache
    cases prepared : prepareField registry s.device s.types f with
    | none =>
      obtain ⟨shares, heeded, left⟩ := ih cache
      refine ⟨_, .cons (heeds_nothing registry s f) heeded, ?_⟩
      rw [List.filterMap_cons_none prepared, left]
      rfl
    | some g =>
      obtain ⟨shares, heeded, left⟩ := ih (p.runField place cache g).cache
      refine ⟨_, .cons (heeds_share place builtIn cache prepared) heeded, ?_⟩
      rw [List.filterMap_cons_some prepared, List.flatMap_cons, ← Pipeline.fields_runField, ← left]
      rfl

/-! ## Messages -/

/-- A message with these members, made of what is left of a sample, holds what was declared. -/
structure Declared (registry : Registry) (s : Sample) (left : List ProcessedField)
    (members : List (String × Json)) (shares : List Pipeline.Share) : Prop where
  each  : List.Forall₂ (Heeds registry s) s.fields shares
  left  : left = shares.flatMap Pipeline.Share.fields
  held  : ∀ id v, members.lookup id = some v →
    v.isNull = false ∧ ∃ x ∈ shares, ⟨id, v⟩ ∈ x.fields
  typed : ∀ id v t, members.lookup id = some v → s.types.lookup id = some t →
    (∀ x ∈ shares, ¬ Pipeline.Marks x.tag id) → OfType t v

theorem Heeds.present_fields {registry : Registry} {s : Sample} {f : Field} {x : Pipeline.Share}
    (h : Heeds registry s f x) : ∀ m ∈ x.fields, m.value.isNull = false := by
  intro m hm
  rcases List.mem_append.1 hm with marker | own
  · exact (h.markers m marker).2
  · obtain ⟨v, hv, rfl⟩ := Option.map_eq_some_iff.1 (Option.mem_toList.1 own)
    exact h.present v hv

/-- Whatever is not called like a marker is the value of the tag. -/
theorem Heeds.own {registry : Registry} {s : Sample} {f : Field} {x : Pipeline.Share}
    (h : Heeds registry s f x) {id : String} {v : Json} (left : ⟨id, v⟩ ∈ x.fields)
    (noMarker : ¬ Pipeline.Marks x.tag id) : id = x.tag.id ∧ x.value = some v := by
  rcases List.mem_append.1 left with marker | own
  · exact absurd (h.markers _ marker).1 noMarker
  · obtain ⟨w, hw, same⟩ := Option.map_eq_some_iff.1 (Option.mem_toList.1 own)
    cases same
    exact ⟨rfl, hw⟩

theorem heeds_of_mem {registry : Registry} {s : Sample} {fields : List Field}
    {shares : List Pipeline.Share} (h : List.Forall₂ (Heeds registry s) fields shares) :
    ∀ x ∈ shares, ∃ f, Heeds registry s f x := by
  induction h with
  | nil => exact fun x hx => nomatch hx
  | cons first rest ih =>
    intro x hx
    rcases List.mem_cons.1 hx with rfl | hx
    · exact ⟨_, first⟩
    · exact ih x hx

theorem mem_of_latest {left : List ProcessedField} {id : String} {v : Json}
    (h : latest left id = some v) : ⟨id, v⟩ ∈ left := by
  obtain ⟨m, found, rfl⟩ := Option.map_eq_some_iff.1 h
  have named : m.id = id := by simpa using List.find?_some found
  subst named
  exact List.mem_reverse.1 (List.mem_of_find?_eq_some found)

theorem declared (p : Pipeline) (builtIn : ∀ s ∈ p.stages, s.IsBuiltIn) (registry : Registry)
    (table : String) (cache : Cache) (s : Sample) :
    let left := (p.process table (prepare registry s) cache).1.fields
    ∃ shares, Declared registry s left (Json.sortMembers (left.map fun f => (f.id, f.value)))
      shares := by
  intro left
  obtain ⟨shares, heeded, parts⟩ :=
    runFields_shares p builtIn ⟨table, s.device⟩ registry s s.fields cache
  have parts : left = shares.flatMap Pipeline.Share.fields := parts
  have held : ∀ id v, (Json.sortMembers (left.map fun f => (f.id, f.value))).lookup id = some v →
      v.isNull = false ∧ ∃ x ∈ shares, ⟨id, v⟩ ∈ x.fields := by
    intro id v found
    rw [(counted s.fields left).values] at found
    have mem := mem_of_latest found
    rw [parts] at mem
    obtain ⟨x, hx, here⟩ := List.mem_flatMap.1 mem
    obtain ⟨f, heeds⟩ := heeds_of_mem heeded x hx
    exact ⟨heeds.present_fields _ here, x, hx, here⟩
  refine ⟨shares, heeded, parts, held, fun id v t found type noMarker => ?_⟩
  obtain ⟨-, x, hx, here⟩ := held id v found
  obtain ⟨f, heeds⟩ := heeds_of_mem heeded x hx
  obtain ⟨rfl, value⟩ := heeds.own here (noMarker x hx)
  exact heeds.typed t v type value

/-- **Declared types hold to the end.** What is converted to a type is of that type, to convert it
again changes nothing, and neither does it change what had the type before; null cannot be
converted. So, whatever the sample and the registry, with the stages that come with every pipeline:
the message that is handed over, if any, holds no null, it holds nothing of a field that is null or
that cannot be converted, and the value of a tag with a declared type is of that type. -/
theorem writeSample_declared :
    (∀ t v, Coerces t v) ∧
    (∀ b, (FieldType.number.coerce (.bool b)).bind FieldType.boolean.coerce = some (.bool b) ∧
      (FieldType.string.coerce (.bool b)).bind FieldType.boolean.coerce = some (.bool b)) ∧
    ∀ (send : Sender σ) (state : SessionState) (registry : Registry) (cache : Cache)
        (sent : List Outbound) (p : σ) (s : Sample),
      let call := writeSample (recording send) state registry .standard cache (sent, p) s
      call.2.2.1 = sent ∨ ∃ table members shares,
        let processed := (Pipeline.standard.process table (prepare registry s) cache).1
        call.2.2.1 = sent ++ [.point (encode (pointPayload processed))] ∧
          (pointPayload processed).member? "fields" = some (.object members) ∧
          Declared registry s processed.fields members shares := by
  refine ⟨coerces, fun b => ⟨coerce_number_flag b, coerce_string_flag b⟩, ?_⟩
  intro send state registry cache sent p s call
  have builtIn : ∀ stage ∈ Pipeline.standard.stages, stage.IsBuiltIn := by
    rw [Pipeline.standard_stages]
    simp [Stage.IsBuiltIn]
  rcases writeSample_cases send state registry .standard cache sent p s with
    ⟨silent, -⟩ | ⟨-, table, -, -, handed, -⟩
  · exact .inl silent
  · obtain ⟨shares, all⟩ := declared .standard builtIn registry table cache s
    exact .inr ⟨table, _, shares, handed, fields_pointPayload _, all⟩

/-- Three texts: one is a truth value, one is a number, and one is neither. -/
example :
    let s : Sample := ⟨"b-1", none, some "boiler", ⟨0, 0⟩,
      [Field.byId "running" (.string "1"), Field.byId "setpoint" (.string "42.5"),
        Field.byId "mode" (.string "auto")],
      [("running", .boolean), ("setpoint", .number), ("mode", .number)]⟩
    (writeSample (recording accepting) .running Registry.empty .standard Cache.empty ([], ())
      s).2.2.1 = [.point (encode (pointPayload ⟨"boiler", "b-1", none, ⟨0, 0⟩,
        [⟨"running", .bool true⟩, ⟨"setpoint", .number (.real 42.5)⟩]⟩))] := by
  rw [Pipeline.standard_eq]
  decide +kernel

end Gateway
end DeviceLink
