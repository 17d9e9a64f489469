import DeviceLink.Proofs.Gateway.Reports
import DeviceLink.Proofs.Registry.Meaning
/-!
# Preparing a sample

Before a sample is processed its tags are looked up and its values are made what they were declared
to be. Both are done once and for all. A value that was converted is of its type (`ofType_coerce`)
and stays as it is (`coerce_ofType`); a tag that was found is filed under its own id (`Filed`), so
looking it up again finds it again, even where nothing is configured for it (`resolve_resolve`).
So preparing twice is preparing once, and a caller may just as well send the tag that the registry
holds along with a value as name it only (`prepare_settles`).
-/
namespace DeviceLink

/-! ## Declared types -/

/-- The values of a declared type. -/
inductive OfType : FieldType → Json → Prop
  | number (n : Number) : OfType .number (.number n)
  | string (s : String) : OfType .string (.string s)
  | boolean (b : Bool) : OfType .boolean (.bool b)

namespace FieldType

theorem ofType_ofFloat? {x : Float} {w : Json} (h : Json.ofFloat? x = some w) :
    OfType .number w := by
  obtain ⟨n, -, rfl⟩ := Option.map_eq_some_iff.1 h
  exact .number n

/-- What is converted is of the declared type. -/
theorem ofType_coerce {t : FieldType} {v w : Json} (h : t.coerce v = some w) : OfType t w := by
  cases t with
  | number =>
    cases v with
    | number n => cases h; exact .number n
    | string s =>
      obtain ⟨x, -, made⟩ := Option.bind_eq_some_iff.1 h
      exact ofType_ofFloat? made
    | bool b => cases h; exact .number _
    | null => cases h
    | array items => cases h
    | object members => cases h
  | string =>
    cases v with
    | null => cases h
    | bool b => cases h; exact .string _
    | number n => cases h; exact .string _
    | string s => cases h; exact .string s
    | array items => cases h; exact .string _
    | object members => cases h; exact .string _
  | boolean =>
    cases v with
    | bool b => cases h; exact .boolean b
    | number n =>
      have made : (if n.toFloat == 0 then some (Json.bool false)
        else if n.toFloat == 1 then some (.bool true) else none) = some w := h
      split at made
      · cases made; exact .boolean false
      · split at made
        · cases made; exact .boolean true
        · cases made
    | string s =>
      have made : (if Text.lower (Text.trim s) = "true" ∨ Text.lower (Text.trim s) = "1" then
          some (Json.bool true)
        else if Text.lower (Text.trim s) = "false" ∨ Text.lower (Text.trim s) = "0" then
          some (.bool false)
        else none) = some w := h
      split at made
      · cases made; exact .boolean true
      · split at made
        · cases made; exact .boolean false
        · cases made
    | null => cases h
    | array items => cases h
    | object members => cases h

/-- A value that has the type stays as it is. -/
theorem coerce_ofType {t : FieldType} {v : Json} (h : OfType t v) : t.coerce v = some v := by
  cases h <;> rfl

theorem coerce_null (t : FieldType) : t.coerce .null = none := by
  cases t <;> rfl

theorem coerce_coerce (t : FieldType) (v : Json) : (t.coerce v).bind t.coerce = t.coerce v := by
  cases h : t.coerce v with
  | none => rfl
  | some w => exact coerce_ofType (ofType_coerce h)

end FieldType

/-! ## Tags -/

namespace Registry

/-- Every tag is filed under its own id. -/
def Filed (r : Registry) : Prop := ∀ device id t, r.tag device id = some t → t.id = id

theorem filed_ofDocument (d : DeviceDocument) : (ofDocument d).Filed := by
  intro device id t found
  rw [tag_ofDocument] at found
  exact DeviceDocument.id_of_tagOf found

/-- Whatever documents were loaded, and if none was. -/
theorem filed_load (documents : List DeviceDocument) :
    ∀ {s : Store}, s.registry.Filed → (documents.foldl Store.load s).registry.Filed := by
  induction documents with
  | nil => intro s filed; exact filed
  | cons d documents ih => intro s _; exact ih (filed_ofDocument d)

end Registry

namespace Gateway

variable {σ : Type}

theorem resolve_of_found {registry : Registry} {device : String} {tag t : Tag}
    (bare : tag.isBare = true) (found : registry.tag device tag.id = some t) :
    resolve registry device tag = t := by
  simp [resolve, bare, found]

/-- A tag that was looked up is not replaced by another: it has a configuration, or it is filed
under its id, or nothing is. -/
theorem resolve_resolve {registry : Registry} (filed : registry.Filed) (device : String)
    (tag : Tag) :
    resolve registry device (resolve registry device tag) = resolve registry device tag := by
  by_cases bare : tag.isBare = true
  · cases found : registry.tag device tag.id with
    | none =>
      have same : resolve registry device tag = tag := by simp [resolve, bare, found]
      rw [same, same]
    | some t =>
      rw [resolve_of_found bare found]
      by_cases bare' : t.isBare = true
      · have again : registry.tag device t.id = some t := by
          rw [filed device tag.id t found]
          exact found
        exact resolve_of_found bare' again
      · exact if_neg bare'
  · have same : resolve registry device tag = tag := if_neg bare
    rw [same, same]

/-! ## Fields -/

/-- What was looked up and converted is looked up and converted for good. -/
theorem prepareField_prepareField {registry : Registry} (filed : registry.Filed) (device : String)
    (types : List (String × FieldType)) (f : Field) :
    (prepareField registry device types f).bind (prepareField registry device types) =
      prepareField registry device types f := by
  have again := resolve_resolve filed device f.tag
  cases declared : types.lookup (resolve registry device f.tag).id with
  | none => simp [prepareField, again, declared]
  | some t =>
    have converted := t.coerce_coerce f.value
    cases value : t.coerce f.value with
    | none => simp [prepareField, declared, value]
    | some v =>
      rw [value] at converted
      have kept : t.coerce v = some v := converted
      simp [prepareField, again, declared, value, kept]

/-! ## Samples -/

theorem prepare_prepare {registry : Registry} (filed : registry.Filed) (s : Sample) :
    prepare registry (prepare registry s) = prepare registry s := by
  simp only [prepare, List.filterMap_filterMap, prepareField_prepareField filed]

/-- A field as it was, or one that only named its tag and now comes with the tag that the registry
holds. -/
inductive Inlined (registry : Registry) (device : String) (f : Field) : Field → Prop
  | kept : Inlined registry device f f
  | inlined (bare : f.tag.isBare = true) (t : Tag) (found : registry.tag device f.tag.id = some t) :
      Inlined registry device f ⟨t, f.value⟩

theorem Inlined.prepareField_eq {registry : Registry} (filed : registry.Filed) {device : String}
    {f g : Field} (h : Inlined registry device f g) (types : List (String × FieldType)) :
    prepareField registry device types g = prepareField registry device types f := by
  cases h with
  | kept => rfl
  | inlined bare t found =>
    have same : resolve registry device t = resolve registry device f.tag := by
      rw [← resolve_of_found bare found]
      exact resolve_resolve filed device f.tag
    simp only [prepareField, same]

theorem prepareFields_inlined {registry : Registry} (filed : registry.Filed) {device : String}
    {given fields : List Field} (h : List.Forall₂ (Inlined registry device) given fields)
    (types : List (String × FieldType)) :
    fields.filterMap (prepareField registry device types) =
      given.filterMap (prepareField registry device types) := by
  induction h with
  | nil => rfl
  | cons first rest ih =>
    rw [List.filterMap_cons, List.filterMap_cons, first.prepareField_eq filed, ih]

theorem prepare_inlined {registry : Registry} (filed : registry.Filed) {s : Sample}
    {fields : List Field} (h : List.Forall₂ (Inlined registry s.device) s.fields fields) :
    prepare registry { s with fields := fields } = prepare registry s := by
  simp only [prepare, prepareFields_inlined filed h]

theorem checkSample_congr (state : SessionState) {s : Sample} {fields : List Field}
    (length : fields.length = s.fields.length) :
    checkSample state { s with fields := fields } = checkSample state s := by
  have empty : fields.isEmpty = s.fields.isEmpty := by
    rw [Bool.eq_iff_iff, List.isEmpty_iff_length_eq_zero, List.isEmpty_iff_length_eq_zero, length]
  simp only [checkSample, empty]

/-- Fields that differ only in what is looked up for them come to the same. -/
theorem writeSample_inlined (send : Sender σ) (state : SessionState) {registry : Registry}
    (filed : registry.Filed) (pipeline : Pipeline) (cache : Cache) (p : σ) {s : Sample}
    {fields : List Field} (h : List.Forall₂ (Inlined registry s.device) s.fields fields) :
    writeSample send state registry pipeline cache p { s with fields := fields } =
      writeSample send state registry pipeline cache p s := by
  have length : fields.length = s.fields.length := h.length_eq.symm
  have plan : planSample registry pipeline cache { s with fields := fields } =
      planSample registry pipeline cache s := by
    simp only [planSample, prepare_inlined filed h, length]
    rfl
  simp only [writeSample, checkSample_congr state length, plan]

/-- **Preparing settles a sample.** Whatever documents were loaded: to prepare a sample again
changes nothing, and any of its fields that only name their tag may come with the tag that the
registry holds for them. Neither what the caller is told, nor the cache, nor the messages that the
platform is handed show a difference. -/
theorem prepare_settles (documents : List DeviceDocument) :
    let registry := (documents.foldl Store.load Store.empty).registry
    (∀ s, prepare registry (prepare registry s) = prepare registry s) ∧
    ∀ (send : Sender σ) (state : SessionState) (pipeline : Pipeline) (cache : Cache)
        (sent : List Outbound) (p : σ) (s : Sample) (fields : List Field),
      List.Forall₂ (Inlined registry s.device) s.fields fields →
        writeSample (recording send) state registry pipeline cache (sent, p)
            { s with fields := fields } =
          writeSample (recording send) state registry pipeline cache (sent, p) s := by
  intro registry
  have filed : registry.Filed := by
    refine Registry.filed_load documents ?_
    intro device id t found
    cases found
  refine ⟨prepare_prepare filed, fun send state pipeline cache sent p s fields inlined => ?_⟩
  exact writeSample_inlined (recording send) state filed pipeline cache (sent, p) inlined

/-! ### A tag with a configuration, and one without -/

def tenfold : Tag := { Tag.bare "temp" with scale := some 10 }

/-- A display name is no configuration. -/
def titled : Tag := { Tag.bare "mode" with name := some "Mode" }

def furnished : DeviceDocument := ⟨[⟨"boiler", ⟨[tenfold, titled]⟩, [⟨"b-1", none, ⟨[]⟩⟩]⟩]⟩

/-- A number sent for each of the two. -/
def brief : Sample where
  device := "b-1"
  sub := none
  table := none
  time := ⟨0, 0⟩
  fields := [Field.byId "temp" (.ofNat 21), Field.byId "mode" (.ofNat 3)]
  types := [("mode", .string)]

/-- What is left of it: one value is scaled, the other one is a text. -/
def briefed : ProcessedSample :=
  ⟨"boiler", "b-1", none, ⟨0, 0⟩, [⟨"temp", .number (.real 210)⟩, ⟨"mode", .string "3"⟩]⟩

theorem prepare_settles_furnished :
    let registry := ([furnished].foldl Store.load Store.empty).registry
    let full : List Field := [⟨tenfold, .ofNat 21⟩, ⟨titled, .ofNat 3⟩]
    let call (s : Sample) :=
      writeSample (recording accepting) .running registry .standard Cache.empty ([], ()) s
    List.Forall₂ (Inlined registry "b-1") brief.fields full ∧
      call { brief with fields := full } = call brief ∧
      (call brief).2.2.1 = [.point (encode (pointPayload briefed))] := by
  intro registry full call
  have inlined : List.Forall₂ (Inlined registry "b-1") brief.fields full :=
    .cons (.inlined rfl tenfold rfl) (.cons (.inlined rfl titled rfl) .nil)
  refine ⟨inlined, (prepare_settles [furnished]).2 _ _ _ _ _ _ brief full inlined, ?_⟩
  simp only [call]
  rw [Pipeline.standard_eq]
  decide +kernel

end Gateway
end DeviceLink
