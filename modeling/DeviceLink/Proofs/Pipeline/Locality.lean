import DeviceLink.Pipeline.Basic
import DeviceLink.Proofs.Pipeline.Validity
/-!
# Every key for itself

One cache goes through all fields of all samples, whoever sends them. Yet what comes of a reading
depends on its own tag and value, on what was remembered under its key to begin with, and on the
earlier readings of that key: any other readings may be put in, left out or moved about
(`process_local`).

A stage touches the cache in one place only (`handle_cases`): it looks at the entry of its field
and stores there or not at all. `Confined` says this of any computation over a cache; it passes
from stages to fields, and by induction over a history, dropping whatever belongs to other keys,
to everything that is processed.
-/
namespace DeviceLink

/-! ## One entry -/

/-- Stores what was accepted, if anything was. -/
def Cache.accept (c : Cache) (k : CacheKey) (x : Option Float) : Cache :=
  match x with
  | some x => c.set k x
  | none => c

theorem Cache.find?_accept (c : Cache) (k k' : CacheKey) (x : Option Float) :
    (c.accept k x).find? k' = if k' = k then x.or (c.find? k) else c.find? k' := by
  cases x with
  | none =>
    by_cases h : k' = k
    · simp [accept, h]
    · simp [accept, h]
  | some x => simp [accept, find?_set]

theorem CacheKey.named_of_blankPart? {k : CacheKey} (h : k.blankPart? = none) :
    ∀ part ∈ [k.table, k.device, k.tag], Text.isBlank part = false := by
  unfold blankPart? at h
  by_cases htable : Text.isBlank k.table = true
  · simp [htable] at h
  · by_cases hdevice : Text.isBlank k.device = true
    · simp [htable, hdevice] at h
    · by_cases htag : Text.isBlank k.tag = true
      · simp [htable, hdevice, htag] at h
      · simp [htable, hdevice, htag]

/-- A computation over a cache that looks at one entry and changes no other. -/
structure Confined {α : Type} (k : CacheKey) (f : Cache → α × Cache) : Prop where
  looks : ∀ c c', c.find? k = c'.find? k →
    (f c).1 = (f c').1 ∧ (f c).2.find? k = (f c').2.find? k
  keeps : ∀ c k', k' ≠ k → (f c).2.find? k' = c.find? k'

/-- Whoever leaves the cache alone is confined to any entry. -/
theorem confined_pure {α : Type} (k : CacheKey) (a : α) : Confined k fun c => (a, c) :=
  ⟨fun _ _ h => ⟨rfl, h⟩, fun _ _ _ => rfl⟩

/-- One look at an entry, and one decision what to store there. -/
theorem confined_accept {α : Type} (k : CacheKey) (a : Option Float → α)
    (next : Option Float → Option Float) :
    Confined k fun c => (a (c.find? k), c.accept k (next (c.find? k))) := by
  constructor
  · intro c c' h
    simp only [Cache.find?_accept, h, if_true, and_self]
  · intro c k' hk
    simp only [Cache.find?_accept, if_neg hk]

/-- One after the other: the second may depend on what the first said. -/
theorem Confined.bind {α β : Type} {k : CacheKey} {f : Cache → α × Cache}
    {g : α → Cache → β × Cache} (hf : Confined k f) (hg : ∀ a, Confined k (g a)) :
    Confined k fun c => g (f c).1 (f c).2 := by
  constructor
  · intro c c' h
    obtain ⟨hsame, hentry⟩ := hf.looks c c' h
    simp only [hsame]
    exact (hg _).looks _ _ hentry
  · intro c k' hk
    rw [(hg _).keeps _ k' hk, hf.keeps c k' hk]

theorem Confined.map {α β : Type} {k : CacheKey} {f : Cache → α × Cache} (hf : Confined k f)
    (h : α → β) : Confined k fun c => (h (f c).1, (f c).2) :=
  hf.bind (g := fun a c => (h a, c)) fun _ => confined_pure k _

/-! ## Stages -/

namespace Range

/-- A finite number is judged, and what is accepted is stored, where the rules are of one form and
the key names something. -/
theorem handle_judged {place : Place} {tag : Tag} {r : RangeSpec} {value : Json} {raw : Float}
    (rules : tag.range = some r) (number : value.finite? = some raw)
    (oneForm : (r.hasSimpleBounds && r.isConditional) = false)
    (named : (place.key tag).blankPart? = none) :
    handle place tag value = fun cache =>
      ⟨.ok (output tag r value (judge r raw (cache.find? (place.key tag))).verdict),
        cache.accept (place.key tag)
          (accepted raw (judge r raw (cache.find? (place.key tag))).verdict),
        (judge r raw (cache.find? (place.key tag))).warnings⟩ := by
  funext cache
  simp only [handle, rules, number, oneForm,
    update_eq (k := place.key tag) (CacheKey.named_of_blankPart? named)]
  rfl

/-- A key with a blank part costs the field. -/
theorem handle_blank {place : Place} {tag : Tag} {r : RangeSpec} {value : Json} {raw : Float}
    {part : KeyPart} (rules : tag.range = some r) (number : value.finite? = some raw)
    (oneForm : (r.hasSimpleBounds && r.isConditional) = false)
    (blank : (place.key tag).blankPart? = some part) :
    handle place tag value = fun cache => ⟨.error (.cache (.blankKey part)), cache, []⟩ := by
  funext cache
  have hcheck : (place.key tag).check = .error (.blankKey part) := by
    simp [CacheKey.check, blank]
  simp only [handle, rules, number, oneForm, Cache.update, hcheck]
  rfl

/-- All that the rules can do to a cache: nothing, or one look at the entry of the field and one
decision. -/
theorem handle_cases (place : Place) (tag : Tag) (value : Json) :
    (∃ result, (handle place tag value = fun cache => ⟨result, cache, []⟩) ∧
      (tag.range = none ∧ result = .ok (.value value) ∨
        result = .ok .dropped ∨ ∃ e, result = .error e)) ∨
    ∃ r raw, tag.range = some r ∧ value.finite? = some raw ∧
      handle place tag value = fun cache =>
        ⟨.ok (output tag r value (judge r raw (cache.find? (place.key tag))).verdict),
          cache.accept (place.key tag)
            (accepted raw (judge r raw (cache.find? (place.key tag))).verdict),
          (judge r raw (cache.find? (place.key tag))).warnings⟩ := by
  cases hr : tag.range with
  | none => exact .inl ⟨.ok (.value value), by funext cache; simp [handle, hr], .inl ⟨rfl, rfl⟩⟩
  | some r =>
    cases hv : value.finite? with
    | none => exact .inl ⟨.ok .dropped, by funext cache; simp [handle, hr, hv], .inr (.inl rfl)⟩
    | some raw =>
      by_cases hform : (r.hasSimpleBounds && r.isConditional) = true
      · refine .inl ⟨.error (.configuration tag.id bothForms), ?_, .inr (.inr ⟨_, rfl⟩)⟩
        funext cache
        simp only [handle, hr, hv, hform, if_true]
      · have oneForm : (r.hasSimpleBounds && r.isConditional) = false := by simpa using hform
        cases hk : (place.key tag).blankPart? with
        | some part =>
          exact .inl ⟨_, handle_blank hr hv oneForm hk, .inr (.inr ⟨_, rfl⟩)⟩
        | none => exact .inr ⟨r, raw, rfl, rfl, handle_judged hr hv oneForm hk⟩

end Range

/-- What a stage says of a value, and the cache that it leaves. -/
def StageRun.parts (r : StageRun) : (Except StageError StageOutput × List Warning) × Cache :=
  ((r.result, r.warnings), r.cache)

/-- The stages that come with every pipeline. -/
def Stage.IsBuiltIn : Stage → Prop
  | .external _ _ => False
  | _ => True

theorem handle_confined {s : Stage} (builtIn : s.IsBuiltIn) (place : Place) (tag : Tag)
    (value : Json) : Confined (place.key tag) fun c => (s.handle place tag value c).parts := by
  cases s with
  | linearMapping => exact confined_pure _ (Except.ok (Linear.handle tag value), [])
  | scaleRound => exact confined_pure _ (Except.ok (Scale.handle tag value), [])
  | rangeValidity =>
    rcases Range.handle_cases place tag value with ⟨result, h, -⟩ | ⟨r, raw, -, -, h⟩
    · simp only [Stage.handle, h]
      exact confined_pure _ (result, [])
    · simp only [Stage.handle, h]
      exact confined_accept (place.key tag)
        (fun last => (Except.ok (Range.output tag r value (Range.judge r raw last).verdict),
          (Range.judge r raw last).warnings))
        fun last => Range.accepted raw (Range.judge r raw last).verdict
  | external stage priority => exact builtIn.elim

/-! ## Fields -/

def PipelineRun.parts (r : PipelineRun) : (List ProcessedField × List Warning) × Cache :=
  ((r.fields, r.warnings), r.cache)

namespace Pipeline

/-- What becomes of a field once a stage has said its word. -/
def proceed (place : Place) (tag : Tag) (rest : List Stage) :
    Except StageError StageOutput × List Warning → Cache → PipelineRun
  | (.error e, warnings), c => ⟨[], c, warnings ++ [.fieldDiscarded e]⟩
  | (.ok .dropped, warnings), c => ⟨[], c, warnings⟩
  | (.ok (.fanOut none extra), warnings), c => ⟨extra, c, warnings⟩
  | (.ok (.value next), warnings), c =>
    let tail := runStages place tag rest next c
    ⟨tail.fields, tail.cache, warnings ++ tail.warnings⟩
  | (.ok (.fanOut (some next) extra), warnings), c =>
    let tail := runStages place tag rest next c
    ⟨extra ++ tail.fields, tail.cache, warnings ++ tail.warnings⟩

theorem runStages_cons (place : Place) (tag : Tag) (s : Stage) (rest : List Stage) (value : Json)
    (c : Cache) :
    runStages place tag (s :: rest) value c =
      if value.isNull then ⟨[], c, []⟩
      else if s.applies tag value then
        proceed place tag rest (s.handle place tag value c).parts.1
          (s.handle place tag value c).parts.2
      else runStages place tag rest value c := by
  rw [runStages]
  split
  · rfl
  · split
    · obtain ⟨result, cache, warnings⟩ := s.handle place tag value c
      rcases result with e | (j | - | ⟨_ | next, extra⟩) <;> rfl
    · rfl

theorem runStages_confined (place : Place) (tag : Tag) {stages : List Stage}
    (builtIn : ∀ s ∈ stages, s.IsBuiltIn) (value : Json) :
    Confined (place.key tag) fun c => (runStages place tag stages value c).parts := by
  induction stages generalizing value with
  | nil =>
    exact confined_pure _ (if value.isNull then [] else [ProcessedField.mk tag.id value], [])
  | cons s rest ih =>
    have hs := handle_confined (builtIn s List.mem_cons_self) place tag value
    have hrest := ih fun s hs => builtIn s (List.mem_cons_of_mem _ hs)
    have hnext : ∀ said, Confined (place.key tag) fun c =>
        (proceed place tag rest said c).parts := by
      rintro ⟨e | (next | - | ⟨_ | next, extra⟩), warnings⟩
      · exact confined_pure _ ([], warnings ++ [.fieldDiscarded e])
      · exact (hrest next).map fun a => (a.1, warnings ++ a.2)
      · exact confined_pure _ ([], warnings)
      · exact confined_pure _ (extra, warnings)
      · exact (hrest next).map fun a => (extra ++ a.1, warnings ++ a.2)
    simp only [runStages_cons]
    split
    · exact confined_pure _ ([], [])
    · split
      · exact hs.bind hnext
      · exact hrest value

/-- The stages before the rules keep out of the cache and drop a value or hand one on. -/
theorem handle_arithmetic {s : Stage} (arithmetic : s = .linearMapping ∨ s = .scaleRound)
    (place : Place) (tag : Tag) (value : Json) :
    ∃ out, (∀ c, s.handle place tag value c = ⟨.ok out, c, []⟩) ∧
      (out = .dropped ∨ ∃ next, out = .value next) := by
  rcases arithmetic with rfl | rfl
  · refine ⟨Linear.handle tag value, fun _ => rfl, ?_⟩
    unfold Linear.handle
    split
    · exact .inr ⟨_, rfl⟩
    · split
      · exact .inl rfl
      · split
        · exact .inr ⟨_, rfl⟩
        · exact .inl rfl
  · refine ⟨Scale.handle tag value, fun _ => rfl, ?_⟩
    unfold Scale.handle
    split
    · exact .inl rfl
    · split
      · exact .inr ⟨_, rfl⟩
      · exact .inl rfl

/-- So they end a field, or leave it to the stages after them. -/
theorem runStages_arithmetic (place : Place) (tag : Tag) {s : Stage} (rest : List Stage)
    (arithmetic : s = .linearMapping ∨ s = .scaleRound) (value : Json) :
    (∀ c, runStages place tag (s :: rest) value c = ⟨[], c, []⟩) ∨
      ∃ next, ∀ c, runStages place tag (s :: rest) value c = runStages place tag rest next c := by
  obtain ⟨out, hout, hcases⟩ := handle_arithmetic arithmetic place tag value
  simp only [runStages_cons, hout]
  by_cases hnull : value.isNull = true
  · exact .inl fun c => by rw [if_pos hnull]
  · by_cases happlies : s.applies tag value = true
    · simp only [if_neg hnull, if_pos happlies]
      rcases hcases with rfl | ⟨next, rfl⟩
      · exact .inl fun c => rfl
      · exact .inr ⟨next, fun c => rfl⟩
    · exact .inr ⟨value, fun c => by rw [if_neg hnull, if_neg happlies]⟩

theorem standard_stages :
    standard.stages = [.linearMapping, .scaleRound, .rangeValidity] := by
  simp [standard, register, empty, List.mergeSort_of_pairwise, Stage.priority]

theorem standard_eq : standard = ⟨[.linearMapping, .scaleRound, .rangeValidity]⟩ :=
  congrArg Pipeline.mk standard_stages

/-- A field comes to nothing before the rules, or it reaches them with a value that does not
depend on the cache. -/
theorem runField_standard (place : Place) (f : Field) :
    (∀ c, standard.runField place c f = ⟨[], c, []⟩) ∨
      ∃ value, ∀ c, standard.runField place c f =
        runStages place f.tag [.rangeValidity] value c := by
  simp only [runField, standard_stages]
  rcases runStages_arithmetic place f.tag [.scaleRound, .rangeValidity] (.inl rfl) f.value with
    h | ⟨scaled, h⟩
  · exact .inl h
  · simp only [h]
    exact runStages_arithmetic place f.tag [.rangeValidity] (.inr rfl) scaled

end Pipeline

/-! ## Histories -/

/-- A field to be processed, and whose it is. -/
structure Reading where
  place : Place
  field : Field

def Reading.key (x : Reading) : CacheKey := x.place.key x.field.tag

/-- What comes of a reading, and what is remembered under its key from then on. -/
structure Upshot where
  reading  : Reading
  fields   : List ProcessedField
  warnings : List Warning
  entry    : Option Float

/-- The readings of a sample. -/
def Sample.readings (table : String) (s : Sample) : List Reading :=
  s.fields.map fun f => ⟨⟨table, s.device⟩, f⟩

namespace Pipeline

def upshot (p : Pipeline) (c : Cache) (x : Reading) : Upshot :=
  let run := p.runField x.place c x.field
  ⟨x, run.fields, run.warnings, run.cache.find? x.key⟩

def learn (p : Pipeline) (c : Cache) (x : Reading) : Cache :=
  (p.runField x.place c x.field).cache

/-- Readings one after the other over one cache. Since each of them has to do with the cache only
once, a history may be that of any number of senders at a time. -/
def upshots (p : Pipeline) : List Reading → Cache → List Upshot
  | [], _ => []
  | x :: rest, c => p.upshot c x :: p.upshots rest (p.learn c x)

def cacheAfter (p : Pipeline) (history : List Reading) (c : Cache) : Cache :=
  history.foldl p.learn c

/-- Samples one after the other, each with its table, over one cache. -/
def processAll (p : Pipeline) : List (String × Sample) → Cache → List ProcessedSample × Cache
  | [], c => ([], c)
  | (table, s) :: rest, c =>
    let (processed, c, _) := p.process table s c
    let (others, c) := p.processAll rest c
    (processed :: others, c)

theorem upshots_append (p : Pipeline) (h h' : List Reading) :
    ∀ c, p.upshots (h ++ h') c = p.upshots h c ++ p.upshots h' (p.cacheAfter h c) := by
  induction h with
  | nil => intro c; rfl
  | cons x h ih => intro c; simp only [List.cons_append, upshots, ih]; rfl

theorem cacheAfter_append (p : Pipeline) (h h' : List Reading) (c : Cache) :
    p.cacheAfter (h ++ h') c = p.cacheAfter h' (p.cacheAfter h c) :=
  List.foldl_append

/-- A sample is the history of its fields. -/
theorem runFields_eq (p : Pipeline) (place : Place) (fields : List Field) :
    ∀ c, p.runFields place fields c =
      ⟨(p.upshots (fields.map (Reading.mk place)) c).flatMap Upshot.fields,
        p.cacheAfter (fields.map (Reading.mk place)) c,
        (p.upshots (fields.map (Reading.mk place)) c).flatMap Upshot.warnings⟩ := by
  induction fields with
  | nil => intro c; rfl
  | cons f fields ih => intro c; rw [runFields, ih]; rfl

/-- Samples one after the other are the history of all their fields. -/
theorem processAll_eq (p : Pipeline) (samples : List (String × Sample)) :
    ∀ c, let history := samples.flatMap fun x => x.2.readings x.1
      (p.processAll samples c).1.flatMap ProcessedSample.fields =
          (p.upshots history c).flatMap Upshot.fields ∧
        (p.processAll samples c).2 = p.cacheAfter history c := by
  induction samples with
  | nil => intro c; exact ⟨rfl, rfl⟩
  | cons x samples ih =>
    intro c
    obtain ⟨table, s⟩ := x
    have hrun := p.runFields_eq ⟨table, s.device⟩ s.fields c
    obtain ⟨hfields, hcache⟩ := ih (p.cacheAfter (s.readings table) c)
    simp only [processAll, process, hrun, List.flatMap_cons, upshots_append, cacheAfter_append,
      List.flatMap_append]
    exact ⟨by rw [← hfields]; rfl, hcache⟩

/-! ## One key -/

/-- The readings of a key. -/
def ofKey (k : CacheKey) (history : List Reading) : List Reading :=
  history.filter fun x => decide (x.key = k)

/-- What came of the readings of a key. -/
def upshotsOf (p : Pipeline) (k : CacheKey) (history : List Reading) (c : Cache) :
    List Upshot :=
  (p.upshots history c).filter fun o => decide (o.reading.key = k)

/-- A reading looks at the entry of its own key. -/
theorem upshot_eq {p : Pipeline} (builtIn : ∀ s ∈ p.stages, s.IsBuiltIn) {x : Reading}
    {c c' : Cache} (h : c.find? x.key = c'.find? x.key) :
    p.upshot c x = p.upshot c' x ∧ (p.learn c x).find? x.key = (p.learn c' x).find? x.key := by
  obtain ⟨hsame, hentry⟩ :=
    (runStages_confined x.place x.field.tag builtIn x.field.value).looks c c' h
  have hfields : (p.runField x.place c x.field).fields = (p.runField x.place c' x.field).fields :=
    congrArg Prod.fst hsame
  have hwarnings :
      (p.runField x.place c x.field).warnings = (p.runField x.place c' x.field).warnings :=
    congrArg Prod.snd hsame
  have hentry : (p.runField x.place c x.field).cache.find? x.key =
      (p.runField x.place c' x.field).cache.find? x.key := hentry
  exact ⟨by simp only [upshot, hfields, hwarnings, hentry], hentry⟩

/-- And changes no other. -/
theorem find?_learn {p : Pipeline} (builtIn : ∀ s ∈ p.stages, s.IsBuiltIn) {x : Reading}
    {k : CacheKey} (h : k ≠ x.key) (c : Cache) : (p.learn c x).find? k = c.find? k :=
  (runStages_confined x.place x.field.tag builtIn x.field.value).keeps c k h

/-- Whatever belongs to other keys can be left out. -/
theorem upshotsOf_eq {p : Pipeline} (builtIn : ∀ s ∈ p.stages, s.IsBuiltIn) (k : CacheKey)
    (history : List Reading) :
    ∀ c c', c.find? k = c'.find? k →
      p.upshotsOf k history c = p.upshots (ofKey k history) c' ∧
        (p.cacheAfter history c).find? k = (p.cacheAfter (ofKey k history) c').find? k := by
  induction history with
  | nil => intro c c' h; exact ⟨rfl, h⟩
  | cons x history ih =>
    intro c c' h
    unfold upshotsOf ofKey at ih ⊢
    rw [upshots, List.filter_cons, List.filter_cons]
    by_cases hk : x.key = k
    · -- the same comes of a reading of the key, and the entries agree again
      subst hk
      obtain ⟨hsame, hentry⟩ := upshot_eq builtIn h
      obtain ⟨hrest, hafter⟩ := ih _ _ hentry
      have hkey : decide ((p.upshot c x).reading.key = x.key) = true := decide_eq_true rfl
      rw [if_pos hkey, if_pos (decide_eq_true rfl), upshots, hrest, hsame]
      exact ⟨rfl, hafter⟩
    · have hentry : (p.learn c x).find? k = c'.find? k := by
        rw [find?_learn builtIn (Ne.symm hk), h]
      have hkey : ¬ decide ((p.upshot c x).reading.key = k) = true :=
        fun h => hk (of_decide_eq_true h)
      rw [if_neg hkey, if_neg fun h => hk (of_decide_eq_true h)]
      exact ih _ _ hentry

/-- **Every key for itself**: what comes of the readings of a key, one by one, and what is
remembered for it in the end are those of these readings alone, over a cache that holds nothing
but what there was of the key. So two histories with the same readings of it, however they are
mixed with others, give the same; and samples are processed as the histories of their fields. -/
theorem process_local (k : CacheKey) :
    (∀ (c : Cache) (history : List Reading),
      standard.upshotsOf k history c =
          standard.upshots (ofKey k history) (Cache.empty.accept k (c.find? k)) ∧
        (standard.cacheAfter history c).find? k =
          (standard.cacheAfter (ofKey k history) (Cache.empty.accept k (c.find? k))).find? k) ∧
    (∀ (c c' : Cache) (history history' : List Reading), c.find? k = c'.find? k →
      ofKey k history = ofKey k history' →
      standard.upshotsOf k history c = standard.upshotsOf k history' c' ∧
        (standard.cacheAfter history c).find? k = (standard.cacheAfter history' c').find? k) ∧
    ∀ (c : Cache) (samples : List (String × Sample)),
      let history := samples.flatMap fun x => x.2.readings x.1
      (standard.processAll samples c).1.flatMap ProcessedSample.fields =
          (standard.upshots history c).flatMap Upshot.fields ∧
        (standard.processAll samples c).2 = standard.cacheAfter history c := by
  have builtIn : ∀ s ∈ standard.stages, s.IsBuiltIn := by
    rw [standard_stages]
    simp [Stage.IsBuiltIn]
  refine ⟨fun c history => ?_, fun c c' history history' h hsame => ?_, fun c samples => ?_⟩
  · refine upshotsOf_eq builtIn k history c _ ?_
    rw [Cache.find?_accept, if_pos rfl, Cache.find?_empty, Option.or_none]
  · obtain ⟨hout, hafter⟩ := upshotsOf_eq builtIn k history c c' h
    obtain ⟨hout', hafter'⟩ := upshotsOf_eq builtIn k history' c' c' rfl
    rw [hout, hout', hafter, hafter', hsame]
    exact ⟨rfl, rfl⟩
  · exact standard.processAll_eq samples c

/-- Readings of one tag that may change by less than five at a time. -/
def stepped (device : String) (x : Float) : Reading :=
  ⟨⟨"boiler", device⟩, ⟨{ Tag.bare "temp" with range := some Range.steps }, .number (.real x)⟩⟩

/-- Another device, and a device without a name, come between two readings of the first. -/
def mixed : List Reading := [stepped "b-2" 7, stepped "b-1" 60, stepped " " 3, stepped "b-1" 61]

theorem process_local_mixed :
    let k : CacheKey := ⟨"boiler", "b-1", "temp"⟩
    let alone := [stepped "b-1" 60, stepped "b-1" 61]
    let start : Cache := ⟨[(k, 50)]⟩
    ofKey k mixed = ofKey k alone ∧
      standard.upshotsOf k mixed start = standard.upshotsOf k alone start ∧
      (standard.cacheAfter mixed start).find? k = (standard.cacheAfter alone start).find? k := by
  intro k alone start
  have same : ofKey k mixed = ofKey k alone := by
    simp [ofKey, mixed, alone, stepped, k, Reading.key, Place.key, Tag.bare]
  exact ⟨same, (process_local k).2.1 start start mixed alone rfl same⟩

end Pipeline
end DeviceLink
