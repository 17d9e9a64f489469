import DeviceLink.Gateway
import DeviceLink.Proofs.Pipeline.Locality
import DeviceLink.Session.Dispatch
/-!
# What is remembered is what was emitted

The value that goes on and the value that is stored are worked out apart from each other, each
with a filter of its own. They are the same (`handle_remembers`): what the rules let through is a
finite number, and the entry of the field's own key holds it from then on; where nothing is let
through, nothing is stored. Since no later stage can take the value back, a sample of which
nothing is sent leaves no trace in the cache, and what was never put there from outside is finite
(`emitted_remembered`).
-/
namespace DeviceLink

/-! ## The rules -/

/-- The value that goes on to the next stage. -/
def primary : Except StageError StageOutput → Option Json
  | .ok (.value w) => some w
  | .ok (.fanOut w _) => w
  | .ok .dropped => none
  | .error _ => none

/-- A stage stores what it emits, under the key of its field, and nothing else. -/
structure Remembers (k : CacheKey) (before : Cache) (run : StageRun) : Prop where
  emitted : ∀ w, primary run.result = some w →
    ∃ x, w.finite? = some x ∧ run.cache.find? k = some x
  silent : primary run.result = none → run.cache = before
  others : ∀ k', k' ≠ k → run.cache.find? k' = before.find? k'

theorem isFinite_of_finite? {j : Json} {x : Float} (h : j.finite? = some x) :
    Number.isFinite x = true := by
  unfold Json.finite? at h
  exact (Option.filter_eq_some_iff.1 h).2

theorem finite?_real {x : Float} (h : Number.isFinite x = true) :
    (Json.number (.real x)).finite? = some x := by
  simp [Json.finite?, Json.toFloat?, Number.toFloat, h]

namespace Range

theorem primary_emission (value : Option Json) (extra : List ProcessedField) :
    primary (.ok (emission value extra)) = value := by
  cases value <;> cases extra <;> rfl

/-- What goes on after a verdict. -/
theorem primary_output (tag : Tag) (r : RangeSpec) (value : Json) (v : Verdict) :
    primary (.ok (output tag r value v)) = match v with
      | .valid => some value
      | .invalid x _ => (x.filter Number.isFinite).map fun x => .number (.real x) := by
  cases v with
  | valid => rfl
  | invalid x rejectedBy => rw [output_invalid, primary_emission]

/-- The value that goes on is the one that is accepted. -/
theorem accepted_of_primary {tag : Tag} {r : RangeSpec} {value w : Json} {raw : Float}
    {v : Verdict} (number : value.finite? = some raw)
    (emitted : primary (.ok (output tag r value v)) = some w) :
    ∃ x, w.finite? = some x ∧ accepted raw v = some x := by
  rw [primary_output] at emitted
  cases v with
  | valid =>
    cases emitted
    exact ⟨raw, number, rfl⟩
  | invalid x rejectedBy =>
    obtain ⟨y, hy, rfl⟩ := Option.map_eq_some_iff.1 emitted
    exact ⟨y, finite?_real (Option.filter_eq_some_iff.1 hy).2, hy⟩

theorem accepted_of_silent {tag : Tag} {r : RangeSpec} {value : Json} (raw : Float) {v : Verdict}
    (silent : primary (.ok (output tag r value v)) = none) : accepted raw v = none := by
  rw [primary_output] at silent
  cases v with
  | valid => cases silent
  | invalid x rejectedBy => exact Option.map_eq_none_iff.1 silent

theorem handle_remembers (place : Place) {tag : Tag} (rules : tag.range.isSome = true)
    (value : Json) (cache : Cache) :
    Remembers (place.key tag) cache (handle place tag value cache) := by
  rcases handle_cases place tag value with ⟨result, h, hresult⟩ | ⟨r, raw, -, number, h⟩
  · have hnone : primary result = none := by
      rcases hresult with ⟨hrange, -⟩ | rfl | ⟨e, rfl⟩
      · rw [hrange] at rules
        cases rules
      · rfl
      · rfl
    rw [h]
    refine ⟨fun w hw => ?_, fun _ => rfl, fun _ _ => rfl⟩
    rw [hnone] at hw
    cases hw
  · rw [h]
    constructor
    · intro w hw
      obtain ⟨x, hx, haccepted⟩ := accepted_of_primary number hw
      refine ⟨x, hx, ?_⟩
      dsimp only
      rw [Cache.find?_accept, haccepted, if_pos rfl, Option.some_or]
    · intro hnone
      dsimp only
      rw [accepted_of_silent raw hnone]
      rfl
    · intro k' hk
      dsimp only
      rw [Cache.find?_accept, if_neg hk]

end Range

/-! ## Fields and samples -/

/-- Nothing is remembered that is no number. -/
def Cache.AllFinite (c : Cache) : Prop := ∀ k x, c.find? k = some x → Number.isFinite x = true

/-- What is kept of a cache by whatever works through fields: finite entries, and all of it where
nothing is sent. -/
structure Keeps (before : Cache) (run : PipelineRun) : Prop where
  silent : run.fields = [] → run.cache = before
  finite : before.AllFinite → run.cache.AllFinite

theorem Keeps.refl (c : Cache) (fields : List ProcessedField) (warnings : List Warning) :
    Keeps c ⟨fields, c, warnings⟩ := ⟨fun _ => rfl, id⟩

theorem Remembers.finite {k : CacheKey} {c : Cache} {run : StageRun} (h : Remembers k c run)
    (hc : c.AllFinite) : run.cache.AllFinite := by
  intro k' x hx
  by_cases hk : k' = k
  · subst hk
    cases hp : primary run.result with
    | none => exact hc k' x (by rw [← h.silent hp]; exact hx)
    | some w =>
      obtain ⟨y, hw, hy⟩ := h.emitted w hp
      rw [hy] at hx
      cases hx
      exact isFinite_of_finite? hw
  · exact hc k' x (by rw [← h.others k' hk]; exact hx)

namespace Pipeline

/-- After the rules there is no stage that could take their value back. -/
theorem keeps_proceed {place : Place} {tag : Tag} {c : Cache} {run : StageRun}
    (h : Remembers (place.key tag) c run) :
    Keeps c (proceed place tag [] run.parts.1 run.parts.2) := by
  have hcache : (proceed place tag [] run.parts.1 run.parts.2).cache = run.cache := by
    obtain ⟨e | (next | - | ⟨_ | next, extra⟩), cache, warnings⟩ := run <;> rfl
  constructor
  · intro hfields
    rw [hcache]
    cases hp : primary run.result with
    | none => exact h.silent hp
    | some w =>
      obtain ⟨x, hw, -⟩ := h.emitted w hp
      have hnumber : w.isNull = false := by
        cases w with
        | null => cases hw
        | _ => rfl
      exfalso
      obtain ⟨result, cache, warnings⟩ := run
      rcases result with e | (next | - | ⟨_ | next, extra⟩)
      · cases hp
      · cases hp
        simp [proceed, StageRun.parts, runStages, hnumber] at hfields
      · cases hp
      · cases hp
      · cases hp
        simp [proceed, StageRun.parts, runStages, hnumber] at hfields
  · rw [hcache]
    exact h.finite

theorem keeps_rules (place : Place) (tag : Tag) (value : Json) (c : Cache) :
    Keeps c (runStages place tag [.rangeValidity] value c) := by
  rw [runStages_cons]
  split
  · exact .refl ..
  · split
    · rename_i happlies
      have rules : tag.range.isSome = true := (Bool.and_eq_true_iff.1 happlies).1
      exact keeps_proceed (Range.handle_remembers place rules value c)
    · exact .refl ..

theorem keeps_runField (place : Place) (f : Field) (c : Cache) :
    Keeps c (standard.runField place c f) := by
  rcases runField_standard place f with h | ⟨value, h⟩
  · rw [h]
    exact .refl ..
  · rw [h]
    exact keeps_rules ..

theorem keeps_runFields (place : Place) (fields : List Field) :
    ∀ c, Keeps c (standard.runFields place fields c) := by
  induction fields with
  | nil => intro c; exact .refl ..
  | cons f fields ih =>
    intro c
    have head := keeps_runField place f c
    have tail := ih (standard.runField place c f).cache
    constructor
    · intro hfields
      obtain ⟨hhead, htail⟩ := List.append_eq_nil_iff.1 hfields
      exact (tail.silent htail).trans (head.silent hhead)
    · exact fun hc => tail.finite (head.finite hc)

end Pipeline

/-! ## Calls -/

namespace Gateway

variable {σ : Type}

/-- What a call leaves of the cache: finite entries, and all of it where nothing is sent. -/
structure Leaves (before : Cache) (result : Except LinkError SampleOutcome) (after : Cache) :
    Prop where
  refused : ∀ e, result = .error e → after = before
  dropped : ∀ reason, result = .ok (.dropped reason) → after = before
  finite : before.AllFinite → after.AllFinite

/-- A plan to send nothing has left the cache alone. -/
theorem planSample_cases (registry : Registry) (cache : Cache) (sample : Sample) :
    (∃ reason, planSample registry .standard cache sample = (.dropped reason, cache)) ∨
      ∃ m fieldsIn fieldsOut after,
        planSample registry .standard cache sample = (.send m fieldsIn fieldsOut, after) ∧
          (cache.AllFinite → after.AllFinite) := by
  unfold planSample
  cases tableOf registry sample with
  | none => exact .inl ⟨_, rfl⟩
  | some table =>
    have hkeeps := Pipeline.keeps_runFields ⟨table, (prepare registry sample).device⟩
      (prepare registry sample).fields cache
    dsimp only [Pipeline.process]
    split
    · rename_i hempty
      rw [hkeeps.silent (List.isEmpty_iff.1 hempty)]
      exact .inl ⟨_, rfl⟩
    · exact .inr ⟨_, _, _, _, rfl, hkeeps.finite⟩

theorem writeSample_leaves (send : Sender σ) (state : SessionState) (registry : Registry)
    (cache : Cache) (platform : σ) (sample : Sample) :
    Leaves cache (writeSample send state registry .standard cache platform sample).1
      (writeSample send state registry .standard cache platform sample).2.1 := by
  unfold writeSample
  cases checkSample state sample with
  | error e => exact ⟨fun _ _ => rfl, fun _ _ => rfl, id⟩
  | ok u =>
    rcases planSample_cases registry cache sample with
      ⟨reason, h⟩ | ⟨m, fieldsIn, fieldsOut, after, h, hfinite⟩
    · rw [h]
      exact ⟨fun _ _ => rfl, fun _ _ => rfl, id⟩
    · rw [h]
      exact ⟨fun e he => (by cases he), fun reason hr => (by cases hr), hfinite⟩

end Gateway

/-! ## Every run -/

/-- All that is done to a store, other than values being put into its cache from outside: samples
are sent or only processed, commands are answered, the cache is cleared. -/
inductive Access (σ Config Command TagValue : Type)
  | sent (state : SessionState) (platform : σ) (sample : Sample)
  | processed (table : String) (sample : Sample)
  | answered (h : Handling Config Command TagValue)
  | cleared

namespace Store

variable {σ Config Command TagValue : Type}

def undergo (send : Gateway.Sender σ) (s : Store) : Access σ Config Command TagValue → Store
  | .sent state platform sample =>
    { s with cache :=
        (Gateway.writeSample send state s.registry .standard s.cache platform sample).2.1 }
  | .processed table sample =>
    { s with cache := (Pipeline.standard.process table sample s.cache).2.1 }
  | .answered h => h.finish s
  | .cleared => { s with cache := s.cache.clear }

theorem allFinite_empty : Cache.empty.AllFinite := by
  intro k x h
  rw [Cache.find?_empty] at h
  cases h

theorem undergo_allFinite (send : Gateway.Sender σ) {s : Store} (h : s.cache.AllFinite)
    (access : Access σ Config Command TagValue) : (s.undergo send access).cache.AllFinite := by
  cases access with
  | sent state platform sample =>
    exact (Gateway.writeSample_leaves send state s.registry s.cache platform sample).finite h
  | processed table sample =>
    exact (Pipeline.keeps_runFields ⟨table, sample.device⟩ sample.fields s.cache).finite h
  | answered handling =>
    show (handling.finish s).cache.AllFinite
    unfold Handling.finish
    split
    · exact allFinite_empty
    · exact h
  | cleared => exact allFinite_empty

theorem run_allFinite (send : Gateway.Sender σ)
    (accesses : List (Access σ Config Command TagValue)) :
    ∀ {s : Store}, s.cache.AllFinite → (accesses.foldl (undergo send) s).cache.AllFinite := by
  induction accesses with
  | nil => intro s h; exact h
  | cons access accesses ih => intro s h; exact ih (undergo_allFinite send h access)

/-- **What is remembered is what was emitted**: whatever a cache holds, the rules store just the
finite number that they let through, under the key of its field. So a sample that is refused or of
which nothing is sent leaves the cache as it was, and a cache that nobody else writes to holds
nothing but finite numbers. -/
theorem emitted_remembered (send : Gateway.Sender σ) :
    (∀ (place : Place) (tag : Tag) (value : Json) (cache : Cache), tag.range.isSome = true →
      Remembers (place.key tag) cache (Range.handle place tag value cache)) ∧
    (∀ (state : SessionState) (registry : Registry) (cache : Cache) (platform : σ)
        (sample : Sample),
      let call := Gateway.writeSample send state registry .standard cache platform sample
      ((∃ e, call.1 = .error e) ∨ ∃ reason, call.1 = .ok (.dropped reason)) →
        call.2.1 = cache) ∧
    ∀ (accesses : List (Access σ Config Command TagValue)) (k : CacheKey) (x : Float),
      (accesses.foldl (undergo send) empty).cache.find? k = some x → Number.isFinite x = true := by
  refine ⟨fun place tag value cache rules => Range.handle_remembers place rules value cache,
    fun state registry cache platform sample => ?_, fun accesses => ?_⟩
  · have h := Gateway.writeSample_leaves send state registry cache platform sample
    rintro call (⟨e, he⟩ | ⟨reason, hr⟩)
    · exact h.refused e he
    · exact h.dropped reason hr
  · exact run_allFinite send accesses allFinite_empty

/-- Readings of at most ten; what was accepted last stands in for the others. -/
def capped : Tag :=
  { Tag.bare "temp" with range := some ⟨none, some 10, [], .holdLast, none, .ignore, false⟩ }

/-- An infinity that somebody put there is neither sent again nor stored again. -/
theorem emitted_remembered_capped :
    let place : Place := ⟨"boiler", "b-1"⟩
    let cache : Cache := ⟨[(place.key capped, 1 / 0)]⟩
    let run := Range.handle place capped (.number (.real 60)) cache
    let sample : Sample :=
      ⟨"b-1", none, some "boiler", ⟨0, 0⟩, [⟨capped, .number (.real 60)⟩], []⟩
    let call := Gateway.writeSample (fun (_ : Unit) _ => (.ok .accepted, ())) .running
      Registry.empty .standard cache () sample
    capped.range.isSome = true ∧ Remembers (place.key capped) cache run ∧ run.cache = cache ∧
      call.1 = .ok (.dropped .noFieldsLeft) ∧ call.2.1 = cache := by
  intro place cache run sample call
  obtain ⟨remembers, leaves, -⟩ :=
    @emitted_remembered Unit Unit Unit Unit fun _ _ => (.ok .accepted, ())
  have rules : Remembers (place.key capped) cache run :=
    remembers place capped (.number (.real 60)) cache rfl
  have nothing : primary run.result = none := Option.isNone_iff_eq_none.1 (by decide +kernel)
  have stages : Pipeline.standard = ⟨[.linearMapping, .scaleRound, .rangeValidity]⟩ :=
    congrArg Pipeline.mk Pipeline.standard_stages
  have evaluated : call.1.toOption = some (.dropped .noFieldsLeft) := by
    simp only [call, stages]
    decide +kernel
  have dropped : call.1 = .ok (.dropped .noFieldsLeft) := by
    cases hc : call.1 with
    | error e => rw [hc] at evaluated; cases evaluated
    | ok outcome => rw [hc] at evaluated; exact congrArg Except.ok (Option.some.inj evaluated)
  exact ⟨rfl, rules, rules.silent nothing, dropped,
    leaves .running Registry.empty cache () sample (.inr ⟨_, dropped⟩)⟩

end Store
end DeviceLink
