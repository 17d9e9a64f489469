import DeviceLink.Proofs.Number.Order
import DeviceLink.Proofs.Pipeline.Memory
/-!
# One interval contains what it lets through

A reading that crosses a bound is replaced, and what replaces it has to lie within the bounds as
well. The fixed value does if it was configured so, and a bound does if the interval is not empty.
A value that is held is no better than the entry it was taken from, so holding is safe only along a
run: what a step emits is the entry that the next one finds (`handle_within`, `handleAll_within`).
Without such an entry a first reading may be held although it is beyond the bounds; every other
action is safe from the first emission on, whatever the cache holds (`handleAll_settles`).
-/
namespace DeviceLink.Range

/-- Neither bound is crossed. -/
def Within (r : RangeSpec) (x : Float) : Prop := ¬ Below r x ∧ ¬ Above r x

instance (r : RangeSpec) (x : Float) : Decidable (Within r x) :=
  inferInstanceAs (Decidable (¬ Below r x ∧ ¬ Above r x))

/-- Rules by one interval, open on a side that has no bound. It is not empty, and it holds the fixed
value if there is one. -/
structure ByInterval (r : RangeSpec) : Prop where
  simple  : r.isConditional = false
  ordered : ∀ lo ∈ r.minValue, ∀ hi ∈ r.maxValue, lo ≤ hi
  fixed   : ∀ x ∈ r.fixedValue, Within r x

/-- Between bounds that are numbers, for whatever is a number. -/
theorem within_iff_le {r : RangeSpec}
    (bounds : ∀ b, b ∈ r.minValue ∨ b ∈ r.maxValue → b.isNaN = false) {x : Float}
    (number : x.isNaN = false) :
    Within r x ↔ (∀ lo ∈ r.minValue, lo ≤ x) ∧ ∀ hi ∈ r.maxValue, x ≤ hi := by
  constructor
  · intro within
    constructor
    · intro lo hlo
      exact (Number.le_iff_not_lt (bounds lo (.inl hlo)) number).2 fun h => within.1 ⟨lo, hlo, h⟩
    · intro hi hhi
      exact (Number.le_iff_not_lt number (bounds hi (.inr hhi))).2 fun h => within.2 ⟨hi, hhi, h⟩
  · rintro ⟨above, below⟩
    constructor
    · rintro ⟨lo, hlo, h⟩
      exact Number.not_lt_of_le (above lo hlo) h
    · rintro ⟨hi, hhi, h⟩
      exact Number.not_lt_of_le (below hi hhi) h

/-! ## One verdict -/

/-- The bounds of an interval that is not empty lie within it. -/
theorem within_of_mem {r : RangeSpec}
    (ordered : ∀ lo ∈ r.minValue, ∀ hi ∈ r.maxValue, lo ≤ hi) {b : Float}
    (bound : b ∈ r.minValue ∨ b ∈ r.maxValue) : Within r b := by
  rcases bound with hmin | hmax
  · constructor
    · rintro ⟨lo, hlo, below⟩
      have same : lo = b := Option.some.inj (hlo.symm.trans hmin)
      rw [same] at below
      exact Number.lt_irrefl b below
    · rintro ⟨hi, hhi, above⟩
      exact Number.not_lt_of_le (ordered b hmin hi hhi) above
  · constructor
    · rintro ⟨lo, hlo, below⟩
      exact Number.not_lt_of_le (ordered lo hlo b hmax) below
    · rintro ⟨hi, hhi, above⟩
      have same : hi = b := Option.some.inj (hhi.symm.trans hmax)
      rw [same] at above
      exact Number.lt_irrefl b above

/-- By one interval a reading is judged without a look at the last value. -/
theorem valid_iff_within {r : RangeSpec} (simple : r.isConditional = false) (raw : Float)
    (last : Option Float) : Valid r raw last ↔ Within r raw := by
  simp [Valid, Within, simple]

theorem mem_of_boundary {r : RangeSpec} (simple : r.isConditional = false) {raw b : Float}
    {last : Option Float} (h : boundary r raw last = some b) :
    b ∈ r.minValue ∨ b ∈ r.maxValue := by
  rw [boundary, if_neg (by simp [simple])] at h
  split at h
  · exact .inl h
  · exact .inr h

/-- What stands in for a reading lies within the bounds; a value that is held does if it did
before. -/
theorem substitute_within {r : RangeSpec} (interval : ByInterval r) {raw x : Float}
    {last : Option Float} (held : r.action = .holdLast → ∃ l, last = some l ∧ Within r l)
    (h : substitute r raw last = some x) : Within r x := by
  have chosen := (Option.filter_eq_some_iff.1 h).1
  cases action : r.action with
  | fixed =>
    rw [action] at chosen
    exact interval.fixed x chosen
  | boundary =>
    rw [action] at chosen
    exact within_of_mem interval.ordered (mem_of_boundary interval.simple chosen)
  | holdLast =>
    obtain ⟨l, rfl, within⟩ := held action
    rw [action] at chosen
    cases chosen
    exact within
  | discard =>
    rw [action] at chosen
    cases chosen

theorem accepted_within {r : RangeSpec} (interval : ByInterval r) {raw x : Float}
    {last : Option Float} (held : r.action = .holdLast → ∃ l, last = some l ∧ Within r l)
    (h : accepted raw (judge r raw last).verdict = some x) : Within r x := by
  rw [judge_eq] at h
  by_cases valid : Valid r raw last
  · rw [if_pos valid] at h
    cases h
    exact (valid_iff_within interval.simple raw last).1 valid
  · rw [if_neg valid] at h
    rw [accepted, choice_filter] at h
    exact substitute_within interval held h

/-! ## One step -/

/-- The entry of a key is a number within the bounds. -/
def Contained (r : RangeSpec) (k : CacheKey) (c : Cache) : Prop :=
  ∃ x, c.find? k = some x ∧ x.isNaN = false ∧ Within r x

/-- A value that goes on is a number within the bounds. -/
def EmitsWithin (r : RangeSpec) (run : StageRun) : Prop :=
  ∀ w, primary run.result = some w → ∃ x, w.finite? = some x ∧ Within r x

section
variable (place : Place) {tag : Tag} {r : RangeSpec} (rules : tag.range = some r)
  (interval : ByInterval r)
include rules interval

theorem handle_within {cache : Cache}
    (held : r.action = .holdLast → Contained r (place.key tag) cache) (value : Json) :
    EmitsWithin r (handle place tag value cache) := by
  intro w emitted
  have last : r.action = .holdLast → ∃ l, cache.find? (place.key tag) = some l ∧ Within r l := by
    intro holds
    obtain ⟨l, entry, -, within⟩ := held holds
    exact ⟨l, entry, within⟩
  rcases handle_cases place tag value with ⟨result, h, hresult⟩ | ⟨r', raw, hr, number, h⟩
  · rw [h] at emitted
    rcases hresult with ⟨unruled, -⟩ | rfl | ⟨e, rfl⟩
    · rw [rules] at unruled
      cases unruled
    · cases emitted
    · cases emitted
  · have same : r = r' := Option.some.inj (rules.symm.trans hr)
    subst same
    rw [h] at emitted
    obtain ⟨x, hx, haccepted⟩ := accepted_of_primary number emitted
    exact ⟨x, hx, accepted_within interval last haccepted⟩

/-- What is emitted within the bounds is the entry from then on. -/
theorem handle_contains {cache : Cache}
    (held : r.action = .holdLast → Contained r (place.key tag) cache) {value : Json}
    (emits : primary (handle place tag value cache).result ≠ none) :
    Contained r (place.key tag) (handle place tag value cache).cache := by
  have remembers := handle_remembers place (by rw [rules]; rfl) value cache
  obtain ⟨w, hw⟩ := Option.ne_none_iff_exists'.1 emits
  obtain ⟨x, hx, within⟩ := handle_within place rules interval held value w hw
  obtain ⟨y, hy, entry⟩ := remembers.emitted w hw
  rw [hx] at hy
  cases hy
  exact ⟨x, entry, Number.isNaN_of_isFinite (isFinite_of_finite? hx), within⟩

theorem handle_keeps {cache : Cache} (contained : Contained r (place.key tag) cache)
    (value : Json) : Contained r (place.key tag) (handle place tag value cache).cache := by
  by_cases emits : primary (handle place tag value cache).result = none
  · have remembers := handle_remembers place (by rw [rules]; rfl) value cache
    rw [remembers.silent emits]
    exact contained
  · exact handle_contains place rules interval (fun _ => contained) emits

end

/-! ## Whole runs -/

/-- Values of one tag one after the other, each with the cache that the one before it left. -/
def handleAll (place : Place) (tag : Tag) : List Json → Cache → List StageRun
  | [], _ => []
  | value :: rest, cache =>
    let run := handle place tag value cache
    run :: handleAll place tag rest run.cache

section
variable (place : Place) {tag : Tag} {r : RangeSpec} (rules : tag.range = some r)
  (interval : ByInterval r)
include rules interval

/-- Once the entry lies within the bounds, it stays there, and so does what is emitted. -/
theorem handleAll_within (values : List Json) :
    ∀ {cache : Cache}, Contained r (place.key tag) cache →
      ∀ run ∈ handleAll place tag values cache,
        EmitsWithin r run ∧ Contained r (place.key tag) run.cache := by
  induction values with
  | nil =>
    intro cache contained run mem
    cases mem
  | cons value rest ih =>
    intro cache contained run mem
    have keeps := handle_keeps place rules interval contained value
    rcases List.mem_cons.1 mem with rfl | mem
    · exact ⟨handle_within place rules interval (fun _ => contained) value, keeps⟩
    · exact ih keeps run mem

/-- Where nothing is held, everything that is emitted lies within the bounds, and the entry does
from the first emission on. -/
theorem handleAll_settles (steady : r.action ≠ .holdLast) (values : List Json) :
    ∀ cache : Cache, (∀ run ∈ handleAll place tag values cache, EmitsWithin r run) ∧
      ∀ before run after, handleAll place tag values cache = before ++ run :: after →
        primary run.result ≠ none →
          ∀ later ∈ run :: after, Contained r (place.key tag) later.cache := by
  induction values with
  | nil =>
    intro cache
    refine ⟨fun run mem => (by cases mem), fun before run after split => ?_⟩
    cases before <;> cases split
  | cons value rest ih =>
    intro cache
    have unheld : r.action = .holdLast → Contained r (place.key tag) cache :=
      fun holds => absurd holds steady
    obtain ⟨within, settles⟩ := ih (handle place tag value cache).cache
    constructor
    · intro run mem
      rcases List.mem_cons.1 mem with rfl | mem
      · exact handle_within place rules interval unheld value
      · exact within run mem
    · intro before run after split emits later mem
      cases before with
      | nil =>
        -- from the emission on this is a run that begins with an entry within the bounds
        cases split
        have contained := handle_contains place rules interval unheld emits
        rcases List.mem_cons.1 mem with rfl | mem
        · exact contained
        · exact (handleAll_within place rules interval rest contained later mem).2
      | cons first before =>
        have later_split : handleAll place tag rest (handle place tag value cache).cache =
            before ++ run :: after := (List.cons.inj split).2
        exact settles before run after later_split emits later mem

end

/-- **One interval contains what it lets through**, over any run of values of a tag and whatever the
action and the markers are: from an entry within the bounds everything that is emitted lies within
them, and so does the entry after every step. An action that holds nothing needs no such entry: what
it emits lies within the bounds from any cache, and the entry does from the first emission on. -/
theorem simple_contains (place : Place) {tag : Tag} {r : RangeSpec} (rules : tag.range = some r)
    (interval : ByInterval r) :
    ((∀ b, b ∈ r.minValue ∨ b ∈ r.maxValue → b.isNaN = false) → ∀ x : Float, x.isNaN = false →
      (Within r x ↔ (∀ lo ∈ r.minValue, lo ≤ x) ∧ ∀ hi ∈ r.maxValue, x ≤ hi)) ∧
    (∀ values cache, Contained r (place.key tag) cache →
      ∀ run ∈ handleAll place tag values cache,
        EmitsWithin r run ∧ Contained r (place.key tag) run.cache) ∧
    (r.action ≠ .holdLast → ∀ values cache,
      (∀ run ∈ handleAll place tag values cache, EmitsWithin r run) ∧
      ∀ before run after, handleAll place tag values cache = before ++ run :: after →
        primary run.result ≠ none →
          ∀ later ∈ run :: after, Contained r (place.key tag) later.cache) :=
  ⟨fun bounds _ number => within_iff_le bounds number,
    fun values _ contained => handleAll_within place rules interval values contained,
    fun steady values cache => handleAll_settles place rules interval steady values cache⟩

/-- Readings from 0 to 100; one beyond them leaves the last accepted value in place. -/
def gauge : RangeSpec where
  minValue := some 0
  maxValue := some 100
  conditions := []
  action := .holdLast
  fixedValue := none
  invalidAction := .ignore
  saveInvalidValue := false

/-- The gauge at a boiler, after a reading of 50. -/
def gauged (values : List Json) : List StageRun :=
  handleAll ⟨"boiler", "b-1"⟩ { Tag.bare "level" with range := some gauge } values
    ⟨[(⟨"boiler", "b-1", "level"⟩, 50)]⟩

theorem simple_contains_gauge :
    (gauged [.number (.real 110), .number (.real 70), .number (.real (-5))]).map
        (fun run => (primary run.result).bind Json.finite?) = [some 50, some 70, some 70] ∧
      ∀ values, ∀ run ∈ gauged values,
        EmitsWithin gauge run ∧ Contained gauge ⟨"boiler", "b-1", "level"⟩ run.cache := by
  have interval : ByInterval gauge := by
    refine ⟨rfl, ?_, nofun⟩
    rintro lo ⟨⟩ hi ⟨⟩
    decide +kernel
  have contained : Contained gauge ⟨"boiler", "b-1", "level"⟩
      ⟨[(⟨"boiler", "b-1", "level"⟩, 50)]⟩ := ⟨50, rfl, by decide +kernel, by decide +kernel⟩
  refine ⟨by decide +kernel, fun values => ?_⟩
  exact (simple_contains ⟨"boiler", "b-1"⟩ rfl interval).2.1 values _ contained

end DeviceLink.Range
