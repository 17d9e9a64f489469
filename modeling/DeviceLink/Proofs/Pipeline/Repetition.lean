import DeviceLink.Proofs.Pipeline.Containment
/-!
# One interval judges its own output the same way

What the rules emit may come back to them as a reading: a platform echoes it, a sample is sent
again. The second judgement finds another entry in the cache than the first one did, and need not
agree with it: a bound that stood in for a reading is itself valid, while a fixed value outside the
bounds or a value that is held is rejected again. In every case what is accepted is the value that
came in (`accepted_again`), so the same value is emitted and nothing is stored anew
(`handle_again`), however often it comes back (`simple_repeats`).
-/
namespace DeviceLink.Range

/-! ## One verdict -/

/-- What stands in for a reading stands in for itself, unless it is valid. -/
theorem substitute_again {r : RangeSpec} (simple : r.isConditional = false)
    (ordered : ∀ lo ∈ r.minValue, ∀ hi ∈ r.maxValue, lo ≤ hi) {raw x : Float}
    {last : Option Float} (h : substitute r raw last = some x) (beyond : ¬ Within r x) :
    substitute r x (some x) = some x := by
  obtain ⟨chosen, finite⟩ := Option.filter_eq_some_iff.1 h
  rw [substitute, Option.filter_eq_some_iff]
  refine ⟨?_, finite⟩
  cases action : r.action with
  | fixed =>
    rw [action] at chosen
    exact chosen
  | boundary =>
    rw [action] at chosen
    exact absurd (within_of_mem ordered (mem_of_boundary simple chosen)) beyond
  | holdLast => rfl
  | discard =>
    rw [action] at chosen
    cases chosen

/-- The verdict on what was accepted, with that as the last value, accepts it. -/
theorem accepted_again {r : RangeSpec} (simple : r.isConditional = false)
    (ordered : ∀ lo ∈ r.minValue, ∀ hi ∈ r.maxValue, lo ≤ hi) {raw x : Float}
    {last : Option Float} (h : accepted raw (judge r raw last).verdict = some x) :
    accepted x (judge r x (some x)).verdict = some x := by
  rw [judge_eq]
  by_cases within : Within r x
  · rw [if_pos ((valid_iff_within simple x (some x)).2 within)]
    rfl
  · have rejected : ¬ Valid r x (some x) := fun valid =>
      within ((valid_iff_within simple x (some x)).1 valid)
    rw [if_neg rejected]
    rw [judge_eq] at h
    by_cases valid : Valid r raw last
    · -- then it was the reading itself, which is valid whatever came before it
      rw [if_pos valid] at h
      cases h
      exact absurd ((valid_iff_within simple raw last).1 valid) within
    · rw [if_neg valid, accepted, choice_filter] at h
      rw [accepted, choice_filter]
      exact substitute_again simple ordered h within

/-- What is emitted in place of a reading is a number that is accepted. -/
theorem emitted_cases {tag : Tag} {r : RangeSpec} {value w : Json} (raw : Float) {v : Verdict}
    (emitted : primary (.ok (output tag r value v)) = some w) :
    v = .valid ∧ w = value ∨ ∃ x, accepted raw v = some x ∧ w = .number (.real x) := by
  rw [primary_output] at emitted
  cases v with
  | valid =>
    cases emitted
    exact .inl ⟨rfl, rfl⟩
  | invalid y rejectedBy =>
    obtain ⟨x, hx, rfl⟩ := Option.map_eq_some_iff.1 emitted
    exact .inr ⟨x, hx, rfl⟩

/-- The verdict on what was emitted, with that as the last value, emits it. -/
theorem emitted_again {tag : Tag} {r : RangeSpec} (simple : r.isConditional = false)
    (ordered : ∀ lo ∈ r.minValue, ∀ hi ∈ r.maxValue, lo ≤ hi) {value w : Json} {raw x : Float}
    {last : Option Float}
    (emitted : primary (.ok (output tag r value (judge r raw last).verdict)) = some w)
    (accepts : accepted raw (judge r raw last).verdict = some x) :
    primary (.ok (output tag r w (judge r x (some x)).verdict)) = some w := by
  have again := accepted_again simple ordered accepts
  rw [primary_output]
  cases verdict : (judge r x (some x)).verdict with
  | valid => rfl
  | invalid y rejectedBy =>
    rw [verdict, accepted] at again
    dsimp only
    rw [again]
    rcases emitted_cases raw emitted with ⟨valid, -⟩ | ⟨z, hz, rfl⟩
    · -- a valid reading is its own emission, and valid again
      rw [valid] at accepts
      cases accepts
      have within :=
        (valid_iff_within simple raw last).1 ((verdict_eq_valid_iff r raw last).1 valid)
      have valid' := (verdict_eq_valid_iff r raw (some raw)).2
        ((valid_iff_within simple raw (some raw)).2 within)
      cases verdict.symm.trans valid'
    · cases hz.symm.trans accepts
      rfl

/-! ## What an emission shows -/

theorem finite?_of_emitted {place : Place} {tag : Tag} {r : RangeSpec} {value w : Json}
    {cache : Cache} (rules : tag.range = some r)
    (emitted : primary (handle place tag value cache).result = some w) :
    ∃ raw, value.finite? = some raw := by
  cases number : value.finite? with
  | some raw => exact ⟨raw, rfl⟩
  | none =>
    rw [handle, rules] at emitted
    simp only [number] at emitted
    cases emitted

theorem named_of_emitted {place : Place} {tag : Tag} {r : RangeSpec} {value w : Json}
    {raw : Float} {cache : Cache} (rules : tag.range = some r)
    (number : value.finite? = some raw)
    (oneForm : (r.hasSimpleBounds && r.isConditional) = false)
    (emitted : primary (handle place tag value cache).result = some w) :
    (place.key tag).blankPart? = none := by
  cases blank : (place.key tag).blankPart? with
  | none => rfl
  | some part =>
    rw [handle_blank rules number oneForm blank] at emitted
    cases emitted

/-! ## One step and all later ones -/

section
variable (place : Place) {tag : Tag} {r : RangeSpec} (rules : tag.range = some r)
  (simple : r.isConditional = false)
  (ordered : ∀ lo ∈ r.minValue, ∀ hi ∈ r.maxValue, lo ≤ hi)
include rules simple ordered

/-- What was emitted is emitted again, and the cache stays as it is. -/
theorem handle_again {value w : Json} {cache : Cache}
    (emitted : primary (handle place tag value cache).result = some w) :
    primary (handle place tag w (handle place tag value cache).cache).result = some w ∧
      (handle place tag w (handle place tag value cache).cache).cache =
        (handle place tag value cache).cache := by
  have oneForm : (r.hasSimpleBounds && r.isConditional) = false := by simp [simple]
  obtain ⟨raw, number⟩ := finite?_of_emitted rules emitted
  have named := named_of_emitted rules number oneForm emitted
  have remembers := handle_remembers place (by rw [rules]; rfl) value cache
  obtain ⟨x, hx, entry⟩ := remembers.emitted w emitted
  have first := congrFun (handle_judged rules number oneForm named) cache
  -- the entry that the second judgement finds is the value that it judges
  have second :=
    congrFun (handle_judged rules hx oneForm named) (handle place tag value cache).cache
  rw [entry] at second
  rw [first] at emitted
  obtain ⟨y, hy, accepts⟩ := accepted_of_primary number emitted
  have same : y = x := Option.some.inj (hy.symm.trans hx)
  rw [same] at accepts
  rw [second]
  constructor
  · exact emitted_again simple ordered emitted accepts
  · dsimp only
    rw [accepted_again simple ordered accepts]
    exact Cache.set_of_find? entry

/-- However often it comes back. -/
theorem handleAll_again {value w : Json} {cache : Cache}
    (emitted : primary (handle place tag value cache).result = some w) (n : Nat) :
    ∀ run ∈ handleAll place tag (List.replicate n w) (handle place tag value cache).cache,
      primary run.result = some w ∧ run.cache = (handle place tag value cache).cache := by
  obtain ⟨same, kept⟩ := handle_again place rules simple ordered emitted
  induction n with
  | zero =>
    intro run mem
    cases mem
  | succ n ih =>
    intro run mem
    rcases List.mem_cons.1 mem with rfl | mem
    · exact ⟨same, kept⟩
    · rw [kept] at mem
      exact ih run mem

end

/-- **One interval judges its own output the same way**: whatever the action is, wherever the fixed
value lies and whatever the cache held before, a value that was emitted is emitted again when it
comes back, and the cache, which holds that value, stays as it was; and so on however often it comes
back. -/
theorem simple_repeats (place : Place) {tag : Tag} {r : RangeSpec} (rules : tag.range = some r)
    (simple : r.isConditional = false)
    (ordered : ∀ lo ∈ r.minValue, ∀ hi ∈ r.maxValue, lo ≤ hi) (value : Json) (cache : Cache)
    {w : Json} (emitted : primary (handle place tag value cache).result = some w) :
    let once := handle place tag value cache
    let again := handle place tag w once.cache
    (∃ x, w.finite? = some x ∧ once.cache.find? (place.key tag) = some x) ∧
      primary again.result = some w ∧ again.cache = once.cache ∧
      ∀ n, ∀ run ∈ handleAll place tag (List.replicate n w) once.cache,
        primary run.result = some w ∧ run.cache = once.cache := by
  intro once again
  have remembers := handle_remembers place (by rw [rules]; rfl) value cache
  obtain ⟨same, kept⟩ := handle_again place rules simple ordered emitted
  exact ⟨remembers.emitted w emitted, same, kept,
    handleAll_again place rules simple ordered emitted⟩

/-- Readings from 0 to 100; a fault is reported as -1, which is no reading. -/
def faulty : RangeSpec where
  minValue := some 0
  maxValue := some 100
  conditions := []
  action := .fixed
  fixedValue := some (-1)
  invalidAction := .save
  saveInvalidValue := true

/-- The fault itself is rejected, and reported as before. -/
theorem simple_repeats_fault :
    let place : Place := ⟨"boiler", "b-1"⟩
    let tag : Tag := { Tag.bare "level" with range := some faulty }
    let once := handle place tag (.number (.real 110)) Cache.empty
    ¬ Within faulty (-1) ∧ ∃ w, w.finite? = some (-1) ∧ primary once.result = some w ∧
      primary (handle place tag w once.cache).result = some w ∧
      (handle place tag w once.cache).cache = once.cache := by
  intro place tag once
  have rules : tag.range = some faulty := rfl
  have ordered : ∀ lo ∈ faulty.minValue, ∀ hi ∈ faulty.maxValue, lo ≤ hi := by
    rintro lo ⟨⟩ hi ⟨⟩
    decide +kernel
  have reported : (primary once.result).bind Json.finite? = some (-1) := by decide +kernel
  obtain ⟨w, emitted, fault⟩ := Option.bind_eq_some_iff.1 reported
  obtain ⟨-, same, kept, -⟩ :=
    simple_repeats place rules rfl ordered (.number (.real 110)) Cache.empty emitted
  exact ⟨by decide +kernel, w, fault, emitted, same, kept⟩

end DeviceLink.Range
