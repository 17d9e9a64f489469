import DeviceLink.Proofs.Pipeline.Origins
/-!
# The order of conditions

Conditions are judged one after the other until one holds, so what is collected on the way depends
on their order. What is emitted does not: whether some condition holds is a matter of the set of
them, and the boundary belongs to the one condition that is flagged as the default, wherever it
stands (`boundary_perm`). Only the name in the marker may change, since it is that of the first
violation and may tell its position (`handle_perm`). Where two conditions are flagged, the first one
decides, and the order matters for the value as well.
-/
namespace DeviceLink.Range

/-! ## Lists with at most one hit -/

/-- Where at most one element has a property, the search for it finds it in any order. -/
theorem find?_perm {α : Type} {p : α → Bool} {l l' : List α} (perm : l.Perm l')
    (one : l.countP p ≤ 1) : l.find? p = l'.find? p := by
  have hits : (l.filter p).Perm (l'.filter p) := perm.filter p
  rw [List.countP_eq_length_filter] at one
  rw [← List.head?_filter, ← List.head?_filter]
  match found : l.filter p, one with
  | [], _ =>
    rw [found] at hits
    rw [List.nil_perm.1 hits]
  | [x], _ =>
    rw [found] at hits
    rw [List.singleton_perm.1 hits]

/-- The condition that decides is found without the positions of the others. -/
theorem flagged_fst (r : RangeSpec) (last : Option Float) :
    (flagged r last).map Prod.fst =
      r.conditions.find? fun c => decide (Usable last c.mode) && c.isDefault := by
  have found := List.find?_map (p := fun c => decide (Usable last c.mode) && c.isDefault)
    (f := Prod.fst) (l := r.conditions.zipIdx)
  rw [List.zipIdx_map_fst] at found
  rw [found, flagged, usable, List.find?_filter]
  congr 2
  funext c
  simp

/-! ## Rules in another order -/

section
variable {r : RangeSpec} {cs : List Condition} (perm : r.conditions.Perm cs)
include perm

theorem isConditional_perm : { r with conditions := cs }.isConditional = r.isConditional := by
  have same : r.conditions.isEmpty = cs.isEmpty := by
    rw [Bool.eq_iff_iff, List.isEmpty_iff, List.isEmpty_iff]
    constructor
    · intro empty
      exact List.nil_perm.1 (empty ▸ perm)
    · intro empty
      exact List.perm_nil.1 (empty ▸ perm)
  simp [RangeSpec.isConditional, same]

theorem valid_perm (raw : Float) (last : Option Float) :
    Valid { r with conditions := cs } raw last ↔ Valid r raw last := by
  unfold Valid
  rw [isConditional_perm perm]
  by_cases form : r.isConditional = true
  · rw [if_pos form, if_pos form]
    simp only [perm.mem_iff]
  · rw [if_neg form, if_neg form]
    rfl

theorem warnings_perm : warnings { r with conditions := cs } = warnings r := by
  unfold warnings
  rw [isConditional_perm perm]
  simp only [perm.mem_iff]

section
variable (one : r.conditions.countP (fun c => c.isDefault) ≤ 1)
include one

/-- One condition at most is flagged, so it is the same one that decides. -/
theorem boundary_perm (raw : Float) (last : Option Float) :
    boundary { r with conditions := cs } raw last = boundary r raw last := by
  have decisive : (flagged { r with conditions := cs } last).map Prod.fst =
      (flagged r last).map Prod.fst := by
    rw [flagged_fst, flagged_fst]
    refine (find?_perm perm (Nat.le_trans (List.countP_mono_left ?_) one)).symm
    intro c _ hit
    exact (Bool.and_eq_true_iff.1 hit).2
  unfold boundary
  rw [isConditional_perm perm]
  by_cases form : r.isConditional = true
  · rw [if_pos form, if_pos form]
    have edges := congrArg (Option.map fun c : Condition =>
      readingAt last (threshold c.test (compared raw last c.mode)) c.mode) decisive
    rw [Option.map_map, Option.map_map] at edges
    exact edges
  · rw [if_neg form, if_neg form]
    rfl

theorem choice_perm (raw : Float) (last : Option Float) :
    choice { r with conditions := cs } raw last = choice r raw last := by
  unfold choice
  rw [boundary_perm perm one]
  rfl

/-- The verdict may name the rejection otherwise, and is the same in all else. -/
theorem judge_perm (raw : Float) (last : Option Float) :
    judge { r with conditions := cs } raw last = judge r raw last ∨
      ∃ x name name', judge r raw last = ⟨.invalid x name, warnings r⟩ ∧
        judge { r with conditions := cs } raw last = ⟨.invalid x name', warnings r⟩ := by
  rw [judge_eq, judge_eq, choice_perm perm one, warnings_perm perm]
  by_cases valid : Valid r raw last
  · rw [if_pos valid, if_pos ((valid_perm perm raw last).2 valid)]
    exact .inl rfl
  · have invalid : ¬ Valid { r with conditions := cs } raw last := fun h =>
      valid ((valid_perm perm raw last).1 h)
    rw [if_neg valid, if_neg invalid]
    exact .inr ⟨_, _, _, rfl, rfl⟩

end
end

/-! ## The stage -/

/-- Two runs that differ at most in what the marker calls a rejection. -/
structure SameButName (tag : Tag) (a b : StageRun) : Prop where
  failed   : ∀ e, a.result = .error e ↔ b.result = .error e
  emitted  : primary a.result = primary b.result
  cache    : a.cache = b.cache
  warnings : a.warnings = b.warnings
  ids      : (extras a.result).map ProcessedField.id = (extras b.result).map ProcessedField.id
  rejected : ∀ v, ⟨tag.id ++ invalidSuffix, v⟩ ∈ extras a.result ↔
    ⟨tag.id ++ invalidSuffix, v⟩ ∈ extras b.result

theorem SameButName.refl (tag : Tag) (a : StageRun) : SameButName tag a a :=
  ⟨fun _ => .rfl, rfl, rfl, rfl, rfl, fun _ => .rfl⟩

theorem ids_records_eq (tag : Tag) (r : RangeSpec) (value : Json) (name name' : String) :
    (records tag r value name).map ProcessedField.id =
      (records tag r value name').map ProcessedField.id := by
  unfold records
  by_cases save : r.invalidAction = .save
  · rw [if_pos save, if_pos save, List.map_cons, List.map_cons]
  · rw [if_neg save, if_neg save]

theorem mem_records_iff (tag : Tag) (r : RangeSpec) (value v : Json) (name : String) :
    ⟨tag.id ++ invalidSuffix, v⟩ ∈ records tag r value name ↔
      r.invalidAction = .save ∧ r.saveInvalidValue = true ∧ v = value := by
  have other : tag.id ++ invalidSuffix ≠ tag.id ++ conditionSuffix :=
    (condition_ne_invalid tag.id tag.id).symm
  have notName : (⟨tag.id ++ invalidSuffix, v⟩ : ProcessedField) ≠
      ⟨tag.id ++ conditionSuffix, .string name⟩ := by
    intro same
    exact other (congrArg ProcessedField.id same)
  have named : records tag r value name = if r.invalidAction = .save then
      ⟨tag.id ++ conditionSuffix, .string name⟩ ::
        if r.saveInvalidValue then [⟨tag.id ++ invalidSuffix, value⟩] else []
      else [] := rfl
  rw [named]
  by_cases save : r.invalidAction = .save
  · rw [if_pos save, List.mem_cons, or_iff_right notName]
    by_cases wanted : r.saveInvalidValue = true
    · rw [if_pos wanted, List.mem_singleton]
      simp [save, wanted]
    · rw [if_neg wanted]
      simp [wanted]
  · rw [if_neg save]
    simp [save]

/-- Conditions do not matter once the verdict is given. -/
theorem output_conditions (tag : Tag) (r : RangeSpec) (cs : List Condition) (value : Json)
    (v : Verdict) : output { tag with range := some { r with conditions := cs } }
        { r with conditions := cs } value v =
      output { tag with range := some r } r value v := by
  cases v with
  | valid => rfl
  | invalid x name => rfl

/-- A verdict that names the rejection otherwise changes nothing else. -/
theorem sameButName_output (tag : Tag) (r : RangeSpec) (value : Json) (x : Option Float)
    (name name' : String) (cache : Cache) (ws : List Warning) :
    SameButName tag ⟨.ok (output tag r value (.invalid x name)), cache, ws⟩
      ⟨.ok (output tag r value (.invalid x name')), cache, ws⟩ := by
  rw [output_invalid, output_invalid]
  constructor
  · intro e
    exact ⟨nofun, nofun⟩
  · rw [primary_emission, primary_emission]
  · rfl
  · rfl
  · rw [extras_emission, extras_emission]
    exact ids_records_eq tag r value name name'
  · intro v
    rw [extras_emission, extras_emission]
    exact (mem_records_iff tag r value v name).trans (mem_records_iff tag r value v name').symm

theorem handle_sameButName (place : Place) (tag : Tag) {r : RangeSpec} {cs : List Condition}
    (perm : r.conditions.Perm cs) (one : r.conditions.countP (fun c => c.isDefault) ≤ 1)
    (value : Json) (cache : Cache) :
    SameButName tag (handle place { tag with range := some r } value cache)
      (handle place { tag with range := some { r with conditions := cs } } value cache) := by
  have form : { r with conditions := cs }.isConditional = r.isConditional :=
    isConditional_perm perm
  cases number : value.finite? with
  | none =>
    simp only [handle, number]
    exact .refl ..
  | some raw =>
    cases oneForm : r.hasSimpleBounds && r.isConditional with
    | true =>
      have bothForms : ({ r with conditions := cs }.hasSimpleBounds &&
          { r with conditions := cs }.isConditional) = true := by rw [form]; exact oneForm
      simp only [handle, number, oneForm, bothForms, if_true]
      exact .refl ..
    | false =>
      have oneForm' : ({ r with conditions := cs }.hasSimpleBounds &&
          { r with conditions := cs }.isConditional) = false := by rw [form]; exact oneForm
      have rules : { tag with range := some r }.range = some r := rfl
      have rules' : { tag with range := some { r with conditions := cs } }.range =
          some { r with conditions := cs } := rfl
      cases named : (place.key tag).blankPart? with
      | some part =>
        rw [handle_blank rules number oneForm named, handle_blank rules' number oneForm' named]
        exact .refl ..
      | none =>
        rw [handle_judged rules number oneForm named, handle_judged rules' number oneForm' named]
        dsimp only
        have last : cache.find? (place.key { tag with range := some { r with conditions := cs } }) =
            cache.find? (place.key { tag with range := some r }) := rfl
        rw [last]
        rcases judge_perm perm one raw (cache.find? (place.key { tag with range := some r })) with
          same | ⟨x, name, name', judged, judged'⟩
        · rw [same, output_conditions]
          exact .refl ..
        · rw [judged, judged']
          exact sameButName_output tag r value x name name' _ _

/-- **The order of conditions does not decide values**: in any order the same readings are valid,
whatever was last accepted. If at most one condition is flagged as the default, the same value goes
on, the same is remembered and the same fields record a rejection; only what the marker calls it may
change. -/
theorem handle_perm (place : Place) (tag : Tag) {r : RangeSpec} {cs : List Condition}
    (perm : r.conditions.Perm cs) :
    (∀ raw last, (judge r raw last).verdict = .valid ↔
      (judge { r with conditions := cs } raw last).verdict = .valid) ∧
    (r.conditions.countP (fun c => c.isDefault) ≤ 1 → ∀ value cache,
      SameButName tag (handle place { tag with range := some r } value cache)
        (handle place { tag with range := some { r with conditions := cs } } value cache)) := by
  constructor
  · intro raw last
    rw [verdict_eq_valid_iff, verdict_eq_valid_iff]
    exact (valid_perm perm raw last).symm
  · intro one value cache
    exact handle_sameButName place tag perm one value cache

/-- Rates within eight percent and steps of less than five, without names; the edge of the step
stands in for what goes beyond, if it is the default. -/
def unnamed (rateDecides stepDecides : Bool) : RangeSpec where
  minValue := none
  maxValue := none
  conditions := [⟨none, .rate, .within (-8) 8, rateDecides⟩, ⟨none, .delta, .less 5, stepDecides⟩]
  action := .boundary
  fixedValue := none
  invalidAction := .save
  saveInvalidValue := true

def swapped (r : RangeSpec) : RangeSpec := { r with conditions := r.conditions.reverse }

/-- The step decides in either order, but a condition without a name is called by its position. -/
theorem handle_perm_unnamed :
    let r := unnamed false true
    let run (r : RangeSpec) : StageRun := handle ⟨"boiler", "b-1"⟩
      { Tag.bare "temp" with range := some r } (.number (.real 60))
      ⟨[(⟨"boiler", "b-1", "temp"⟩, 50)]⟩
    r.conditions.Perm (swapped r).conditions ∧
      r.conditions.countP (fun c => c.isDefault) ≤ 1 ∧
      SameButName (Tag.bare "temp") (run r) (run (swapped r)) ∧
      (run r).cache = ⟨[(⟨"boiler", "b-1", "temp"⟩, 55)]⟩ ∧
      rejector r (some 50) = "condition-1" ∧ rejector (swapped r) (some 50) = "condition-0" := by
  intro r run
  have perm : r.conditions.Perm (swapped r).conditions := (List.reverse_perm _).symm
  have one : r.conditions.countP (fun c => c.isDefault) ≤ 1 := by decide +kernel
  refine ⟨perm, one, ?_, by decide +kernel, by decide +kernel, by decide +kernel⟩
  exact (handle_perm ⟨"boiler", "b-1"⟩ (Tag.bare "temp") perm).2 one _ _

/-- Of two defaults the first one decides. -/
example : substitute (unnamed true true) 60 (some 50) ≠
    substitute (swapped (unnamed true true)) 60 (some 50) := by decide +kernel

end DeviceLink.Range
