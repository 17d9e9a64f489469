import DeviceLink.Proofs.Pipeline.Validity
import Mathlib.Algebra.Order.Field.Rat
import Mathlib.Algebra.Order.Ring.Abs
import Mathlib.Tactic.FieldSimp
import Mathlib.Tactic.Linarith
import Mathlib.Tactic.Ring
/-!
# The edge of a condition

A condition that does not hold is recorded with a reading at its edge. There is a formula for what a
condition looks at and another one for the reading that leads to a threshold, in each mode. In exact
numbers they are inverse to each other wherever the first one has something to compare with
(`comparand_invert`).

So the reading at the edge of an interval satisfies the condition, and no other reading that does is
nearer to the rejected one (`edge_inverts`). That holds of rates against a negative last value as
well: there the greater reading has the lesser rate, but both formulas turn round together. What the
stage records is the same edge, worked out in doubles (`violations_eq_edges`).
-/
namespace DeviceLink.Range

/-- The reading at the edge of a condition that can be judged and does not hold. -/
def edge {α : Type} [Add α] [Sub α] [Mul α] [Div α] [BEq α] [OfNat α 0] [OfNat α 100] [LT α] [LE α]
    [DecidableLT α] [DecidableLE α] (mode : Mode) (test : Test α) (raw : α) (last : Option α) :
    Option α :=
  match mode.comparand raw last with
  | none => none
  | some x => if test.holds x then none else some (mode.invert (test.violated x) last)

/-- Unless some condition holds, every edge is recorded, with the place of its condition. -/
theorem violations_eq_edges (raw : Float) (last : Option Float) (cs : List Condition) :
    ∀ i vs, violations raw last i cs = some vs →
      vs = (cs.zipIdx i).filterMap fun c =>
        (edge c.1.mode c.1.test raw last).map (Violation.mk c.2 c.1) := by
  induction cs with
  | nil =>
    intro i vs h
    cases h
    rfl
  | cons c cs ih =>
    intro i vs h
    rw [violations] at h
    rw [List.zipIdx_cons, List.filterMap_cons, edge]
    cases compared : c.mode.comparand raw last with
    | none =>
      rw [compared] at h
      exact ih (i + 1) vs h
    | some x =>
      rw [compared] at h
      cases holds : c.test.holds x with
      | true => simp [holds] at h
      | false =>
        simp only [holds, Bool.false_eq_true, if_false] at h
        obtain ⟨rest, later, rfl⟩ := Option.map_eq_some_iff.1 h
        simp [holds, ← ih (i + 1) rest later]

/-! ## Exact numbers -/

section
variable {mode : Mode} {raw x : ℚ} {last : Option ℚ}

/-- There is a last value that a rate can be compared with. -/
theorem last_of_rate (h : Mode.rate.comparand raw last = some x) :
    ∃ l, last = some l ∧ l ≠ 0 ∧ x = (raw - l) / l * 100 := by
  obtain ⟨l, usable, rfl⟩ := Option.map_eq_some_iff.1 h
  obtain ⟨rfl, nonzero⟩ := Option.filter_eq_some_iff.1 usable
  exact ⟨l, rfl, by simpa using nonzero, rfl⟩

theorem comparand_rate {l : ℚ} (nonzero : l ≠ 0) (raw : ℚ) :
    Mode.rate.comparand raw (some l) = some ((raw - l) / l * 100) := by
  have usable : (some l).filter (fun l => !(l == 0)) = some l := by
    simp [Option.filter, nonzero]
  rw [Mode.comparand, usable]
  rfl

/-- The reading that leads to a threshold does lead there. -/
theorem comparand_invert (h : mode.comparand raw last = some x) (t : ℚ) :
    mode.comparand (mode.invert t last) last = some t := by
  cases mode with
  | number => rfl
  | rate =>
    obtain ⟨l, rfl, nonzero, -⟩ := last_of_rate h
    have back : (l + t / 100 * l - l) / l * 100 = t := by
      field_simp
      ring
    rw [Mode.invert, comparand_rate nonzero, back]
  | delta =>
    obtain ⟨l, rfl, -⟩ := Option.map_eq_some_iff.1 h
    exact congrArg some (add_sub_cancel_left l t)

/-- What a condition looks at moves with the reading, or against it, in proportion. -/
theorem comparand_moves (h : mode.comparand raw last = some x) :
    ∃ k, k ≠ 0 ∧ ∀ w, mode.comparand w last = some (x + k * (w - raw)) := by
  cases mode with
  | number =>
    cases h
    refine ⟨1, one_ne_zero, fun w => congrArg some ?_⟩
    ring
  | rate =>
    obtain ⟨l, rfl, nonzero, rfl⟩ := last_of_rate h
    refine ⟨100 / l, div_ne_zero (by norm_num) nonzero, fun w => ?_⟩
    rw [comparand_rate nonzero]
    congr 1
    field_simp
    ring
  | delta =>
    obtain ⟨l, rfl, rfl⟩ := Option.map_eq_some_iff.1 h
    refine ⟨1, one_ne_zero, fun w => congrArg some ?_⟩
    ring

/-- Readings are as far apart as what is looked at, up to one factor. -/
theorem nearer_of_comparand {b w e y : ℚ} (h : mode.comparand raw last = some x)
    (hb : mode.comparand b last = some e) (hw : mode.comparand w last = some y)
    (nearer : |x - e| ≤ |x - y|) : |raw - b| ≤ |raw - w| := by
  obtain ⟨k, nonzero, moves⟩ := comparand_moves h
  have apart : ∀ z v, mode.comparand z last = some v → |x - v| = |k| * |raw - z| := by
    intro z v hz
    have same : x + k * (z - raw) = v := Option.some.inj ((moves z).symm.trans hz)
    rw [← same, ← abs_mul]
    congr 1
    ring
  rw [apart b e hb, apart w y hw] at nearer
  exact le_of_mul_le_mul_left nearer (abs_pos.2 nonzero)

end

theorem holds_within_iff {lo hi x : ℚ} : (Test.within lo hi).holds x = true ↔ lo ≤ x ∧ x ≤ hi := by
  simp [Test.holds]

/-- The end of an interval on the side to which `x` fell out of it. -/
inductive Passed (lo hi x : ℚ) : ℚ → Prop
  | low  : x < lo → Passed lo hi x lo
  | high : hi < x → Passed lo hi x hi

theorem passed_violated {lo hi x : ℚ} (h : (Test.within lo hi).holds x = false) :
    Passed lo hi x ((Test.within lo hi).violated x) := by
  have outside : ¬ (lo ≤ x ∧ x ≤ hi) := by
    rw [← holds_within_iff, h]
    exact Bool.false_ne_true
  dsimp only [Test.violated]
  by_cases below : x < lo
  · rw [if_pos below]
    exact .low below
  · rw [if_neg below]
    exact .high (lt_of_not_ge fun inside => outside ⟨le_of_not_gt below, inside⟩)

/-- Nothing within the interval is nearer. -/
theorem Passed.nearest {lo hi x e y : ℚ} (h : Passed lo hi x e) (above : lo ≤ y) (below : y ≤ hi) :
    |x - e| ≤ |x - y| := by
  cases h with
  | low out =>
    rw [abs_of_neg (by linarith), abs_of_neg (by linarith)]
    linarith
  | high out =>
    rw [abs_of_pos (by linarith), abs_of_pos (by linarith)]
    linarith

theorem Passed.within {lo hi x e : ℚ} (h : Passed lo hi x e) (order : lo ≤ hi) :
    lo ≤ e ∧ e ≤ hi := by
  cases h with
  | low => exact ⟨le_rfl, order⟩
  | high => exact ⟨order, le_rfl⟩

/-- **The edge of a condition is where it begins to hold**, in exact numbers: the reading at a
threshold leads to that threshold, in every mode that has something to compare with. If an interval
is not empty and rejects a reading, its edge is the end on the side of the rejected one, it is
accepted itself, and no reading that is accepted is nearer. The stage records just these edges, in
doubles. -/
theorem edge_inverts :
    (∀ (mode : Mode) (t raw : ℚ) (last : Option ℚ), mode.comparand raw last ≠ none →
      mode.comparand (mode.invert t last) last = some t) ∧
    (∀ (mode : Mode) (lo hi raw x : ℚ) (last : Option ℚ), lo ≤ hi →
      mode.comparand raw last = some x → (Test.within lo hi).holds x = false →
      ∃ b e, edge mode (.within lo hi) raw last = some b ∧
        Passed lo hi x e ∧ b = mode.invert e last ∧
        mode.comparand b last = some e ∧ (Test.within lo hi).holds e = true ∧
        ∀ w y, mode.comparand w last = some y → (Test.within lo hi).holds y = true →
          |raw - b| ≤ |raw - w|) ∧
    ∀ (raw : Float) (last : Option Float) (cs : List Condition) (vs : List Violation),
      violations raw last 0 cs = some vs →
      vs = cs.zipIdx.filterMap fun c =>
        (edge c.1.mode c.1.test raw last).map (Violation.mk c.2 c.1) := by
  refine ⟨?_, ?_, fun raw last cs => violations_eq_edges raw last cs 0⟩
  · intro mode t raw last judged
    obtain ⟨x, compared⟩ := Option.ne_none_iff_exists'.1 judged
    exact comparand_invert compared t
  · intro mode lo hi raw x last order compared rejected
    have passed := passed_violated rejected
    have back := comparand_invert compared ((Test.within lo hi).violated x)
    have recorded : edge mode (.within lo hi) raw last =
        some (mode.invert ((Test.within lo hi).violated x) last) := by
      rw [edge, compared]
      simp only [rejected, Bool.false_eq_true, if_false]
    refine ⟨_, _, recorded, passed, rfl, back, holds_within_iff.2 (passed.within order), ?_⟩
    intro w y accepted within
    obtain ⟨above, below⟩ := holds_within_iff.1 within
    exact nearer_of_comparand compared back accepted (passed.nearest above below)

/-- Rates within ten percent of -50: a fall to -70 is a rise by forty percent, and is cut off at
-55. -/
theorem edge_inverts_negative :
    let last : Option ℚ := some (-50)
    Mode.rate.comparand (-70) last = some 40 ∧
      Mode.rate.comparand (Mode.rate.invert 10 last) last = some 10 ∧
      edge Mode.rate (.within (-10) 10) (-70) last = some (-55) ∧
      Passed (-10) 10 40 10 ∧ |(-70) - (-55)| ≤ |(-70) - (-52 : ℚ)| := by
  intro last
  have compared : Mode.rate.comparand (-70) last = some 40 := by decide +kernel
  have rejected : (Test.within (-10 : ℚ) 10).holds 40 = false := by decide +kernel
  have recorded : edge Mode.rate (.within (-10) 10) (-70) last = some (-55) := by decide +kernel
  obtain ⟨inverts, edges, -⟩ := edge_inverts
  obtain ⟨b, e, same, passed, -, -, -, nearest⟩ :=
    edges .rate (-10) 10 (-70) 40 last (by norm_num) compared rejected
  cases recorded.symm.trans same
  refine ⟨compared, inverts .rate 10 (-70) last (by rw [compared]; exact nofun), recorded, ?_, ?_⟩
  · exact .high (by norm_num)
  · exact nearest (-52) 4 (by decide +kernel) (by decide +kernel)

end DeviceLink.Range
