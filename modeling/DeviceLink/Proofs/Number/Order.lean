import DeviceLink.Number.Double
/-!
# The order of doubles

Doubles are compared by sign, exponent and significand. What is not a number compares with nothing,
itself included, so `≤` is not reflexive and a comparison that fails does not turn the other way
round. What remains of an order is that no double lies below itself (`lt_irrefl`), that two of them
never lie below each other (`not_lt_of_le`), and that numbers can always be compared
(`le_iff_not_lt`, `le_total`).
-/
namespace DeviceLink.Number

open Float.Model

/-- Two doubles compare the other way round when they are exchanged, if they compare at all. -/
theorem compare_swap (a b : UnpackedFloat) :
    UnpackedFloat.compare b a = (UnpackedFloat.compare a b).map Ordering.swap := by
  have signs : ∀ s t : UnpackedFloat.Sign, compare t s = (compare s t).swap := by
    intro s t
    cases s <;> cases t <;> rfl
  have sizes : ∀ (m n : Nat) (e f : Int), (compare f e).then (compare n m) =
      ((compare e f).then (compare m n)).swap := by
    intro m n e f
    rw [Ordering.swap_then, ← Std.OrientedOrd.eq_swap, ← Std.OrientedOrd.eq_swap]
  cases a with
  | notANumber => cases b <;> rfl
  | infinity s =>
    cases b with
    | infinity t => exact congrArg some (signs s t)
    | _ => cases s <;> rfl
  | zero s =>
    cases b with
    | infinity t => cases t <;> rfl
    | finite t n f _ => cases t <;> rfl
    | _ => rfl
  | finite s m e _ =>
    cases b with
    | infinity t => cases s <;> cases t <;> rfl
    | notANumber => rfl
    | zero t => cases s <;> rfl
    | finite t n f _ =>
      -- the larger significand is the smaller number where both are below zero
      cases s with
      | positive =>
        cases t with
        | positive => exact congrArg some (sizes m n e f)
        | negative => rfl
      | negative =>
        cases t with
        | positive => rfl
        | negative => exact congrArg (fun o => some o.swap) (sizes m n e f)

/-- Numbers, infinite ones too, compare with each other. -/
theorem compare_isSome {a b : UnpackedFloat} (ha : a.isNaN = false) (hb : b.isNaN = false) :
    (UnpackedFloat.compare a b).isSome = true := by
  cases a with
  | notANumber => cases ha
  | infinity s =>
    cases b with
    | notANumber => cases hb
    | _ => cases s <;> rfl
  | zero s =>
    cases b with
    | notANumber => cases hb
    | infinity t => cases t <;> rfl
    | finite t n f _ => cases t <;> rfl
    | zero t => rfl
  | finite s m e _ =>
    cases b with
    | notANumber => cases hb
    | infinity t => cases s <;> cases t <;> rfl
    | zero t => cases s <;> rfl
    | finite t n f _ => cases s <;> cases t <;> rfl

theorem lt_iff (x y : Float) :
    x < y ↔ UnpackedFloat.compare x.toModel.unpack y.toModel.unpack = some .lt := by
  show decide (x.toModel < y.toModel) = true ↔ _
  rw [decide_eq_true_iff]
  show UnpackedFloat.lt _ _ = true ↔ _
  rw [UnpackedFloat.lt, beq_iff_eq]

theorem le_iff (x y : Float) :
    x ≤ y ↔ ∃ o, UnpackedFloat.compare x.toModel.unpack y.toModel.unpack = some o ∧ o ≠ .gt := by
  show decide (x.toModel ≤ y.toModel) = true ↔ _
  rw [decide_eq_true_iff]
  show UnpackedFloat.le _ _ = true ↔ _
  rw [UnpackedFloat.le]
  cases UnpackedFloat.compare x.toModel.unpack y.toModel.unpack with
  | none => simp
  | some o => cases o <;> simp

theorem lt_irrefl (x : Float) : ¬ x < x := by
  intro below
  have swapped := compare_swap x.toModel.unpack x.toModel.unpack
  rw [(lt_iff x x).1 below] at swapped
  cases swapped

theorem not_lt_of_le {x y : Float} (h : x ≤ y) : ¬ y < x := by
  intro below
  obtain ⟨o, compared, other⟩ := (le_iff x y).1 h
  have swapped := compare_swap y.toModel.unpack x.toModel.unpack
  rw [(lt_iff y x).1 below, compared] at swapped
  cases swapped
  exact other rfl

/-- Of two numbers one lies below the other, unless it is the other way round or they are equal. -/
theorem le_iff_not_lt {x y : Float} (hx : x.isNaN = false) (hy : y.isNaN = false) :
    x ≤ y ↔ ¬ y < x := by
  refine ⟨not_lt_of_le, fun above => ?_⟩
  obtain ⟨o, compared⟩ := Option.isSome_iff_exists.1 (compare_isSome hx hy)
  refine (le_iff x y).2 ⟨o, compared, fun greater => above ?_⟩
  rw [lt_iff, compare_swap x.toModel.unpack, compared, greater]
  rfl

protected theorem le_of_lt {x y : Float} (h : x < y) : x ≤ y :=
  (le_iff x y).2 ⟨.lt, (lt_iff x y).1 h, by decide⟩

protected theorem le_refl {x : Float} (hx : x.isNaN = false) : x ≤ x :=
  (le_iff_not_lt hx hx).2 (lt_irrefl x)

protected theorem le_total {x y : Float} (hx : x.isNaN = false) (hy : y.isNaN = false) :
    x ≤ y ∨ y ≤ x := by
  by_cases below : y < x
  · exact .inr (Number.le_of_lt below)
  · exact .inl ((le_iff_not_lt hx hy).2 below)

theorem isNaN_of_isFinite {x : Float} (h : isFinite x = true) : x.isNaN = false := by
  have finite : x.toModel.unpack.isFinite = true := h
  show x.toModel.unpack.isNaN = false
  cases hu : x.toModel.unpack with
  | notANumber =>
    rw [hu] at finite
    cases finite
  | _ => rfl

end DeviceLink.Number
