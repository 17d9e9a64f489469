/-!
# Blank text

White space is the Unicode property `White_Space`; a text is blank when it holds nothing else.
Main statement: `isBlank_iff_trim_eq_empty`.
-/
namespace DeviceLink.Text

/-- The property `White_Space` of the Unicode character database. -/
def isSpace (c : Char) : Bool :=
  let n := c.toNat
  (0x09 ≤ n && n ≤ 0x0D) || n == 0x20 || n == 0x85 || n == 0xA0 || n == 0x1680 ||
    (0x2000 ≤ n && n ≤ 0x200A) || n == 0x2028 || n == 0x2029 || n == 0x202F || n == 0x205F ||
    n == 0x3000

def trimStart (cs : List Char) : List Char := cs.dropWhile isSpace

def trimEnd (cs : List Char) : List Char := (trimStart cs.reverse).reverse

/-- The text without the white space at its ends. -/
def trimmed (cs : List Char) : List Char := trimEnd (trimStart cs)

def trim (s : String) : String := String.ofList (trimmed s.toList)

/-- Nothing but white space. -/
def isBlank (s : String) : Bool := s.toList.all isSpace

/-- Lower case of the Latin letters `A` to `Z`; every other character stands for itself. -/
def lowerChar (c : Char) : Char :=
  if 'A' ≤ c ∧ c ≤ 'Z' then Char.ofNat (c.toNat + 32) else c

def lower (s : String) : String := String.ofList (s.toList.map lowerChar)

/-! ## Trimming -/

theorem trimStart_eq_nil_iff {cs : List Char} : trimStart cs = [] ↔ cs.all isSpace = true := by
  induction cs with
  | nil => simp [trimStart]
  | cons c cs ih =>
    by_cases h : isSpace c = true
    · rw [trimStart, List.dropWhile_cons, if_pos h, List.all_cons, h, Bool.true_and]
      exact ih
    · simp [trimStart, h]

theorem trimEnd_eq_nil_iff {cs : List Char} : trimEnd cs = [] ↔ cs.all isSpace = true := by
  simp only [trimEnd, List.reverse_eq_nil_iff, trimStart_eq_nil_iff, List.all_reverse]

theorem all_of_all_dropWhile {p : Char → Bool} {cs : List Char}
    (h : (cs.dropWhile p).all p = true) : cs.all p = true := by
  induction cs with
  | nil => rfl
  | cons c cs ih =>
    by_cases hc : p c = true
    · simp only [List.dropWhile_cons, hc, if_true] at h
      rw [List.all_cons, hc, ih h]; rfl
    · simp [hc] at h

/-- A text is blank exactly when trimming leaves nothing of it. -/
theorem isBlank_iff_trim_eq_empty {s : String} : isBlank s = true ↔ trim s = "" := by
  have hl : ∀ cs : List Char, String.ofList cs = "" ↔ cs = [] := fun cs =>
    ⟨fun h => by simpa using congrArg String.toList h, fun h => by simp [h]⟩
  rw [trim, hl, trimmed, trimEnd_eq_nil_iff, isBlank]
  refine ⟨fun h => ?_, all_of_all_dropWhile⟩
  rw [trimStart_eq_nil_iff.mpr h]; rfl

end DeviceLink.Text
