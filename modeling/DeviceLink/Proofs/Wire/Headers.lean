import DeviceLink.Wire.Client
/-!
# What a header holds

A header holds any text but one with a control character in it, tabs apart (`isHeaderText_iff`).
An identity that has to put another text into a header can make no call (`carry_refused`).
-/
namespace DeviceLink

namespace Text

/-- The controls of ASCII but for the tab. -/
def isControl (c : Char) : Bool := (c.toNat < 0x20 && c.toNat != 0x09) || c.toNat == 0x7F

/-- Nothing in the text keeps it out of a header. -/
def Clean (s : String) : Prop := ∀ c ∈ s.toList, isControl c = false

instance (s : String) : Decidable (Clean s) := List.decidableBAll _ s.toList

end Text

theorem Utf8.encode_eq_flatMap (s : String) :
    encode s = s.toList.flatMap String.utf8EncodeChar := by
  have bytes : s.toByteArray = (s.toList.flatMap String.utf8EncodeChar).toByteArray :=
    String.utf8Encode_toList.symm
  rw [encode, String.toUTF8, bytes, List.data_toByteArray, List.toList_toArray]

/-- All bytes of a character beyond ASCII are beyond ASCII themselves. -/
theorem Utf8.le_of_mem_encodeChar {c : Char} (beyond : 127 < c.toNat) :
    ∀ b ∈ String.utf8EncodeChar c, 128 ≤ b.toNat := by
  have digit : ∀ n < 256, 128 ≤ n → 128 ≤ (UInt8.ofNat n).toNat := by
    intro n small high
    rw [UInt8.toNat_ofNat']
    omega
  have value : c.val.toNat = c.toNat := rfl
  intro b hb
  simp only [String.utf8EncodeChar, value, if_neg (Nat.not_le.2 beyond)] at hb
  split at hb
  · simp only [List.mem_cons, List.not_mem_nil, or_false] at hb
    rcases hb with rfl | rfl
    all_goals exact digit _ (by omega) (by omega)
  · split at hb
    · simp only [List.mem_cons, List.not_mem_nil, or_false] at hb
      rcases hb with rfl | rfl | rfl
      all_goals exact digit _ (by omega) (by omega)
    · simp only [List.mem_cons, List.not_mem_nil, or_false] at hb
      rcases hb with rfl | rfl | rfl | rfl
      all_goals exact digit _ (by omega) (by omega)

namespace Identity

theorem all_isHeaderByte (c : Char) :
    (String.utf8EncodeChar c).all isHeaderByte = !Text.isControl c := by
  by_cases ascii : c.toNat < 128
  · have byte : ∀ n < 128, isHeaderByte (UInt8.ofNat n) =
        !((decide (n < 0x20) && n != 0x09) || n == 0x7F) := by decide
    have single : String.utf8EncodeChar c = [UInt8.ofNat c.toNat] :=
      if_pos (Nat.le_of_lt_succ ascii)
    rw [single, List.all_cons, List.all_nil, Bool.and_true, byte _ ascii, Text.isControl]
  · have free : Text.isControl c = false := by
      simp only [Text.isControl, Bool.or_eq_false_iff, Bool.and_eq_false_iff, beq_eq_false_iff_ne,
        decide_eq_false_iff_not]
      omega
    rw [free, Bool.not_false, List.all_eq_true]
    intro b hb
    have high := Utf8.le_of_mem_encodeChar (Nat.not_lt.1 ascii) b hb
    simp only [isHeaderByte, Bool.or_eq_true, Bool.and_eq_true, decide_eq_true_eq, bne_iff_ne]
    refine .inr ⟨UInt8.le_iff_toNat_le.2 (Nat.le_trans (by decide) high), ?_⟩
    rintro rfl
    exact absurd high (by decide)

theorem isHeaderText_iff (s : String) : isHeaderText s = true ↔ Text.Clean s := by
  rw [isHeaderText, Utf8.encode_eq_flatMap, List.all_flatMap, List.all_eq_true]
  simp only [all_isHeaderByte, Bool.not_eq_true', Text.Clean]

end Identity

namespace Wire

/-- With an identity that cannot be sent no call reaches the platform, open or not. -/
theorem carry_refused {α : Type} {who : Identity} {e : TransportError}
    (refused : who.tagged = .error e) (link : Link) (path : String) (message : Option Bytes)
    (failed : Status → TransportError) (answer : Except Status α) :
    carry link who path message failed answer = (.error e, []) := by
  simp only [carry, refused]

end Wire
end DeviceLink
