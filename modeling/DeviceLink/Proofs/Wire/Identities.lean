import DeviceLink.Proofs.Wire.Headers
/-!
# Headers tell identities apart

The headers of a call name the identity that it was made with: from their values it can be read
back, since name and service are written in digits of which their bytes can be recovered
(`headers_injective`). Which identities can be sent depends on what a header takes, but of any rule
that lets digits through it is the ids of the project and of the driver alone that are judged by it
(`taggedBy_eq`). Calls follow the rule that leaves out control characters (`tagged_eq`); under one
that takes nothing beyond visible ASCII, spaces and tabs, all holds alike (`tagged_identifies`).
-/
namespace DeviceLink

theorem Utf8.encode_injective : Function.Injective encode := by
  intro s s' same
  have read := congrArg decode same
  rw [decode_encode, decode_encode] at read
  exact Option.some.inj read

namespace Hex

/-- A text is how these bytes are written: two lower-case digits for each, read back as they are. -/
structure Writes (s : String) (bs : Bytes) : Prop where
  even  : s.length % 2 = 0
  lower : ∀ c ∈ s.toList, c ∈ digits
  read  : parse s = some bs

theorem writes_text (bs : Bytes) : Writes (text bs) bs where
  even := by
    rw [text, String.length_ofList, length_encode]
    omega
  lower c hc := by
    rw [text, String.toList_ofList] at hc
    exact encode_lower hc
  read := by rw [parse, text, String.toList_ofList, decode_encode]

theorem Writes.inj {s : String} {bs bs' : Bytes} (h : Writes s bs) (h' : Writes s bs') :
    bs = bs' :=
  Option.some.inj (h.read.symm.trans h'.read)

end Hex

namespace Identity

/-! ## Rules for headers -/

/-- A text may stand in a header whose bytes follow a rule. -/
def Fits (rule : UInt8 → Bool) (s : String) : Prop := ∀ b ∈ Utf8.encode s, rule b = true

instance (rule : UInt8 → Bool) (s : String) : Decidable (Fits rule s) := List.decidableBAll _ _

/-- Visible ASCII, spaces and tabs. -/
def isVisibleByte (b : UInt8) : Bool := b == 0x09 || (0x20 ≤ b && b ≤ 0x7E)

/-- The headers, or the first of them that cannot be sent, where headers follow a rule. -/
def taggedBy (rule : UInt8 → Bool) (i : Identity) :
    Except TransportError (List (String × String)) :=
  match i.headers.find? fun h => !decide (Fits rule h.2) with
  | some h => .error (.invalidMetadata h.1)
  | none => .ok i.headers

theorem isHeaderText_iff_fits (s : String) : isHeaderText s = true ↔ Fits isHeaderByte s := by
  rw [isHeaderText, List.all_eq_true]
  rfl

theorem fits_iff_clean (s : String) : Fits isHeaderByte s ↔ Text.Clean s :=
  (isHeaderText_iff_fits s).symm.trans (isHeaderText_iff s)

theorem tagged_eq_taggedBy : tagged = taggedBy isHeaderByte := by
  have judged : (fun h : String × String => !isHeaderText h.2) =
      fun h => !decide (Fits isHeaderByte h.2) := by
    funext h
    congr 1
    rw [Bool.eq_iff_iff, decide_eq_true_iff, isHeaderText_iff_fits]
  funext i
  have found := congrArg i.headers.find? judged
  unfold tagged taggedBy
  exact found ▸ rfl

/-- The rule lets digits through. -/
def TakesDigits (rule : UInt8 → Bool) : Prop :=
  ∀ c ∈ Hex.digits, (String.utf8EncodeChar c).all rule = true

instance (rule : UInt8 → Bool) : Decidable (TakesDigits rule) := List.decidableBAll _ _

section
variable {rule : UInt8 → Bool} (takesDigits : TakesDigits rule)
include takesDigits

theorem fits_text (bs : Bytes) : Fits rule (Hex.text bs) := by
  intro b hb
  rw [Utf8.encode_eq_flatMap, List.mem_flatMap] at hb
  obtain ⟨c, hc, hb⟩ := hb
  have taken := takesDigits c ((Hex.writes_text bs).lower c hc)
  exact List.all_eq_true.1 taken b hb

/-- Free text is never what keeps an identity from being sent. -/
theorem taggedBy_eq (i : Identity) :
    i.taggedBy rule =
      if ¬ Fits rule i.project then .error (.invalidMetadata "x-project-id")
      else if ¬ Fits rule i.driver then .error (.invalidMetadata "x-driver-id")
      else .ok i.headers := by
  have fits := fits_text takesDigits
  by_cases project : Fits rule i.project
  · by_cases driver : Fits rule i.driver <;> simp [taggedBy, headers, fits, project, driver]
  · simp [taggedBy, headers, project]

end

/-- Calls are tagged by the rule that leaves out controls. -/
theorem tagged_eq (i : Identity) :
    i.tagged =
      if ¬ Text.Clean i.project then .error (.invalidMetadata "x-project-id")
      else if ¬ Text.Clean i.driver then .error (.invalidMetadata "x-driver-id")
      else .ok i.headers := by
  rw [tagged_eq_taggedBy, taggedBy_eq (by decide +kernel)]
  simp only [fits_iff_clean]

/-! ## What headers say -/

/-- The values of the headers are those of one identity only. -/
theorem headers_injective {i i' : Identity}
    (same : i.headers.map Prod.snd = i'.headers.map Prod.snd) : i = i' := by
  obtain ⟨project, driver, name, service⟩ := i
  obtain ⟨project', driver', name', service'⟩ := i'
  have recovered : ∀ s s', Hex.text (Utf8.encode s) = Hex.text (Utf8.encode s') → s = s' :=
    fun s s' written =>
      Utf8.encode_injective ((Hex.writes_text _).inj (written ▸ Hex.writes_text _))
  simp only [headers, List.map_cons, List.map_nil, List.cons.injEq, and_true] at same
  obtain ⟨rfl, rfl, hname, hservice⟩ := same
  rw [recovered _ _ hname, recovered _ _ hservice]

/-- Calls tagged in this way tell who made them, where headers follow the rule. -/
structure Identifies (rule : UInt8 → Bool)
    (tag : Identity → Except TransportError (List (String × String))) : Prop where
  /-- No two identities pass for one. -/
  distinct : ∀ i i' hs hs', tag i = .ok hs → tag i' = .ok hs' →
    hs.map Prod.snd = hs'.map Prod.snd → i = i'
  tells : ∀ i hs, tag i = .ok hs → ∃ name service,
    hs = [("x-project-id", i.project), ("x-driver-id", i.driver), ("x-driver-name", name),
      ("x-service-id", service)] ∧
    Hex.Writes name (Utf8.encode i.name) ∧ Hex.Writes service (Utf8.encode i.service)
  succeeds : ∀ i, (∃ hs, tag i = .ok hs) ↔ Fits rule i.project ∧ Fits rule i.driver
  /-- Names and services may be anything. -/
  free : ∀ i name service, (∃ hs, tag i = .ok hs) →
    ∃ hs, tag { i with name := name, service := service } = .ok hs
  /-- The first offender is named. -/
  blames : ∀ i e, tag i = .error e ↔
    (¬ Fits rule i.project ∧ e = .invalidMetadata "x-project-id") ∨
    (Fits rule i.project ∧ ¬ Fits rule i.driver ∧ e = .invalidMetadata "x-driver-id")

theorem taggedBy_eq_ok_iff {rule : UInt8 → Bool} (takesDigits : TakesDigits rule) (i : Identity)
    (hs : List (String × String)) :
    i.taggedBy rule = .ok hs ↔ (Fits rule i.project ∧ Fits rule i.driver) ∧ hs = i.headers := by
  rw [taggedBy_eq takesDigits]
  by_cases project : Fits rule i.project <;> by_cases driver : Fits rule i.driver <;>
    simp [project, driver, eq_comm]

theorem identifies {rule : UInt8 → Bool} (takesDigits : TakesDigits rule) :
    Identifies rule (taggedBy rule) := by
  have sent := taggedBy_eq_ok_iff takesDigits
  have succeeds : ∀ i, (∃ hs, taggedBy rule i = .ok hs) ↔
      Fits rule i.project ∧ Fits rule i.driver := by
    intro i
    simp only [sent, exists_and_left, exists_eq, and_true]
  constructor
  · intro i i' hs hs' hi hi' same
    rw [((sent i hs).1 hi).2, ((sent i' hs').1 hi').2] at same
    exact headers_injective same
  · intro i hs hi
    exact ⟨_, _, ((sent i hs).1 hi).2, Hex.writes_text _, Hex.writes_text _⟩
  · exact succeeds
  · intro i name service hi
    exact (succeeds _).2 ((succeeds i).1 hi)
  · intro i e
    rw [taggedBy_eq takesDigits]
    by_cases project : Fits rule i.project <;> by_cases driver : Fits rule i.driver <;>
      simp [project, driver, eq_comm]

/-- **Headers identify.** Two identities that can be sent have different headers; name and service
can be read back from theirs; an identity can be sent just if the ids of its project and of its
driver fit into a header, and else the first of them that does not is named. So it is where a
header takes all but control characters, and where it takes visible ASCII, spaces and tabs only. -/
theorem tagged_identifies :
    Identifies isHeaderByte tagged ∧ Identifies isVisibleByte (taggedBy isVisibleByte) := by
  rw [tagged_eq_taggedBy]
  exact ⟨identifies (by decide +kernel), identifies (by decide +kernel)⟩

end Identity
end DeviceLink
