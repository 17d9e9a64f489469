import DeviceLink.Proofs.Wire.Messages
/-!
# Bytes that no one message wrote

A reader meets more than what one writer wrote. Where a second message follows the first, its fields
go into what the first one left, so what it has set counts, what it has left out stays, and repeated
fields add up. Where fields stand that the type does not declare, they are passed over whatever they
carry and however their numbers are spelled (`Interspersed.spelling`). Both hold for every type of
messages of the link (`messages_merge`).
-/
namespace DeviceLink.Wire

/-- Bytes of fields in their order, and before, between and behind them spellings of fields whose
numbers are not among those that are known. -/
inductive Interspersed (known : List Nat) : List Field → Bytes → Prop
  | nothing : Interspersed known [] []
  | own (f : Field) {fs : List Field} {bs : Bytes} (rest : Interspersed known fs bs) :
      Interspersed known (f :: fs) (f.encode ++ bs)
  | foreign {f : Field} {fs : List Field} {bs more : Bytes} (spelled : f.SpelledBy more)
      (unknown : f.number ∉ known) (rest : Interspersed known fs bs) :
      Interspersed known fs (more ++ bs)

/-- Nothing need stand between them. -/
theorem interspersed_flatMap (known : List Nat) (fs : List Field) :
    Interspersed known fs (fs.flatMap Field.encode) := by
  induction fs with
  | nil => exact .nothing
  | cons f fs ih => exact .own f ih

section
variable {α : Type} [Message α] [Contract α] [LawfulMessage α] {fs : List Field} {bs : Bytes}

/-- What stands there is a run of fields, of which those that are known go where they would go
alone. -/
theorem Interspersed.spelling (interspersed : Interspersed (Contract.numbers α) fs bs)
    (fits : ∀ f ∈ fs, f.Fits) : ∃ gs, Spelling gs bs ∧
      ∀ a : α, gs.foldlM Message.merge a = fs.foldlM Message.merge a := by
  induction interspersed with
  | nothing => exact ⟨[], .nil, fun _ => rfl⟩
  | own f rest ih =>
    obtain ⟨first, later⟩ := List.forall_mem_cons.1 fits
    obtain ⟨gs, spelling, merged⟩ := ih later
    refine ⟨f :: gs, .cons first.spelled spelling, fun a => ?_⟩
    rw [List.foldlM_cons, List.foldlM_cons]
    cases Message.merge a f with
    | none => rfl
    | some b => exact merged b
  | @foreign g fs bs more spelled unknown rest ih =>
    obtain ⟨gs, spelling, merged⟩ := ih fits
    refine ⟨g :: gs, .cons spelled spelling, fun a => ?_⟩
    rw [List.foldlM_cons, LawfulMessage.passes a g unknown]
    exact merged a

theorem decodeWithin_interspersed (interspersed : Interspersed (Contract.numbers α) fs bs)
    (fits : ∀ f ∈ fs, f.Fits) (room : Nat) :
    decodeWithin (α := α) room bs = fs.foldlM Message.merge Message.empty := by
  obtain ⟨gs, spelling, merged⟩ := interspersed.spelling (α := α) fits
  rw [decodeWithin_spelling spelling, merged]

/-- A message is read through whatever stands between its fields. -/
theorem decodeWithin_skips {m : α} (held : (encode m).length < wordSize)
    (interspersed : Interspersed (Contract.numbers α) (Message.fields m) bs) (room : Nat) :
    decodeWithin room bs = some m := by
  have merged := (LawfulMessage.carries Message.empty m held).merged
  rw [LawfulMessage.whole] at merged
  rw [decodeWithin_interspersed interspersed (fits_of_mem_fields held), merged]

/-- Two messages one after the other are read as one. -/
theorem decodeWithin_joins {m n : α} (first : (encode m).length < wordSize)
    (second : (encode n).length < wordSize) (room : Nat) :
    decodeWithin room (encode m ++ encode n) = some (Contract.joined m n) := by
  have fits : ∀ f ∈ Message.fields m ++ Message.fields n, f.Fits :=
    List.forall_mem_append.2 ⟨fits_of_mem_fields first, fits_of_mem_fields second⟩
  have whole := (LawfulMessage.carries Message.empty m first).merged
  rw [LawfulMessage.whole] at whole
  rw [encode, encode, ← List.flatMap_append, decodeWithin_spelling (spelling_flatMap fits),
    List.foldlM_append, whole]
  exact (LawfulMessage.carries m n second).merged

end

/-- Messages of this type merge when one follows the other, and are read through fields that the
type does not declare. -/
structure Merges (α : Type) [Message α] [Contract α] : Prop where
  joins : ∀ m n : α, (encode m).length < wordSize → (encode n).length < wordSize →
    decode (encode m ++ encode n) = some (Contract.joined m n)
  skips : ∀ m : α, (encode m).length < wordSize →
    ∀ bs, Interspersed (Contract.numbers α) (Message.fields m) bs → decode bs = some m

theorem merges (α : Type) [Message α] [Contract α] [LawfulMessage α] : Merges α where
  joins _ _ first second := decodeWithin_joins first second messageRoom
  skips _ held _ interspersed := decodeWithin_skips held interspersed messageRoom

/-- **Every message of the link merges and skips**: of two in a row a field of the second counts
unless it has its default, repeated fields add up, and fields of numbers that the type does not
declare change nothing, wherever they stand. -/
theorem messages_merge :
    Merges HealthCheckRequest ∧ Merges HealthCheckResponse ∧ Merges Fault ∧
      Merges UnaryRequest ∧ Merges UnaryResponse ∧ Merges TableData ∧
      Merges SchemaRequest ∧ Merges StartRequest ∧ Merges RunRequest ∧
      Merges BatchRunRequest ∧ Merges DebugMessage ∧ Merges StreamResult :=
  ⟨merges _, merges _, merges _, merges _, merges _, merges _, merges _, merges _, merges _,
    merges _, merges _, merges _⟩

/-- A command for two devices, one of them without a name, and what is to be changed about it. -/
def command : BatchRunRequest := ⟨"r-1", "s-1", "boiler", ["b-1", ""], [1, 2]⟩

def amendment : BatchRunRequest := ⟨"r-2", "", "", ["b-2"], []⟩

/-- A number that no command has, and a two that is spelled with a zero too many. -/
def stray : Bytes := [0x30, 0x82, 0x00]

theorem messages_merge_command :
    decode (encode command ++ encode amendment) =
        some (⟨"r-2", "s-1", "boiler", ["b-1", "", "b-2"], [1, 2]⟩ : BatchRunRequest) ∧
      decode (stray ++ encode command) = some command := by
  have first : (encode command).length < wordSize := by decide +kernel
  have second : (encode amendment).length < wordSize := by decide +kernel
  have key : Spells 48 [0x30] := ⟨Digits.last (b := 0x30) (by decide), by decide, by decide⟩
  have zero : Digits 0 [0x00] := Digits.last (b := 0x00) (by decide)
  have two : Spells 2 [0x82, 0x00] :=
    ⟨Digits.more (b := 0x82) (by decide) zero, by decide, by decide⟩
  have spelled : Field.SpelledBy ⟨6, .varint 2⟩ ([0x30] ++ [0x82, 0x00]) :=
    .mk (by decide) key two
  have interspersed : Interspersed (Contract.numbers BatchRunRequest) (Message.fields command)
      (stray ++ encode command) := .foreign spelled (by decide) (interspersed_flatMap _ _)
  exact ⟨messages_merge.2.2.2.2.2.2.2.2.2.1.joins command amendment first second,
    messages_merge.2.2.2.2.2.2.2.2.2.1.skips command first _ interspersed⟩

end DeviceLink.Wire
