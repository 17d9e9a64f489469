import DeviceLink.Proofs.Wire.Fields
import DeviceLink.Wire.Message
/-!
# Messages are read back

A message is read by putting its fields into the empty one, one after the other. A field that is not
written leaves what stands there already; a field that is written puts its value in; repeated fields
add up in their order, empty ones too (`Carries`). The same fields put into another message make up
what that one becomes when this one follows it (`Contract.joined`), and the whole is what follows
the empty one. So every message of the link that can be held in memory is read back from its bytes
(`messages_return`).
-/
namespace DeviceLink.Wire

/-- Longer than any data that can be held: lengths are words of 64 bits. -/
abbrev wordSize : Nat := Nat.pow 2 64

/-! ## Fields that messages write -/

/-- A field that fits the wire unless it is too long to be held. -/
def Field.Own (f : Field) : Prop := f.encode.length < wordSize → f.Fits

theorem own_varint {number n : Nat} (numbered : IsFieldNumber number) (word : n < wordSize) :
    Field.Own ⟨number, .varint n⟩ :=
  fun _ => ⟨numbered, word⟩

theorem length_encode_bytes (number : Nat) (data : Bytes) :
    data.length ≤ (Field.encode ⟨number, .bytes data⟩).length := by
  simp only [Field.encode, Payload.encode, List.length_append]
  omega

theorem own_bytes {number : Nat} (numbered : IsFieldNumber number) (data : Bytes) :
    Field.Own ⟨number, .bytes data⟩ :=
  fun held => ⟨numbered, Nat.lt_of_le_of_lt (length_encode_bytes number data) held⟩

/-- The word of an integer is its value modulo 2^64. -/
theorem own_int {number : Nat} (numbered : IsFieldNumber number) (n : Int32) :
    Field.Own ⟨number, .varint (n.toInt % (Nat.pow 2 64 : Int)).toNat⟩ := by
  have size : ((Nat.pow 2 64 : Nat) : Int) = 18446744073709551616 := rfl
  have word : (n.toInt % (Nat.pow 2 64 : Int)).toNat < wordSize := by
    rw [show wordSize = 18446744073709551616 from rfl, size]
    omega
  exact own_varint numbered word

/-- The low half of its word is the integer, whatever its sign. -/
theorem int?_word (n : Int32) :
    (Payload.varint (n.toInt % (Nat.pow 2 64 : Int)).toNat).int? = some n := by
  refine congrArg some (Int32.toInt_inj.1 ?_)
  have below := Int32.toInt_lt n
  have above := Int32.le_toInt n
  have size : ((Nat.pow 2 64 : Nat) : Int) = 18446744073709551616 := rfl
  have half : ((Int32.size : Nat) : Int) = 4294967296 := rfl
  rw [Int32.toInt_ofNat', Int.bmod_def, size, half]
  omega

/-! ## From field to field -/

/-- What stands in a field once a value has come for it: the default is not written, so it leaves
what was there. -/
def latest {β : Type} [DecidableEq β] (default before value : β) : β :=
  if value = default then before else value

theorem latest_default {β : Type} [DecidableEq β] (default value : β) :
    latest default default value = value := by
  unfold latest
  split <;> simp_all

section
variable {α β : Type} [Message α]

/-- These fields can be written, and they turn the message `a` into `b`. -/
structure Carries (fs : List Field) (a b : α) : Prop where
  own : ∀ f ∈ fs, f.Own
  merged : fs.foldlM Message.merge a = some b

theorem Carries.append {fs gs : List Field} {a b c : α} (first : Carries fs a b)
    (later : Carries gs b c) : Carries (fs ++ gs) a c where
  own := List.forall_mem_append.2 ⟨first.own, later.own⟩
  merged := by
    rw [List.foldlM_append, first.merged]
    exact later.merged

theorem carries_nothing (a : α) : Carries [] a a where
  own _ h := by cases h
  merged := rfl

theorem carries_one {f : Field} {a b : α} (own : f.Own) (merged : Message.merge a f = some b) :
    Carries [f] a b where
  own g hg := by
    rw [List.mem_singleton.1 hg]
    exact own
  merged := by
    rw [List.foldlM_cons, merged]
    rfl

/-- A field that is written unless it has its default. The message `put x` has `x` in its place. -/
theorem carries_field [DecidableEq β] {number : Nat} (read : Payload → Option β) (put : β → α)
    {default value : β} {p : Payload} (own : Field.Own ⟨number, p⟩) (reads : read p = some value)
    (merged : ∀ x p, Message.merge (put x) ⟨number, p⟩ = (read p).map put) (before : β) :
    Carries (if value = default then [] else [⟨number, p⟩]) (put before)
      (put (latest default before value)) := by
  unfold latest
  by_cases missing : value = default
  · rw [if_pos missing, if_pos missing]
    exact carries_nothing _
  · rw [if_neg missing, if_neg missing]
    refine carries_one own ?_
    rw [merged, reads]
    rfl

section
variable {number : Nat} (numbered : IsFieldNumber number)
include numbered

theorem carries_text (put : String → α)
    (merged : ∀ x p, Message.merge (put x) ⟨number, p⟩ = p.text?.map put) (before s : String) :
    Carries (textField number s) (put before) (put (latest "" before s)) :=
  carries_field Payload.text? put (own_bytes numbered _) (Utf8.decode_encode s) merged before

theorem carries_data (put : Bytes → α)
    (merged : ∀ x p, Message.merge (put x) ⟨number, p⟩ = p.data?.map put) (before data : Bytes) :
    Carries (dataField number data) (put before) (put (latest [] before data)) :=
  carries_field Payload.data? put (own_bytes numbered data) rfl merged before

theorem carries_int (put : Int32 → α)
    (merged : ∀ x p, Message.merge (put x) ⟨number, p⟩ = p.int?.map put) (before n : Int32) :
    Carries (intField number n) (put before) (put (latest 0 before n)) :=
  carries_field Payload.int? put (own_int numbered n) (int?_word n) merged before

theorem carries_flag (put : Bool → α)
    (merged : ∀ x p, Message.merge (put x) ⟨number, p⟩ = p.flag?.map put) (before b : Bool) :
    Carries (flagField number b) (put before) (put (latest false before b)) := by
  cases b with
  | false => exact carries_nothing _
  | true =>
    refine carries_one (own_varint numbered (by decide)) ?_
    rw [merged]
    rfl

/-- Every one of the repeated fields is written, and each adds its value at the end. -/
theorem carries_repeated (write : β → Bytes) (read : Payload → Option β) (put : List β → α)
    (merged : ∀ xs p, Message.merge (put xs) ⟨number, p⟩ = (read p).map fun x => put (xs ++ [x]))
    (values : List β) (reads : ∀ x ∈ values, read (.bytes (write x)) = some x) :
    ∀ before, Carries (values.map fun x => ⟨number, .bytes (write x)⟩) (put before)
      (put (before ++ values)) := by
  induction values with
  | nil =>
    intro before
    rw [List.append_nil]
    exact carries_nothing _
  | cons x values ih =>
    intro before
    obtain ⟨first, later⟩ := List.forall_mem_cons.1 reads
    have one : Carries [⟨number, .bytes (write x)⟩] (put before) (put (before ++ [x])) := by
      refine carries_one (own_bytes numbered _) ?_
      rw [merged, first]
      rfl
    have rest := ih later (before ++ [x])
    rw [List.append_assoc] at rest
    exact one.append rest

end
end

/-! ## Types of messages -/

/-- What a type of messages declares: the numbers of its fields, and what a message becomes when
another one follows it. -/
class Contract (α : Type) where
  numbers : List Nat
  joined  : α → α → α

/-- What a type of messages owes: the fields of a message carry it into any other one, a message
that follows the empty one is the whole, and fields that are not declared change nothing. -/
class LawfulMessage (α : Type) [Message α] [Contract α] : Prop where
  carries : ∀ a m : α, (encode m).length < wordSize →
    Carries (Message.fields m) a (Contract.joined a m)
  whole : ∀ m : α, Contract.joined Message.empty m = m := by
    intro m
    simp [Contract.joined, Message.empty, latest_default]
  passes : ∀ (a : α) (f : Field), f.number ∉ Contract.numbers α → Message.merge a f = some a := by
    intro a f unknown
    simp only [Message.merge]
    split <;> simp_all [Contract.numbers]

section
variable {α : Type} [Message α]

theorem length_encode_le {m : α} {f : Field} (h : f ∈ Message.fields m) :
    f.encode.length ≤ (encode m).length := by
  obtain ⟨before, after, split⟩ := List.append_of_mem h
  rw [encode, split, List.flatMap_append, List.flatMap_cons, List.length_append,
    List.length_append]
  omega

theorem decodeWithin_spelling {fs : List Field} {bs : Bytes} (spelling : Spelling fs bs)
    (room : Nat) : decodeWithin (α := α) room bs = fs.foldlM Message.merge Message.empty := by
  rw [decodeWithin, fields?_spelling spelling, Option.bind_some]

variable [Contract α] [LawfulMessage α]

theorem fits_of_mem_fields {m : α} (held : (encode m).length < wordSize) :
    ∀ f ∈ Message.fields m, f.Fits := fun f hf =>
  (LawfulMessage.carries m m held).own f hf (Nat.lt_of_le_of_lt (length_encode_le hf) held)

/-- A message is read back, however deep fields may still nest in it. -/
theorem decodeWithin_encode (room : Nat) {m : α} (held : (encode m).length < wordSize) :
    decodeWithin room (encode m) = some m := by
  rw [encode, decodeWithin_spelling (spelling_flatMap (fits_of_mem_fields held))]
  have merged := (LawfulMessage.carries Message.empty m held).merged
  rwa [LawfulMessage.whole] at merged

end

/-! ### Health -/

instance : Contract HealthCheckRequest where
  numbers := [1]
  joined a m := ⟨latest "" a.service m.service⟩

instance : LawfulMessage HealthCheckRequest where
  carries a m _ :=
    carries_text (by decide) HealthCheckRequest.mk (fun _ _ => rfl) a.service m.service

instance : Contract Fault where
  numbers := [1, 2]
  joined a m := ⟨latest 0 a.code m.code, latest "" a.message m.message⟩

instance : LawfulMessage Fault where
  carries a m _ :=
    have code := carries_int (by decide) (fun n => Fault.mk n a.message)
      (fun _ _ => rfl) a.code m.code
    have message := carries_text (by decide) (Fault.mk (Contract.joined a m).code)
      (fun _ _ => rfl) a.message m.message
    code.append message

instance : Contract HealthCheckResponse where
  numbers := [1, 2]
  joined a m := ⟨latest 0 a.status m.status, a.errors ++ m.errors⟩

/-- Faults are messages within the message. -/
instance : LawfulMessage HealthCheckResponse where
  carries a m held := by
    have faults : ∀ e ∈ m.errors, (Payload.bytes (encode e)).message? = some e := by
      intro e he
      have field : (⟨2, .bytes (encode e)⟩ : Field) ∈ Message.fields m :=
        List.mem_append_right _ (List.mem_map_of_mem he)
      refine decodeWithin_encode (messageRoom - 1) (Nat.lt_of_le_of_lt ?_ held)
      exact Nat.le_trans (length_encode_bytes 2 _) (length_encode_le field)
    exact (carries_int (by decide) (fun n => HealthCheckResponse.mk n a.errors)
      (fun _ _ => rfl) a.status m.status).append
      (carries_repeated (by decide) (fun e : Fault => encode e) Payload.message?
        (HealthCheckResponse.mk (Contract.joined a m).status) (fun _ _ => rfl) m.errors faults
        a.errors)

/-! ### Unary calls -/

instance : Contract UnaryRequest where
  numbers := [1, 2]
  joined a m := ⟨latest "" a.project m.project, latest [] a.data m.data⟩

instance : LawfulMessage UnaryRequest where
  carries a m _ :=
    have project := carries_text (by decide) (fun s => UnaryRequest.mk s a.data)
      (fun _ _ => rfl) a.project m.project
    have data := carries_data (by decide) (UnaryRequest.mk (Contract.joined a m).project)
      (fun _ _ => rfl) a.data m.data
    project.append data

instance : Contract UnaryResponse where
  numbers := [1, 2, 3, 4]
  joined a m := ⟨latest false a.status m.status, latest "" a.info m.info,
    latest "" a.detail m.detail, latest [] a.result m.result⟩

instance : LawfulMessage UnaryResponse where
  carries a m _ :=
    let c : UnaryResponse := Contract.joined a m
    have status := carries_flag (by decide) (fun b => UnaryResponse.mk b a.info a.detail a.result)
      (fun _ _ => rfl) a.status m.status
    have info := carries_text (by decide)
      (fun s => UnaryResponse.mk c.status s a.detail a.result) (fun _ _ => rfl) a.info m.info
    have detail := carries_text (by decide) (fun s => UnaryResponse.mk c.status c.info s a.result)
      (fun _ _ => rfl) a.detail m.detail
    have result := carries_data (by decide) (UnaryResponse.mk c.status c.info c.detail)
      (fun _ _ => rfl) a.result m.result
    ((status.append info).append detail).append result

instance : Contract TableData where
  numbers := [1, 2, 3, 4]
  joined a m := ⟨latest "" a.project m.project, latest "" a.table m.table,
    latest "" a.row m.row, latest [] a.data m.data⟩

instance : LawfulMessage TableData where
  carries a m _ :=
    let c : TableData := Contract.joined a m
    have project := carries_text (by decide) (fun s => TableData.mk s a.table a.row a.data)
      (fun _ _ => rfl) a.project m.project
    have table := carries_text (by decide) (fun s => TableData.mk c.project s a.row a.data)
      (fun _ _ => rfl) a.table m.table
    have row := carries_text (by decide) (fun s => TableData.mk c.project c.table s a.data)
      (fun _ _ => rfl) a.row m.row
    have data := carries_data (by decide) (TableData.mk c.project c.table c.row)
      (fun _ _ => rfl) a.data m.data
    ((project.append table).append row).append data

/-! ### Command streams -/

instance : Contract SchemaRequest where
  numbers := [1]
  joined a m := ⟨latest "" a.request m.request⟩

instance : LawfulMessage SchemaRequest where
  carries a m _ :=
    carries_text (by decide) SchemaRequest.mk (fun _ _ => rfl) a.request m.request

instance : Contract StartRequest where
  numbers := [1, 2]
  joined a m := ⟨latest "" a.request m.request, latest [] a.data m.data⟩

instance : LawfulMessage StartRequest where
  carries a m _ :=
    have request := carries_text (by decide) (fun s => StartRequest.mk s a.data)
      (fun _ _ => rfl) a.request m.request
    have data := carries_data (by decide) (StartRequest.mk (Contract.joined a m).request)
      (fun _ _ => rfl) a.data m.data
    request.append data

instance : Contract RunRequest where
  numbers := [1, 2, 3, 4, 5]
  joined a m := ⟨latest "" a.request m.request, latest "" a.serial m.serial,
    latest "" a.table m.table, latest "" a.device m.device, latest [] a.command m.command⟩

instance : LawfulMessage RunRequest where
  carries a m _ :=
    let c : RunRequest := Contract.joined a m
    have request := carries_text (by decide)
      (fun s => RunRequest.mk s a.serial a.table a.device a.command)
      (fun _ _ => rfl) a.request m.request
    have serial := carries_text (by decide)
      (fun s => RunRequest.mk c.request s a.table a.device a.command)
      (fun _ _ => rfl) a.serial m.serial
    have table := carries_text (by decide)
      (fun s => RunRequest.mk c.request c.serial s a.device a.command)
      (fun _ _ => rfl) a.table m.table
    have device := carries_text (by decide)
      (fun s => RunRequest.mk c.request c.serial c.table s a.command)
      (fun _ _ => rfl) a.device m.device
    have command := carries_data (by decide)
      (RunRequest.mk c.request c.serial c.table c.device) (fun _ _ => rfl) a.command m.command
    (((request.append serial).append table).append device).append command

instance : Contract BatchRunRequest where
  numbers := [1, 2, 3, 4, 5]
  joined a m := ⟨latest "" a.request m.request, latest "" a.serial m.serial,
    latest "" a.table m.table, a.devices ++ m.devices, latest [] a.command m.command⟩

/-- A device without a name is written like any other. -/
instance : LawfulMessage BatchRunRequest where
  carries a m _ :=
    let c : BatchRunRequest := Contract.joined a m
    have request := carries_text (by decide)
      (fun s => BatchRunRequest.mk s a.serial a.table a.devices a.command)
      (fun _ _ => rfl) a.request m.request
    have serial := carries_text (by decide)
      (fun s => BatchRunRequest.mk c.request s a.table a.devices a.command)
      (fun _ _ => rfl) a.serial m.serial
    have table := carries_text (by decide)
      (fun s => BatchRunRequest.mk c.request c.serial s a.devices a.command)
      (fun _ _ => rfl) a.table m.table
    have devices := carries_repeated (by decide) Utf8.encode Payload.text?
      (fun ds => BatchRunRequest.mk c.request c.serial c.table ds a.command)
      (fun _ _ => rfl) m.devices (fun s _ => Utf8.decode_encode s) a.devices
    have command := carries_data (by decide)
      (BatchRunRequest.mk c.request c.serial c.table c.devices)
      (fun _ _ => rfl) a.command m.command
    (((request.append serial).append table).append devices).append command

instance : Contract DebugMessage where
  numbers := [1, 2]
  joined a m := ⟨latest "" a.request m.request, latest [] a.data m.data⟩

instance : LawfulMessage DebugMessage where
  carries a m _ :=
    have request := carries_text (by decide) (fun s => DebugMessage.mk s a.data)
      (fun _ _ => rfl) a.request m.request
    have data := carries_data (by decide) (DebugMessage.mk (Contract.joined a m).request)
      (fun _ _ => rfl) a.data m.data
    request.append data

instance : Contract StreamResult where
  numbers := [1, 2]
  joined a m := ⟨latest "" a.request m.request, latest [] a.data m.data⟩

instance : LawfulMessage StreamResult where
  carries a m _ :=
    have request := carries_text (by decide) (fun s => StreamResult.mk s a.data)
      (fun _ _ => rfl) a.request m.request
    have data := carries_data (by decide) (StreamResult.mk (Contract.joined a m).request)
      (fun _ _ => rfl) a.data m.data
    request.append data

/-! ## All messages of the link -/

/-- Messages of this type are read back from their bytes, if these can be held at all. -/
def Returns (α : Type) [Message α] : Prop :=
  ∀ m : α, (encode m).length < wordSize → decode (encode m) = some m

theorem returns (α : Type) [Message α] [Contract α] [LawfulMessage α] : Returns α :=
  fun _ held => decodeWithin_encode messageRoom held

/-- **Every message of the link comes back from its bytes**, whatever stands in it: any text and any
data, integers of either sign, numbers of states that nobody knows, and faults and devices in any
number and order, empty ones among them. -/
theorem messages_return :
    Returns HealthCheckRequest ∧ Returns HealthCheckResponse ∧ Returns Fault ∧
      Returns UnaryRequest ∧ Returns UnaryResponse ∧ Returns TableData ∧
      Returns SchemaRequest ∧ Returns StartRequest ∧ Returns RunRequest ∧
      Returns BatchRunRequest ∧ Returns DebugMessage ∧ Returns StreamResult :=
  ⟨returns _, returns _, returns _, returns _, returns _, returns _, returns _, returns _,
    returns _, returns _, returns _, returns _⟩

/-- A status below zero, a fault with a negative code, and one that is all default. -/
def ailing : HealthCheckResponse := ⟨-7, [⟨-1, "disk full · Platte voll"⟩, ⟨0, ""⟩]⟩

/-- The fault that is all default has no bytes of its own, but it is not lost. -/
theorem messages_return_ailing :
    (encode ailing).length < wordSize ∧ decode (encode ailing) = some ailing := by
  have held : (encode ailing).length < wordSize := by decide +kernel
  exact ⟨held, messages_return.2.1 ailing held⟩

end DeviceLink.Wire
