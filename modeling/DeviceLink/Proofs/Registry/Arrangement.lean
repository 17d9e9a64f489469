import DeviceLink.Proofs.Registry.Fields
import Mathlib.Logic.Relation
/-!
# The arrangement of a device document

Where a structure of a document is written as an object, its members may stand in any order, and
among them may stand others whose keys it does not know. Such edits, anywhere in a document and any
number of them, leave what is read from it as it is (`DeviceDocument.read_edits`). For a condition
this needs its tree to be one that can be kept, as its unknown members are kept too, before they
are dropped.
-/
namespace DeviceLink

open Source (Alters Reads required optional orElse)

/-! ## Places -/

/-- The structures of a device document. -/
inductive Structure
  | document
  | table
  | device
  | model
  | tag
  | mapping
  | range
  | condition

/-- What is expected somewhere in a document: a structure, a list of them, or a value that has no
structures in it. -/
inductive Site
  | one (t : Structure)
  | many (t : Structure)
  | value

namespace Structure

/-- The keys that a structure knows; a condition those of all thresholds, whatever its kind. -/
def keys : Structure → List String
  | .document => DeviceDocument.keys
  | .table => TableConfig.keys
  | .device => DeviceConfig.keys
  | .model => DeviceModel.keys
  | .tag => Tag.keys
  | .mapping => LinearMapping.keys
  | .range => RangeSpec.keys
  | .condition => Condition.ownKeys ++ ["condition", "minValue", "maxValue", "value"]

/-- What is expected under a key. -/
def site : Structure → String → Site
  | .document, "tables" => .many .table
  | .table, "device" => .one .model
  | .table, "devices" => .many .device
  | .device, "device" => .one .model
  | .model, "tags" => .many .tag
  | .tag, "tagValue" => .one .mapping
  | .tag, "range" => .one .range
  | .range, "conditions" => .many .condition
  | _, _ => .value

def Value : Structure → Type
  | .document => DeviceDocument
  | .table => TableConfig
  | .device => DeviceConfig
  | .model => DeviceModel
  | .tag => Tag
  | .mapping => LinearMapping
  | .range => RangeSpec
  | .condition => Condition

def read : (t : Structure) → Room → Source → Option t.Value
  | .document => DeviceDocument.read
  | .table => TableConfig.read
  | .device => DeviceConfig.read
  | .model => DeviceModel.read
  | .tag => Tag.read
  | .mapping => fun _ => LinearMapping.read
  | .range => RangeSpec.read
  | .condition => Condition.read

end Structure

/-- What is expected under a key of whatever stands at a site. -/
def Site.member : Site → String → Site
  | .one t => t.site
  | .many _ => fun _ => .value
  | .value => fun _ => .value

/-! ## Edits -/

/-- One edit at a site or somewhere below it: the members of an object are put into another order,
or a structure gets a member whose key it does not know. -/
inductive Edit : Site → Source → Source → Prop
  | permute {p : Site} {ms ms' : List (String × Source)} (h : ms.Perm ms') :
      Edit p (.object ms) (.object ms')
  | add {t : Structure} {k : String} (unknown : k ∉ t.keys) (pre post : List (String × Source))
      (v : Source) : Edit (.one t) (.object (pre ++ post)) (.object (pre ++ (k, v) :: post))
  | member {p : Site} {k : String} {v v' : Source} (pre post : List (String × Source))
      (h : Edit (p.member k) v v') :
      Edit p (.object (pre ++ (k, v) :: post)) (.object (pre ++ (k, v') :: post))
  | listed {t : Structure} {v v' : Source} (pre post : List Source) (h : Edit (.one t) v v') :
      Edit (.many t) (.array (pre ++ v :: post)) (.array (pre ++ v' :: post))
  | item {v v' : Source} (pre post : List Source) (h : Edit .value v v') :
      Edit .value (.array (pre ++ v :: post)) (.array (pre ++ v' :: post))

theorem forall_replaced {α : Type} {p : α → Prop} {pre post : List α} {a a' : α}
    (back : p a' → p a) (all : ∀ x ∈ pre ++ a' :: post, p x) : ∀ x ∈ pre ++ a :: post, p x := by
  simp only [List.forall_mem_append, List.forall_mem_cons] at all ⊢
  exact ⟨all.1, back all.2.1, all.2.2⟩

/-- Nothing is taken away by an edit, so that what can be kept after it could be before. -/
theorem Edit.kept {p : Site} {s s' : Source} (e : Edit p s s') :
    ∀ {room : Room}, (s'.keep room).isSome = true → (s.keep room).isSome = true := by
  induction e with
  | permute h =>
    intro room kept
    obtain ⟨inner, entered, each⟩ := (Source.keep_object_isSome_iff _).1 kept
    exact (Source.keep_object_isSome_iff _).2
      ⟨inner, entered, fun m hm => each m (h.mem_iff.1 hm)⟩
  | add unknown pre post v =>
    intro room kept
    obtain ⟨inner, entered, each⟩ := (Source.keep_object_isSome_iff _).1 kept
    refine (Source.keep_object_isSome_iff _).2 ⟨inner, entered, fun m hm => each m ?_⟩
    rcases List.mem_append.1 hm with earlier | later
    · exact List.mem_append_left _ earlier
    · exact List.mem_append_right _ (List.mem_cons_of_mem _ later)
  | member pre post h ih =>
    intro room kept
    obtain ⟨inner, entered, each⟩ := (Source.keep_object_isSome_iff _).1 kept
    exact (Source.keep_object_isSome_iff _).2 ⟨inner, entered, forall_replaced ih each⟩
  | listed pre post h ih =>
    intro room kept
    obtain ⟨inner, entered, each⟩ := (Source.keep_array_isSome_iff _).1 kept
    exact (Source.keep_array_isSome_iff _).2 ⟨inner, entered, forall_replaced ih each⟩
  | item pre post h ih =>
    intro room kept
    obtain ⟨inner, entered, each⟩ := (Source.keep_array_isSome_iff _).1 kept
    exact (Source.keep_array_isSome_iff _).2 ⟨inner, entered, forall_replaced ih each⟩

/-! ## What an edit leaves as it is -/

/-- Both are objects or both are arrays: nothing that is read as a scalar. -/
inductive Alike : Source → Source → Prop
  | objects (ms ms' : List (String × Source)) : Alike (.object ms) (.object ms')
  | arrays (items items' : List Source) : Alike (.array items) (.array items')

theorem Edit.alike {p : Site} {s s' : Source} (e : Edit p s s') : Alike s s' := by
  cases e with
  | permute => exact .objects _ _
  | add => exact .objects _ _
  | member => exact .objects _ _
  | listed => exact .arrays _ _
  | item => exact .arrays _ _

namespace Alike

variable {α : Type} {s s' : Source}

theorem text (h : Alike s s') : s'.text = s.text := by cases h <;> rfl

theorem flag (h : Alike s s') : s'.flag = s.flag := by cases h <;> rfl

theorem double (h : Alike s s') : s'.double = s.double := by cases h <;> rfl

theorem natBelow (h : Alike s s') (bound : Nat) : s'.natBelow bound = s.natBelow bound := by
  cases h <;> rfl

theorem kind (h : Alike s s') : TestKind.read s' = TestKind.read s := by cases h <;> rfl

/-- Neither is null, so that both are present. -/
theorem optional {read : Source → Option α} (h : Alike s s') (same : read s' = read s) :
    Source.optional read (some s') = Source.optional read (some s) := by
  cases h with
  | objects => exact congrArg (Option.map some) same
  | arrays => exact congrArg (Option.map some) same

end Alike

/-- The two are read alike where one of them is expected. -/
def Site.Agrees (room : Room) : Site → Source → Source → Prop
  | .one t, s, s' => t.read room s' = t.read room s
  | .many t, s, s' =>
    ∀ inner, room.enter = some inner → s'.list (t.read inner) = s.list (t.read inner)
  | .value, s, s' => ∀ (α : Type) (read : String → Option α), s'.variant read = s.variant read

/-! ## The reading of a structure -/

section structures

variable {room inner : Room} {ms ms' : List (String × Source)}

theorem Room.enterBy_two (entered : room.enter = some inner) : room.enterBy 2 = inner.enter := by
  rw [enterBy, entered, Option.bind_some]
  exact Option.bind_fun_some _

/-- What is under the keys of a structure may differ in what its readers do not see. -/
abbrev Structure.Altered (t : Structure) (inner : Room) : List (String × Source) →
    List (String × Source) → Prop :=
  Alters t.keys fun k v v' => Alike v v' ∧ (t.site k).Agrees inner v v'

namespace Structure.Altered

variable {t : Structure} {key : String} (h : t.Altered inner ms ms') (known : key ∈ t.keys)
include h known

theorem text (a : String) :
    Reads ms' key (required Source.text) a ↔ Reads ms key (required Source.text) a :=
  h.reads_iff key known (fun _ _ seen => seen.1.text) a

theorem optionalText (a : Option String) :
    Reads ms' key (optional Source.text) a ↔ Reads ms key (optional Source.text) a :=
  h.reads_iff key known (fun _ _ seen => seen.1.optional seen.1.text) a

theorem number (x : Float) :
    Reads ms' key (required Source.double) x ↔ Reads ms key (required Source.double) x :=
  h.reads_iff key known (fun _ _ seen => seen.1.double) x

theorem optionalNumber (x : Option Float) :
    Reads ms' key (optional Source.double) x ↔ Reads ms key (optional Source.double) x :=
  h.reads_iff key known (fun _ _ seen => seen.1.optional seen.1.double) x

theorem flag (default b : Bool) :
    Reads ms' key (orElse Source.flag default) b ↔ Reads ms key (orElse Source.flag default) b :=
  h.reads_iff key known (fun _ _ seen => seen.1.flag) b

theorem kind (k : TestKind) :
    Reads ms' key (required TestKind.read) k ↔ Reads ms key (required TestKind.read) k :=
  h.reads_iff key known (fun _ _ seen => seen.1.kind) k

theorem model (here : t.site key = .one .model) (default m : DeviceModel) :
    Reads ms' key (orElse (DeviceModel.read inner) default) m ↔
      Reads ms key (orElse (DeviceModel.read inner) default) m := by
  refine h.reads_iff key known (fun v v' seen => ?_) m
  rw [here] at seen
  exact seen.2

end Structure.Altered

/-- The members that a condition does not know have to be kept on both sides. -/
theorem Condition.read_altered (entered : room.enter = some inner)
    (kept : ∀ m ∈ ms, (m.2.keep inner).isSome = true)
    (kept' : ∀ m ∈ ms', (m.2.keep inner).isSome = true)
    (h : Structure.condition.Altered inner ms ms') :
    Condition.read room (.object ms') = Condition.read room (.object ms) := by
  refine Option.ext fun c => ?_
  rw [Condition.read_object_iff, Condition.read_object_iff, entered]
  simp only [Option.some.injEq, exists_eq_left']
  have stands : c.test.Stands ms' ↔ c.test.Stands ms := by
    cases c.test with
    | within lo hi =>
      refine and_congr (h.kind (by decide) _) ?_
      exact and_congr (h.number (by decide) lo) (h.number (by decide) hi)
    | greater t => exact and_congr (h.kind (by decide) _) (h.number (by decide) t)
    | less t => exact and_congr (h.kind (by decide) _) (h.number (by decide) t)
  refine and_congr (iff_of_true (fun m hm _ => kept' m hm) fun m hm _ => kept m hm) ?_
  refine and_congr (h.optionalText (by decide) _) ?_
  refine and_congr (h.reads_iff "mode" (by decide) (fun _ _ seen => seen.2 _ Mode.ofName) _) ?_
  exact and_congr (h.flag (by decide) false _) stands

theorem LinearMapping.read_altered (h : Structure.mapping.Altered inner ms ms') :
    LinearMapping.read (.object ms') = LinearMapping.read (.object ms) := by
  refine Option.ext fun m => ?_
  rw [LinearMapping.read_object_iff, LinearMapping.read_object_iff]
  refine and_congr (h.optionalNumber (by decide) _) ?_
  refine and_congr (h.optionalNumber (by decide) _) ?_
  exact and_congr (h.optionalNumber (by decide) _) (h.optionalNumber (by decide) _)

theorem RangeSpec.read_altered (entered : room.enter = some inner)
    (h : Structure.range.Altered inner ms ms') :
    RangeSpec.read room (.object ms') = RangeSpec.read room (.object ms) := by
  refine Option.ext fun r => ?_
  rw [RangeSpec.read_object_iff, RangeSpec.read_object_iff, Room.enterBy_two entered]
  refine exists_congr fun deeper => and_congr_right fun down => ?_
  refine and_congr (h.optionalNumber (by decide) _) ?_
  refine and_congr (h.optionalNumber (by decide) _) ?_
  refine and_congr (h.reads_iff "conditions" (by decide) (fun _ _ seen => seen.2 deeper down) _) ?_
  refine and_congr (h.reads_iff "action" (by decide) (fun _ _ seen => seen.2 _ Action.ofName) _) ?_
  refine and_congr (h.optionalNumber (by decide) _) ?_
  refine and_congr ?_ (h.flag (by decide) false _)
  exact h.reads_iff "invalidAction" (by decide) (fun _ _ seen => seen.2 _ Trace.ofName) _

theorem Tag.read_altered (entered : room.enter = some inner)
    (h : Structure.tag.Altered inner ms ms') :
    Tag.read room (.object ms') = Tag.read room (.object ms) := by
  refine Option.ext fun t => ?_
  rw [Tag.read_object_iff, Tag.read_object_iff, entered]
  simp only [Option.some.injEq, exists_eq_left']
  refine and_congr (h.text (by decide) _) (and_congr (h.optionalText (by decide) _) ?_)
  refine and_congr
    (h.reads_iff "tagValue" (by decide) (fun _ _ seen => seen.1.optional seen.2) _) ?_
  refine and_congr (h.reads_iff "range" (by decide) (fun _ _ seen => seen.1.optional seen.2) _) ?_
  refine and_congr (h.optionalNumber (by decide) _) ?_
  exact h.reads_iff "fixed" (by decide) (fun _ _ seen => seen.1.optional (seen.1.natBelow _)) _

theorem DeviceModel.read_altered (entered : room.enter = some inner)
    (h : Structure.model.Altered inner ms ms') :
    DeviceModel.read room (.object ms') = DeviceModel.read room (.object ms) := by
  refine Option.ext fun m => ?_
  rw [DeviceModel.read_object_iff, DeviceModel.read_object_iff, Room.enterBy_two entered]
  refine exists_congr fun deeper => and_congr_right fun down => ?_
  exact h.reads_iff "tags" (by decide) (fun _ _ seen => seen.2 deeper down) _

theorem DeviceConfig.read_altered (entered : room.enter = some inner)
    (h : Structure.device.Altered inner ms ms') :
    DeviceConfig.read room (.object ms') = DeviceConfig.read room (.object ms) := by
  refine Option.ext fun d => ?_
  rw [DeviceConfig.read_object_iff, DeviceConfig.read_object_iff, entered]
  simp only [Option.some.injEq, exists_eq_left']
  refine and_congr (h.text (by decide) _) ?_
  exact and_congr (h.optionalText (by decide) _) (h.model (by decide) rfl ⟨[]⟩ _)

theorem TableConfig.read_altered (entered : room.enter = some inner)
    (h : Structure.table.Altered inner ms ms') :
    TableConfig.read room (.object ms') = TableConfig.read room (.object ms) := by
  refine Option.ext fun t => ?_
  rw [TableConfig.read_object_iff, TableConfig.read_object_iff, entered]
  simp only [Option.some.injEq, exists_eq_left']
  refine exists_congr fun deeper => and_congr_right fun down => ?_
  refine and_congr (h.text (by decide) _) (and_congr (h.model (by decide) rfl ⟨[]⟩ _) ?_)
  exact h.reads_iff "devices" (by decide) (fun _ _ seen => seen.2 deeper down) _

theorem DeviceDocument.read_altered (entered : room.enter = some inner)
    (h : Structure.document.Altered inner ms ms') :
    DeviceDocument.read room (.object ms') = DeviceDocument.read room (.object ms) := by
  refine Option.ext fun d => ?_
  rw [DeviceDocument.read_object_iff, DeviceDocument.read_object_iff, Room.enterBy_two entered]
  refine exists_congr fun deeper => and_congr_right fun down => ?_
  exact h.reads_iff "tables" (by decide) (fun _ _ seen => seen.2 deeper down) _

/-- A structure is read from the values of its keys, and from nothing else in its members. -/
theorem Structure.read_altered (t : Structure) (entered : room.enter = some inner)
    (kept : ∀ m ∈ ms, (m.2.keep inner).isSome = true)
    (kept' : ∀ m ∈ ms', (m.2.keep inner).isSome = true) (h : t.Altered inner ms ms') :
    t.read room (.object ms') = t.read room (.object ms) := by
  cases t with
  | document => exact DeviceDocument.read_altered entered h
  | table => exact TableConfig.read_altered entered h
  | device => exact DeviceConfig.read_altered entered h
  | model => exact DeviceModel.read_altered entered h
  | tag => exact Tag.read_altered entered h
  | mapping => exact LinearMapping.read_altered h
  | range => exact RangeSpec.read_altered entered h
  | condition => exact Condition.read_altered entered kept kept' h

end structures

/-! ## One edit -/

section names

variable {α : Type} (read : String → Option α)

theorem Source.variant_many (m m' : String × Source) (ms : List (String × Source)) :
    (Source.object (m :: m' :: ms)).variant read = none := by
  obtain ⟨k, v⟩ := m
  cases v <;> rfl

theorem Source.variant_perm {ms ms' : List (String × Source)} (h : ms.Perm ms') :
    (Source.object ms').variant read = (Source.object ms).variant read := by
  match ms, ms', h with
  | [], ms', h => rw [h.nil_eq]
  | [m], ms', h => rw [List.singleton_perm.1 h]
  | m :: m' :: ms, [], h => exact absurd h.length_eq (by simp)
  | m :: m' :: ms, [n], h => exact absurd h.length_eq (by simp)
  | m :: m' :: ms, n :: n' :: ms', h => rw [variant_many, variant_many]

theorem Source.variant_replaced {v v' : Source} (h : Alike v v') (k : String)
    (pre post : List (String × Source)) :
    (Source.object (pre ++ (k, v') :: post)).variant read =
      (Source.object (pre ++ (k, v) :: post)).variant read := by
  match pre, post with
  | [], [] => cases h <;> rfl
  | [], m :: post => exact (variant_many read _ m post).trans (variant_many read _ m post).symm
  | [m], post => exact (variant_many read m _ post).trans (variant_many read m _ post).symm
  | m :: m' :: pre, post => exact (variant_many read m m' _).trans (variant_many read m m' _).symm

end names

theorem Source.list_replaced {α : Type} {read : Source → Option α} {v v' : Source}
    (same : read v' = read v) (pre post : List Source) :
    (Source.array (pre ++ v' :: post)).list read = (Source.array (pre ++ v :: post)).list read := by
  simp only [Source.list, List.mapM_append, List.mapM_cons, same]

/-- The step: whatever is expected where a tree is edited, it is read from the edited tree as it was
before. -/
theorem Edit.agrees {p : Site} {s s' : Source} (e : Edit p s s') :
    ∀ {room : Room}, (s'.keep room).isSome = true → p.Agrees room s s' := by
  induction e with
  | @permute p ms ms' h =>
    intro room kept
    cases p with
    | one t =>
      obtain ⟨inner, entered, each⟩ := (Source.keep_object_isSome_iff _).1 kept
      exact t.read_altered entered (fun m hm => each m (h.mem_iff.1 hm)) each (.of_perm h)
    | many t => exact fun _ _ => rfl
    | value => exact fun _ read => Source.variant_perm read h
  | @add t k unknown pre post v =>
    intro room kept
    obtain ⟨inner, entered, each⟩ := (Source.keep_object_isSome_iff _).1 kept
    have before : ∀ m ∈ pre ++ post, (m.2.keep inner).isSome = true := fun m hm =>
      each m ((List.sublist_cons_self (k, v) post).append_left pre |>.subset hm)
    exact t.read_altered entered before each (.of_insert unknown pre post v)
  | @member p k v v' pre post e ih =>
    intro room kept
    cases p with
    | one t =>
      obtain ⟨inner, entered, each⟩ := (Source.keep_object_isSome_iff _).1 kept
      have after : (v'.keep inner).isSome = true :=
        each (k, v') (List.mem_append_right _ List.mem_cons_self)
      exact t.read_altered entered (forall_replaced e.kept each) each
        (.of_replace ⟨e.alike, ih after⟩ pre post)
    | many t => exact fun _ _ => rfl
    | value => exact fun _ read => Source.variant_replaced read e.alike k pre post
  | @listed t v v' pre post e ih =>
    intro room kept inner entered
    obtain ⟨inner', entered', each⟩ := (Source.keep_array_isSome_iff _).1 kept
    obtain rfl : inner' = inner := Option.some.inj (entered'.symm.trans entered)
    exact Source.list_replaced (ih (each v' (List.mem_append_right _ List.mem_cons_self))) pre post
  | item pre post e ih => exact fun _ _ _ => rfl

/-! ## Any number of edits -/

/-- **A device document is read the same however its members are ordered and whatever it has beside
those that are known.** Whether it is read at all does not change either. The edited tree has to be
one of values: finite numbers and readable text, within the levels that there is room for. -/
theorem DeviceDocument.read_edits {room : Room} {s s' : Source}
    (edits : Relation.ReflTransGen (Edit (.one .document)) s s')
    (kept : (s'.keep room).isSome = true) :
    DeviceDocument.read room s' = DeviceDocument.read room s := by
  induction edits with
  | refl => rfl
  | tail earlier e ih => exact (e.agrees kept).trans (ih (e.kept kept))

/-! ### A condition with a note -/

/-- A document with one condition, and what stands beside its tables. -/
def guarded (condition beside : List (String × Source)) : Source :=
  .object (beside ++ [("tables", .array [.object [("id", .string "boiler"),
    ("device", .object [("tags", .array [.object [("id", .string "temp"),
      ("range", .object [("action", .string "discard"),
        ("conditions", .array [.object condition])])]])]),
    ("devices", .array [.object [("id", .string "b-1")]])]])])

theorem guarded_edit {condition condition' : List (String × Source)}
    (e : Edit (.one .condition) (.object condition) (.object condition'))
    (beside : List (String × Source)) :
    Edit (.one .document) (guarded condition beside) (guarded condition' beside) := by
  have range : Edit (.one .range) _ _ :=
    .member (k := "conditions") [("action", .string "discard")] [] (.listed [] [] e)
  have tag : Edit (.one .tag) _ _ := .member (k := "range") [("id", .string "temp")] [] range
  have model : Edit (.one .model) _ _ := .member (k := "tags") [] [] (.listed [] [] tag)
  have table : Edit (.one .table) _ _ :=
    .member (k := "device") [("id", .string "boiler")]
      [("devices", .array [.object [("id", .string "b-1")]])] model
  exact .member (k := "tables") beside [] (.listed [] [] table)

/-- The threshold of a condition may come before the name of its kind, with a note in front of both,
and the document may say whose it is. -/
theorem read_edits_guarded :
    let plain := guarded [("mode", .string "number"), ("condition", .string "greater"),
      ("value", .number (.int 90))] []
    let dressed := guarded [("note", .object []), ("value", .number (.int 90)),
      ("condition", .string "greater"), ("mode", .string "number")] [("vendor", .string "acme")]
    Relation.ReflTransGen (Edit (.one .document)) plain dressed ∧
      (dressed.keep none).isSome = true ∧ (DeviceDocument.read none plain).isSome = true ∧
      DeviceDocument.read none dressed = DeviceDocument.read none plain := by
  intro plain dressed
  have turned : Edit (.one .condition) (.object [("mode", .string "number"),
      ("condition", .string "greater"), ("value", .number (.int 90))])
      (.object [("value", .number (.int 90)), ("condition", .string "greater"),
        ("mode", .string "number")]) :=
    .permute (List.reverse_perm _).symm
  have noted : Edit (.one .condition) (.object [("value", .number (.int 90)),
      ("condition", .string "greater"), ("mode", .string "number")])
      (.object [("note", .object []), ("value", .number (.int 90)),
        ("condition", .string "greater"), ("mode", .string "number")]) :=
    .add (by decide) [] _ _
  have signed : Edit (.one .document) (guarded _ []) dressed := .add (by decide) [] _ _
  have edits : Relation.ReflTransGen (Edit (.one .document)) plain dressed :=
    ((Relation.ReflTransGen.single (guarded_edit turned [])).tail (guarded_edit noted [])).tail
      signed
  have kept : (dressed.keep none).isSome = true := by decide +kernel
  exact ⟨edits, kept, by decide +kernel, DeviceDocument.read_edits edits kept⟩

end DeviceLink
