import DeviceLink.Proofs.Json.Written
import DeviceLink.Proofs.Registry.Fields
import DeviceLink.Registry.Basic
/-!
# Device documents come back

A document of finite numbers is read back as it was, from its text as well as from the tree that is
kept of it (`DeviceDocument.write_returns`). The fields of a structure are written in their order,
those that are absent are left out or null; each is found again under its key, wherever it stands,
and what is left out is what a reader puts in.
-/
namespace DeviceLink

open Source (Reads required optional orElse)

/-! ## Documents that can be written -/

/-- The numbers that are present are finite. -/
def Test.Finite : Test Float → Prop
  | .within lo hi => Number.isFinite lo = true ∧ Number.isFinite hi = true
  | .greater t => Number.isFinite t = true
  | .less t => Number.isFinite t = true

structure LinearMapping.Finite (m : LinearMapping) : Prop where
  minRaw : ∀ x ∈ m.minRaw, Number.isFinite x = true
  maxRaw : ∀ x ∈ m.maxRaw, Number.isFinite x = true
  minValue : ∀ x ∈ m.minValue, Number.isFinite x = true
  maxValue : ∀ x ∈ m.maxValue, Number.isFinite x = true

structure RangeSpec.Finite (r : RangeSpec) : Prop where
  minValue : ∀ x ∈ r.minValue, Number.isFinite x = true
  maxValue : ∀ x ∈ r.maxValue, Number.isFinite x = true
  conditions : ∀ c ∈ r.conditions, c.test.Finite
  fixedValue : ∀ x ∈ r.fixedValue, Number.isFinite x = true

/-- All numbers are finite, and the number of digits is one of its field's width. -/
structure Tag.Fits (t : Tag) : Prop where
  mapping : ∀ m ∈ t.mapping, m.Finite
  range : ∀ r ∈ t.range, r.Finite
  scale : ∀ x ∈ t.scale, Number.isFinite x = true
  fixed : ∀ n ∈ t.fixed, n < Nat.pow 2 32

def DeviceModel.Fits (m : DeviceModel) : Prop := ∀ t ∈ m.tags, t.Fits

structure TableConfig.Fits (t : TableConfig) : Prop where
  device : t.device.Fits
  devices : ∀ d ∈ t.devices, d.device.Fits

def DeviceDocument.Fits (d : DeviceDocument) : Prop := ∀ t ∈ d.tables, t.Fits

/-! ## Names -/

theorem Mode.ofName_name (m : Mode) : Mode.ofName m.name = some m := by cases m <;> rfl

theorem Action.ofName_name (a : Action) : Action.ofName a.name = some a := by cases a <;> rfl

theorem Trace.ofName_name (t : Trace) : Trace.ofName t.name = some t := by cases t <;> rfl

/-! ## Scalars -/

section scalars

variable {W : Json → Source → Prop} {s : Source}

theorem Writing.text (hW : Writing W) {t : String} (h : W (.string t) s) : s.text = some t := by
  rw [hW.string h, Source.text]

theorem Writing.flag (hW : Writing W) {b : Bool} (h : W (.bool b) s) : s.flag = some b := by
  rw [hW.bool h, Source.flag]

theorem Writing.double (hW : Writing W) {x : Float} (finite : Number.isFinite x = true)
    (h : W (.ofFloat x) s) : s.double = some x := by
  rw [hW.number h, Source.double, Number.toFloat, if_pos finite]

theorem Writing.natBelow (hW : Writing W) {n bound : Nat} (small : n < bound) (h : W (.ofNat n) s) :
    s.natBelow bound = some n := by
  have fits : (0 : Int) ≤ n ∧ (n : Int) < bound := by omega
  rw [hW.number h, Source.natBelow, if_pos fits, Int.toNat_natCast]

theorem Writing.variant (hW : Writing W) {α : Type} {read : String → Option α} {t : String} {a : α}
    (named : read t = some a) (h : W (.string t) s) : s.variant read = some a := by
  rw [hW.string h, Source.variant, named]

theorem Writing.kind (hW : Writing W) {kind : TestKind} {t : String}
    (named : TestKind.ofName t = some kind) (h : W (.string t) s) :
    TestKind.read s = some kind := by
  rw [hW.string h, TestKind.read, named]

end scalars

/-! ## Keys -/

theorem keys_memberIf {α : Type} (key : String) (write : α → Json) (o : Option α) :
    ((Json.memberIf key write o).map Prod.fst).Sublist [key] := by
  cases o with
  | none => exact List.nil_sublist _
  | some a => exact List.Sublist.refl _

@[simp]
theorem lookup_memberIf {α : Type} (key k : String) (write : α → Json) (o : Option α) :
    (Json.memberIf k write o).lookup key = if key = k then o.map write else none := by
  cases o with
  | none => rw [Option.map_none, ite_self]; rfl
  | some a => exact Assoc.lookup_entry key (k, write a) []

/-! ## Levels -/

theorem Room.enterBy_add (m n : Nat) (room : Room) :
    room.enterBy (m + n) = (room.enterBy m).bind fun inner => inner.enterBy n := by
  induction m generalizing room with
  | zero => rw [Nat.zero_add, enterBy]; rfl
  | succ m ih =>
    rw [Nat.succ_add, enterBy, enterBy, Option.bind_assoc]
    exact congrArg _ (funext fun inner => ih inner)

/-- What is deep enough for several levels has as many below the first of them as are left. -/
theorem Room.split (m n : Nat) {room : Room} (deep : (room.enterBy (m + n)).isSome = true) :
    ∃ inner, room.enterBy m = some inner ∧ (inner.enterBy n).isSome = true := by
  rw [enterBy_add] at deep
  cases entered : room.enterBy m with
  | none => rw [entered] at deep; cases deep
  | some inner =>
    rw [entered] at deep
    exact ⟨inner, rfl, deep⟩

theorem Room.enterBy_one (room : Room) : room.enterBy 1 = room.enter := Option.bind_fun_some _

/-! ## Conditions -/

/-- A value with nothing in it that could not be kept. -/
inductive Json.Scalar : Json → Prop
  | string (t : String) : Scalar (.string t)
  | bool (b : Bool) : Scalar (.bool b)
  | float {x : Float} (finite : Number.isFinite x = true) : Scalar (.ofFloat x)

theorem Json.Scalar.kept {W : Json → Source → Prop} (hW : Writing W) {j : Json} (scalar : j.Scalar)
    {s : Source} (h : W j s) (room : Room) : (s.keep room).isSome = true := by
  cases scalar with
  | string t => rw [hW.string h]; rfl
  | bool b => rw [hW.bool h]; rfl
  | float finite => rw [hW.number h, Source.keep, if_pos finite]; rfl

section structures

variable {W : Json → Source → Prop} {room : Room} {s : Source}

theorem Condition.keys_write (c : Condition) : (c.write.members.map Prod.fst).Nodup := by
  obtain ⟨id, mode, test, isDefault⟩ := c
  cases id <;> cases test <;> exact of_decide_eq_true rfl

theorem Condition.scalars_write {c : Condition} (finite : c.test.Finite) :
    ∀ m ∈ c.write.members, m.2.Scalar := by
  obtain ⟨id, mode, test, isDefault⟩ := c
  have named : ∀ m ∈ Json.memberIf "id" Json.string id, m.2.Scalar := by
    cases id with
    | none => exact fun m hm => nomatch hm
    | some t => exact List.forall_mem_singleton.2 (.string t)
  have thresholds : ∀ m ∈ test.members, m.2.Scalar := by
    cases test with
    | within lo hi =>
      exact List.forall_mem_cons.2 ⟨.string _, List.forall_mem_cons.2 ⟨.float finite.1,
        List.forall_mem_singleton.2 (.float finite.2)⟩⟩
    | greater t =>
      exact List.forall_mem_cons.2 ⟨.string _, List.forall_mem_singleton.2 (.float finite)⟩
    | less t =>
      exact List.forall_mem_cons.2 ⟨.string _, List.forall_mem_singleton.2 (.float finite)⟩
  simp only [write, Json.members, List.forall_mem_append, List.forall_mem_singleton]
  exact ⟨⟨⟨named, .string _⟩, thresholds⟩, .bool _⟩

theorem Condition.read_write (hW : Writing W) (deep : (room.enterBy 1).isSome = true)
    {c : Condition} (finite : c.test.Finite) (h : W c.write s) :
    Condition.read room s = some c := by
  obtain ⟨ns, rfl, shows⟩ := hW.members h c.keys_write
  obtain ⟨inner, entered⟩ := Option.isSome_iff_exists.1 deep
  rw [Room.enterBy_one] at entered
  refine Condition.read_object_iff.2 ⟨inner, entered, ?_, ?_, ?_, ?_, ?_⟩
  · intro n hn _
    obtain ⟨m, hm, -, written⟩ := shows.only hn
    exact (scalars_write finite m hm).kept hW written inner
  · refine shows.optional ?_ rfl fun t _ s h => hW.text h
    cases c.test <;> simp [Test.members, List.lookup_append, List.lookup_cons]
  · refine shows.required ?_ fun s h => hW.variant c.mode.ofName_name h
    simp [List.lookup_append]
  · refine shows.orElse _ ?_ fun s h => hW.flag h
    cases c.test <;> simp [Test.members, List.lookup_append, List.lookup_cons]
  · obtain ⟨id, mode, test, isDefault⟩ := c
    cases test with
    | within lo hi =>
      refine ⟨shows.required ?_ fun s h => hW.kind (t := "range") rfl h,
        shows.required ?_ fun s h => hW.double finite.1 h,
        shows.required ?_ fun s h => hW.double finite.2 h⟩
      all_goals simp [Test.members, List.lookup_append, List.lookup_cons]
    | greater t =>
      refine ⟨shows.required ?_ fun s h => hW.kind (t := "greater") rfl h,
        shows.required ?_ fun s h => hW.double finite h⟩
      all_goals simp [Test.members, List.lookup_append, List.lookup_cons]
    | less t =>
      refine ⟨shows.required ?_ fun s h => hW.kind (t := "less") rfl h,
        shows.required ?_ fun s h => hW.double finite h⟩
      all_goals simp [Test.members, List.lookup_append, List.lookup_cons]

/-! ## Mappings, ranges and tags -/

theorem LinearMapping.keys_write (m : LinearMapping) : (m.write.members.map Prod.fst).Nodup :=
  of_decide_eq_true rfl

theorem LinearMapping.read_write (hW : Writing W) {m : LinearMapping} (finite : m.Finite)
    (h : W m.write s) : LinearMapping.read s = some m := by
  obtain ⟨ns, rfl, shows⟩ := hW.members h m.keys_write
  refine LinearMapping.read_object_iff.2 ⟨?_, ?_, ?_, ?_⟩
  · exact shows.orNull hW rfl rfl fun x hx s h => hW.double (finite.minRaw x hx) h
  · exact shows.orNull hW rfl rfl fun x hx s h => hW.double (finite.maxRaw x hx) h
  · exact shows.orNull hW rfl rfl fun x hx s h => hW.double (finite.minValue x hx) h
  · exact shows.orNull hW rfl rfl fun x hx s h => hW.double (finite.maxValue x hx) h

theorem RangeSpec.keys_write (r : RangeSpec) : (r.write.members.map Prod.fst).Sublist keys := by
  have conditions : (List.map Prod.fst (if r.conditions.isEmpty then []
      else [("conditions", Json.array (r.conditions.map Condition.write))])).Sublist
        ["conditions"] := by
    cases r.conditions with
    | nil => exact List.nil_sublist _
    | cons c cs => exact List.Sublist.refl _
  simp only [write, Json.members, List.map_append]
  exact (((((keys_memberIf "minValue" _ _).append (keys_memberIf "maxValue" _ _)).append
    conditions).append (.refl ["action"])).append (keys_memberIf "fixedValue" _ _)).append
      (.refl ["invalidAction", "saveInvalidValue"])

theorem RangeSpec.read_write (hW : Writing W) (deep : (room.enterBy 3).isSome = true)
    {r : RangeSpec} (finite : r.Finite) (h : W r.write s) : RangeSpec.read room s = some r := by
  obtain ⟨ns, rfl, shows⟩ := hW.members h (r.keys_write.nodup (by decide))
  obtain ⟨inner, entered, deep⟩ := Room.split 2 1 deep
  obtain ⟨minValue, maxValue, conditions, action, fixedValue, invalidAction, save⟩ := r
  refine RangeSpec.read_object_iff.2 ⟨inner, entered, ?_, ?_, ?_, ?_, ?_, ?_, ?_⟩
  · refine shows.optional ?_ rfl fun x hx s h => hW.double (finite.minValue x hx) h
    cases conditions <;> simp [List.lookup_append, List.lookup_cons]
  · refine shows.optional ?_ rfl fun x hx s h => hW.double (finite.maxValue x hx) h
    cases conditions <;> simp [List.lookup_append, List.lookup_cons]
  · cases conditions with
    | nil =>
      refine shows.absent ?_ []
      simp [List.lookup_append, List.lookup_cons]
    | cons c cs =>
      refine shows.orElse (j := .array ((c :: cs).map Condition.write)) _ ?_ fun s h =>
        hW.list h fun c hc s h => Condition.read_write hW deep (finite.conditions c hc) h
      simp [List.lookup_append]
  · refine shows.required ?_ fun s h => hW.variant action.ofName_name h
    cases conditions <;> simp [List.lookup_append, List.lookup_cons]
  · refine shows.optional ?_ rfl fun x hx s h => hW.double (finite.fixedValue x hx) h
    cases conditions <;> simp [List.lookup_append, List.lookup_cons]
  · refine shows.orElse _ ?_ fun s h => hW.variant invalidAction.ofName_name h
    cases conditions <;> simp [List.lookup_append, List.lookup_cons]
  · refine shows.orElse _ ?_ fun s h => hW.flag h
    cases conditions <;> simp [List.lookup_append, List.lookup_cons]

theorem RangeSpec.read_null (room : Room) : RangeSpec.read room .null = none := by
  rw [read]
  cases room.enterBy 2 <;> rfl

theorem Tag.keys_write (t : Tag) : (t.write.members.map Prod.fst).Sublist keys := by
  simp only [write, Json.members, List.map_append]
  exact (((((List.Sublist.refl ["id"]).append (keys_memberIf "name" _ _)).append
    (keys_memberIf "tagValue" _ _)).append (keys_memberIf "range" _ _)).append
      (keys_memberIf "scale" _ _)).append (keys_memberIf "fixed" _ _)

theorem Tag.read_write (hW : Writing W) (deep : (room.enterBy 4).isSome = true) {t : Tag}
    (fits : t.Fits) (h : W t.write s) : Tag.read room s = some t := by
  obtain ⟨ns, rfl, shows⟩ := hW.members h (t.keys_write.nodup (by decide))
  obtain ⟨inner, entered, deep⟩ := Room.split 1 3 deep
  rw [Room.enterBy_one] at entered
  refine Tag.read_object_iff.2 ⟨inner, entered, ?_, ?_, ?_, ?_, ?_, ?_⟩
  · exact shows.required rfl fun s h => hW.text h
  · refine shows.optional ?_ rfl fun t _ s h => hW.text h
    simp [List.lookup_append, List.lookup_cons]
  · refine shows.optional ?_ rfl fun m hm s h => LinearMapping.read_write hW (fits.mapping m hm) h
    simp [List.lookup_append, List.lookup_cons]
  · refine shows.optional ?_ (RangeSpec.read_null inner) fun r hr s h =>
      RangeSpec.read_write hW deep (fits.range r hr) h
    simp [List.lookup_append, List.lookup_cons]
  · refine shows.optional ?_ rfl fun x hx s h => hW.double (fits.scale x hx) h
    simp [List.lookup_append, List.lookup_cons]
  · refine shows.optional ?_ rfl fun n hn s h => hW.natBelow (fits.fixed n hn) h
    simp [List.lookup_append, List.lookup_cons]

/-! ## Devices, tables and documents -/

theorem DeviceModel.read_write (hW : Writing W) (deep : (room.enterBy 6).isSome = true)
    {m : DeviceModel} (fits : m.Fits) (h : W m.write s) : DeviceModel.read room s = some m := by
  obtain ⟨ns, rfl, shows⟩ := hW.members h (of_decide_eq_true rfl)
  obtain ⟨inner, entered, deep⟩ := Room.split 2 4 deep
  refine DeviceModel.read_object_iff.2 ⟨inner, entered, ?_⟩
  exact shows.orElse _ rfl fun s h => hW.list h fun t ht s h => Tag.read_write hW deep (fits t ht) h

theorem DeviceConfig.keys_write (d : DeviceConfig) :
    (d.write.members.map Prod.fst).Sublist keys := by
  simp only [write, Json.members, List.map_append]
  exact ((List.Sublist.refl ["id"]).append (keys_memberIf "name" _ _)).append (.refl ["device"])

theorem DeviceConfig.read_write (hW : Writing W) (deep : (room.enterBy 7).isSome = true)
    {d : DeviceConfig} (fits : d.device.Fits) (h : W d.write s) :
    DeviceConfig.read room s = some d := by
  obtain ⟨ns, rfl, shows⟩ := hW.members h (d.keys_write.nodup (by decide))
  obtain ⟨inner, entered, deep⟩ := Room.split 1 6 deep
  rw [Room.enterBy_one] at entered
  refine DeviceConfig.read_object_iff.2 ⟨inner, entered, ?_, ?_, ?_⟩
  · exact shows.required rfl fun s h => hW.text h
  · refine shows.optional ?_ rfl fun t _ s h => hW.text h
    simp [List.lookup_append, List.lookup_cons]
  · refine shows.orElse _ ?_ fun s h => DeviceModel.read_write hW deep fits h
    simp [List.lookup_append, List.lookup_cons]

theorem TableConfig.read_write (hW : Writing W) (deep : (room.enterBy 9).isSome = true)
    {t : TableConfig} (fits : t.Fits) (h : W t.write s) : TableConfig.read room s = some t := by
  obtain ⟨ns, rfl, shows⟩ := hW.members h (of_decide_eq_true rfl)
  obtain ⟨inner, entered, deep⟩ := Room.split 1 8 deep
  obtain ⟨deeper, entered', deep'⟩ := Room.split 1 7 deep
  have model : (inner.enterBy 6).isSome = true := by
    obtain ⟨_, levels, -⟩ := Room.split 6 2 deep
    exact Option.isSome_of_eq_some levels
  rw [Room.enterBy_one] at entered entered'
  refine TableConfig.read_object_iff.2 ⟨inner, entered, deeper, entered', ?_, ?_, ?_⟩
  · exact shows.required rfl fun s h => hW.text h
  · exact shows.orElse _ rfl fun s h => DeviceModel.read_write hW model fits.device h
  · exact shows.orElse _ rfl fun s h => hW.list h fun d hd s h =>
      DeviceConfig.read_write hW deep' (fits.devices d hd) h

theorem DeviceDocument.read_write (hW : Writing W) (deep : (room.enterBy 11).isSome = true)
    {d : DeviceDocument} (fits : d.Fits) (h : W d.write s) :
    DeviceDocument.read room s = some d := by
  obtain ⟨ns, rfl, shows⟩ := hW.members h (of_decide_eq_true rfl)
  obtain ⟨inner, entered, deep⟩ := Room.split 2 9 deep
  refine DeviceDocument.read_object_iff.2 ⟨inner, entered, ?_⟩
  exact shows.orElse _ rfl fun s h => hW.list h fun t ht s h =>
    TableConfig.read_write hW deep (fits t ht) h

end structures

/-! ## Trees of documents -/

section trees

open Json (Keepable)

theorem keepable_memberIf {α : Type} {write : α → Json} {o : Option α} (key : String)
    (each : ∀ a ∈ o, (write a).Keepable) : ∀ m ∈ Json.memberIf key write o, m.2.Keepable := by
  cases o with
  | none => exact fun m hm => nomatch hm
  | some a => exact List.forall_mem_singleton.2 (each a rfl)

theorem keepable_orNull {α : Type} {write : α → Json} {o : Option α}
    (each : ∀ a ∈ o, (write a).Keepable) : (Json.orNull write o).Keepable := by
  cases o with
  | none => rfl
  | some a => exact each a rfl

theorem Condition.keepable_write {c : Condition} (finite : c.test.Finite) : c.write.Keepable :=
  Json.keepable_object fun m hm => (scalars_write finite m hm).kept Json.writing_written rfl none

theorem LinearMapping.keepable_write {m : LinearMapping} (finite : m.Finite) :
    m.write.Keepable := by
  have bound {o : Option Float} (finite : ∀ x ∈ o, Number.isFinite x = true) :
      (Json.orNull Json.ofFloat o).Keepable :=
    keepable_orNull fun x hx => Json.keepable_ofFloat (finite x hx)
  refine Json.keepable_object (List.forall_mem_cons.2 ⟨bound finite.minRaw, ?_⟩)
  refine List.forall_mem_cons.2 ⟨bound finite.maxRaw, ?_⟩
  exact List.forall_mem_cons.2 ⟨bound finite.minValue,
    List.forall_mem_singleton.2 (bound finite.maxValue)⟩

theorem RangeSpec.keepable_write {r : RangeSpec} (finite : r.Finite) : r.write.Keepable := by
  have conditions : (Json.array (r.conditions.map Condition.write)).Keepable := by
    refine Json.keepable_array (List.forall_mem_map.2 fun c hc => ?_)
    exact Condition.keepable_write (finite.conditions c hc)
  have listed : ∀ m ∈ (if r.conditions.isEmpty then []
      else [("conditions", Json.array (r.conditions.map Condition.write))]), m.2.Keepable := by
    split
    · exact fun m hm => nomatch hm
    · exact List.forall_mem_singleton.2 conditions
  refine Json.keepable_object ?_
  simp only [List.forall_mem_append, List.forall_mem_singleton]
  exact ⟨⟨⟨⟨⟨keepable_memberIf _ fun x hx => Json.keepable_ofFloat (finite.minValue x hx),
    keepable_memberIf _ fun x hx => Json.keepable_ofFloat (finite.maxValue x hx)⟩, listed⟩, rfl⟩,
    keepable_memberIf _ fun x hx => Json.keepable_ofFloat (finite.fixedValue x hx)⟩,
    List.forall_mem_cons.2 ⟨rfl, List.forall_mem_singleton.2 rfl⟩⟩

theorem Tag.keepable_write {t : Tag} (fits : t.Fits) : t.write.Keepable := by
  refine Json.keepable_object ?_
  simp only [List.forall_mem_append, List.forall_mem_singleton]
  exact ⟨⟨⟨⟨⟨rfl, keepable_memberIf _ fun _ _ => rfl⟩,
    keepable_memberIf _ fun m hm => LinearMapping.keepable_write (fits.mapping m hm)⟩,
    keepable_memberIf _ fun r hr => RangeSpec.keepable_write (fits.range r hr)⟩,
    keepable_memberIf _ fun x hx => Json.keepable_ofFloat (fits.scale x hx)⟩,
    keepable_memberIf _ fun _ _ => rfl⟩

theorem DeviceModel.keepable_write {m : DeviceModel} (fits : m.Fits) : m.write.Keepable := by
  refine Json.keepable_object (List.forall_mem_singleton.2 (Json.keepable_array ?_))
  exact List.forall_mem_map.2 fun t ht => Tag.keepable_write (fits t ht)

theorem DeviceConfig.keepable_write {d : DeviceConfig} (fits : d.device.Fits) :
    d.write.Keepable := by
  refine Json.keepable_object ?_
  simp only [List.forall_mem_append, List.forall_mem_singleton]
  exact ⟨⟨rfl, keepable_memberIf _ fun _ _ => rfl⟩, DeviceModel.keepable_write fits⟩

theorem TableConfig.keepable_write {t : TableConfig} (fits : t.Fits) : t.write.Keepable := by
  have devices : (Json.array (t.devices.map DeviceConfig.write)).Keepable := by
    refine Json.keepable_array (List.forall_mem_map.2 fun d hd => ?_)
    exact DeviceConfig.keepable_write (fits.devices d hd)
  refine Json.keepable_object (List.forall_mem_cons.2 ⟨rfl, List.forall_mem_cons.2 ?_⟩)
  exact ⟨DeviceModel.keepable_write fits.device, List.forall_mem_singleton.2 devices⟩

theorem DeviceDocument.keepable_write {d : DeviceDocument} (fits : d.Fits) :
    d.write.Keepable := by
  refine Json.keepable_object (List.forall_mem_singleton.2 (Json.keepable_array ?_))
  exact List.forall_mem_map.2 fun t ht => TableConfig.keepable_write (fits t ht)

end trees

/-! ## The round trip -/

/-- The document comes back from a tree that is kept of it, with the registry that is built from it,
and from its text. -/
structure DeviceDocument.Returns (d : DeviceDocument) : Prop where
  tree : ∃ j, d.write.written.keep none = some j ∧ DeviceDocument.read none j.written = some d ∧
    (DeviceDocument.read none j.written).map Registry.ofDocument = some (Registry.ofDocument d)
  text : DeviceDocument.read Room.text d.write.written = some d

/-- **A device document whose numbers are finite survives being written and read.** -/
theorem DeviceDocument.write_returns (d : DeviceDocument) (fits : d.Fits) : d.Returns where
  tree := by
    obtain ⟨j, kept⟩ := Option.isSome_iff_exists.1 (keepable_write fits)
    have back : DeviceDocument.read none j.written = some d :=
      read_write Json.writing_kept rfl fits ⟨j, kept, rfl⟩
    exact ⟨j, kept, back, by rw [back, Option.map_some]⟩
  text := read_write Json.writing_written rfl fits rfl

/-! ### A document with a bit of everything -/

def guardedTag : Tag where
  id := "temp"
  name := some "Temperature"
  mapping := some ⟨some 0, some 4095, some 0.5, none⟩
  range := some {
    minValue := none
    maxValue := none
    conditions := [⟨some "jump", .rate, .within (-12.5) 12.5, true⟩, .new .number (.less 90)]
    action := .holdLast
    fixedValue := some 20
    invalidAction := .save
    saveInvalidValue := true }
  scale := some 0.1
  fixed := some 2

def plant : DeviceDocument where
  tables := [⟨"boiler", ⟨[guardedTag]⟩,
    [⟨"b-1", some "North", ⟨[.bare "flow"]⟩⟩, ⟨"b-2", none, ⟨[]⟩⟩]⟩]

theorem guardedTag_fits : guardedTag.Fits where
  mapping := by
    rintro _ ⟨rfl⟩
    constructor <;> decide +kernel
  range := by
    rintro _ ⟨rfl⟩
    refine ⟨by decide +kernel, by decide +kernel, ?_, by decide +kernel⟩
    refine List.forall_mem_cons.2 ⟨⟨by decide +kernel, by decide +kernel⟩, ?_⟩
    exact List.forall_mem_singleton.2 (show Number.isFinite 90 = true by decide +kernel)
  scale := by decide +kernel
  fixed := by decide

theorem bare_fits (id : String) : (Tag.bare id).Fits where
  mapping _ h := nomatch h
  range _ h := nomatch h
  scale _ h := nomatch h
  fixed _ h := nomatch h

theorem write_returns_plant : plant.Fits ∧ plant.Returns := by
  have fits : plant.Fits := by
    refine List.forall_mem_singleton.2 ⟨List.forall_mem_singleton.2 guardedTag_fits, ?_⟩
    refine List.forall_mem_cons.2 ⟨List.forall_mem_singleton.2 (bare_fits "flow"), ?_⟩
    exact List.forall_mem_singleton.2 fun t ht => nomatch ht
  exact ⟨fits, DeviceDocument.write_returns plant fits⟩

end DeviceLink
