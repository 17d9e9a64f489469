import DeviceLink.Proofs.Registry.Index
import DeviceLink.Session.Dispatch
/-!
# What the index says

The index is filled device by device and tag by tag, and two rules decide what stays in it: a device
keeps its first table, while a tag gives way to a later one with its id. So the tags of a device are
those of one table, its own before the shared ones, and in each list the last one counts
(`tag_ofDocument`). Every device and every pair of a device and a tag is entered once, and the
counter of devices is kept in step with them (`once_addDevice`), hence the statistics count what can
be looked up (`load_indexes`).
-/
namespace DeviceLink

/-! ## What a document says -/

/-- The last tag with an id. -/
def lastTag? (tag : String) (tags : List Tag) : Option Tag := tags.reverse.find? fun t => t.id = tag

/-- The first entry for a device. -/
def TableConfig.entry? (device : String) (t : TableConfig) : Option DeviceConfig :=
  t.devices.find? fun d => d.id = device

/-- A tag of a device that a table lists: one of its own, or else a shared one. -/
def TableConfig.tagOf (device tag : String) (t : TableConfig) : Option Tag :=
  (t.entry? device).bind fun d => (lastTag? tag d.device.tags).or (lastTag? tag t.device.tags)

/-- The first table that lists a device. -/
def DeviceDocument.tableOf (d : DeviceDocument) (device : String) : Option TableConfig :=
  d.tables.find? (TableConfig.lists device)

def DeviceDocument.tagOf (d : DeviceDocument) (device tag : String) : Option Tag :=
  (d.tableOf device).bind (TableConfig.tagOf device tag)

theorem lastTag?_cons (tag : String) (t : Tag) (ts : List Tag) :
    lastTag? tag (t :: ts) = (lastTag? tag ts).or (if t.id = tag then some t else none) := by
  unfold lastTag?
  rw [List.reverse_cons, List.find?_append, List.find?_singleton]
  by_cases h : t.id = tag <;> simp [h]

theorem id_of_lastTag? {tag : String} {ts : List Tag} {t : Tag} (h : lastTag? tag ts = some t) :
    t.id = tag := by
  simpa using List.find?_some h

theorem DeviceDocument.id_of_tagOf {d : DeviceDocument} {device tag : String} {t : Tag}
    (h : d.tagOf device tag = some t) : t.id = tag := by
  obtain ⟨table, -, h⟩ := Option.bind_eq_some_iff.1 h
  obtain ⟨entry, -, h⟩ := Option.bind_eq_some_iff.1 h
  rcases Option.or_eq_some_iff.1 h with own | ⟨-, shared⟩
  · exact id_of_lastTag? own
  · exact id_of_lastTag? shared

namespace Registry

/-! ## Tags -/

theorem lookup_addTags (device : String) (key : String × String) (ts : List Tag) :
    ∀ index : List ((String × String) × Tag), (addTags device ts index).lookup key =
      if key.1 = device then (lastTag? key.2 ts).or (index.lookup key) else index.lookup key := by
  induction ts with
  | nil =>
    intro index
    simp [addTags, lastTag?]
  | cons t ts ih =>
    intro index
    rw [addTags, List.foldl_cons, ← addTags, ih, Assoc.lookup_set, lastTag?_cons]
    obtain ⟨device', tag⟩ := key
    by_cases same : device' = device
    · by_cases named : tag = t.id
      · simp [same, named]
      · simp [same, named, Ne.symm named]
    · simp [same]

/-- Only a device that has a table has tags. -/
def Settled (r : Registry) : Prop :=
  ∀ device, r.lookup device = none → ∀ tag, r.tag device tag = none

theorem settled_empty (count : Nat) : Settled { empty with stats.tables := count } :=
  fun _ _ _ => rfl

section
variable (table : TableConfig) (device tag : String) {r : Registry}

/-- A device that has a table keeps its tags; a new one gets its own over the shared ones. -/
theorem tag_addDevice (settled : r.Settled) (d : DeviceConfig) :
    (addDevice table r d).1.tag device tag =
      if (r.lookup device).isSome = true then r.tag device tag
      else if d.id = device then
        (lastTag? tag d.device.tags).or (lastTag? tag table.device.tags)
      else none := by
  unfold addDevice
  cases known : r.lookup d.id with
  | some t =>
    by_cases listed : (r.lookup device).isSome = true
    · simp [listed]
    · have other : d.id ≠ device := by
        rintro rfl
        simp [known] at listed
      have unlisted : r.lookup device = none := by simpa using listed
      simp [unlisted, other, settled device unlisted tag]
  | none =>
    show (addTags d.id d.device.tags (addTags d.id table.device.tags r.tags)).lookup _ = _
    rw [lookup_addTags, lookup_addTags]
    by_cases same : d.id = device
    · subst same
      have bare : r.tags.lookup (d.id, tag) = none := settled d.id known tag
      simp [known, bare]
    · by_cases listed : (r.lookup device).isSome = true
      · simp [Ne.symm same, listed, Registry.tag]
      · have unlisted : r.lookup device = none := by simpa using listed
        have bare : r.tags.lookup (device, tag) = none := settled device unlisted tag
        simp [same, Ne.symm same, unlisted, bare]

theorem settled_addDevice (settled : r.Settled) (d : DeviceConfig) :
    (addDevice table r d).1.Settled := by
  intro device unlisted tag
  rw [lookup_addDevice, Option.or_eq_none_iff] at unlisted
  rw [tag_addDevice table device tag settled]
  by_cases same : d.id = device
  · simp [same] at unlisted
  · simp [unlisted.1, same]

theorem tag_addDevices (ds : List DeviceConfig) :
    ∀ {r : Registry}, r.Settled → (addDevices table ds r).1.Settled ∧
      (addDevices table ds r).1.tag device tag =
        if (r.lookup device).isSome = true then r.tag device tag
        else (ds.find? fun d => d.id = device).bind fun d =>
          (lastTag? tag d.device.tags).or (lastTag? tag table.device.tags) := by
  induction ds with
  | nil =>
    intro r settled
    refine ⟨settled, ?_⟩
    cases listed : r.lookup device with
    | some t => simp [addDevices]
    | none => simpa [addDevices] using settled device listed tag
  | cons d ds ih =>
    intro r settled
    obtain ⟨after, htag⟩ := ih (settled_addDevice table settled d)
    refine ⟨after, ?_⟩
    rw [addDevices]
    dsimp only
    rw [htag, lookup_addDevice, tag_addDevice table device tag settled, List.find?_cons]
    by_cases same : d.id = device
    · simp [same]
    · cases r.lookup device <;> simp [same]

end

theorem tag_addTables (device tag : String) (ts : List TableConfig) :
    ∀ {r : Registry}, r.Settled → (addTables ts r).1.tag device tag =
      if (r.lookup device).isSome = true then r.tag device tag
      else (ts.find? (TableConfig.lists device)).bind (TableConfig.tagOf device tag) := by
  induction ts with
  | nil =>
    intro r settled
    cases listed : r.lookup device with
    | some t => simp [addTables]
    | none => simpa [addTables] using settled device listed tag
  | cons t ts ih =>
    intro r settled
    obtain ⟨after, htag⟩ := tag_addDevices t device tag t.devices settled
    rw [addTables]
    dsimp only
    rw [ih after, lookup_addDevices, htag, List.find?_cons]
    show (if ((r.lookup device).or (if t.lists device then some t.id else none)).isSome then _
      else _) = _
    cases lists : t.lists device with
    | true => cases r.lookup device <;> simp [TableConfig.tagOf, TableConfig.entry?]
    | false => cases r.lookup device <;> simp

/-- A device has the tags that its table gives it. -/
theorem tag_ofDocument (d : DeviceDocument) (device tag : String) :
    (ofDocument d).tag device tag = d.tagOf device tag := by
  refine (tag_addTables device tag d.tables (settled_empty _)).trans ?_
  simp [lookup, empty, DeviceDocument.tagOf, DeviceDocument.tableOf]

/-! ## Statistics -/

/-- Nothing is entered twice, and the devices are counted. -/
structure Once (r : Registry) : Prop where
  tables  : (r.tables.map Prod.fst).Nodup
  tags    : (r.tags.map Prod.fst).Nodup
  devices : r.stats.devices = r.tables.length

theorem nodup_addTags (device : String) (ts : List Tag) :
    ∀ {index : List ((String × String) × Tag)}, (index.map Prod.fst).Nodup →
      ((addTags device ts index).map Prod.fst).Nodup := by
  induction ts with
  | nil =>
    intro index once
    exact once
  | cons t ts ih =>
    intro index once
    exact ih (Assoc.nodup_set once _ _)

theorem once_addDevice (table : TableConfig) {r : Registry} (once : r.Once) (d : DeviceConfig) :
    (addDevice table r d).1.Once ∧ (addDevice table r d).1.stats.tables = r.stats.tables := by
  unfold addDevice
  cases new : r.lookup d.id with
  | some t => exact ⟨once, rfl⟩
  | none =>
    have longer : (Assoc.set d.id table.id r.tables).length = r.tables.length + 1 :=
      Assoc.length_set new table.id
    exact ⟨⟨Assoc.nodup_set once.tables _ _, nodup_addTags _ _ (nodup_addTags _ _ once.tags),
      (congrArg (· + 1) once.devices).trans longer.symm⟩, rfl⟩

theorem once_addDevices (table : TableConfig) (ds : List DeviceConfig) :
    ∀ {r : Registry}, r.Once →
      (addDevices table ds r).1.Once ∧ (addDevices table ds r).1.stats.tables = r.stats.tables := by
  induction ds with
  | nil =>
    intro r once
    exact ⟨once, rfl⟩
  | cons d ds ih =>
    intro r once
    obtain ⟨first, count⟩ := once_addDevice table once d
    obtain ⟨rest, counts⟩ := ih first
    exact ⟨rest, counts.trans count⟩

theorem once_addTables (ts : List TableConfig) :
    ∀ {r : Registry}, r.Once →
      (addTables ts r).1.Once ∧ (addTables ts r).1.stats.tables = r.stats.tables := by
  induction ts with
  | nil =>
    intro r once
    exact ⟨once, rfl⟩
  | cons t ts ih =>
    intro r once
    obtain ⟨first, count⟩ := once_addDevices t t.devices once
    obtain ⟨rest, counts⟩ := ih first
    exact ⟨rest, counts.trans count⟩

theorem once_ofDocument (d : DeviceDocument) :
    (ofDocument d).Once ∧ (ofDocument d).stats.tables = d.tables.length := by
  obtain ⟨once, count⟩ := once_addTables d.tables
    (r := { empty with stats.tables := d.tables.length }) ⟨List.nodup_nil, List.nodup_nil, rfl⟩
  exact ⟨⟨once.tables, once.tags, once.devices⟩, count⟩

/-- A number of things with a property, each counted once. -/
def Counts {α : Type} (n : Nat) (p : α → Prop) : Prop :=
  ∃ xs : List α, xs.Nodup ∧ xs.length = n ∧ ∀ x, x ∈ xs ↔ p x

theorem counts_keys {α β : Type} [DecidableEq α] [BEq α] [LawfulBEq α] {es : List (α × β)}
    (once : (es.map Prod.fst).Nodup) :
    Counts es.length fun k => (es.lookup k).isSome = true :=
  ⟨es.map Prod.fst, once, List.length_map _, fun k => Assoc.mem_keys_iff k es⟩

/-- What a document says is what can be looked up, and what is counted. -/
structure Indexes (d : DeviceDocument) (r : Registry) : Prop where
  lookup  : ∀ device, r.lookup device = (d.tableOf device).map TableConfig.id
  tag     : ∀ device tag, r.tag device tag = d.tagOf device tag
  named   : ∀ device tag t, r.tag device tag = some t → t.id = tag
  tables  : r.stats.tables = d.tables.length
  devices : Counts r.stats.devices fun device =>
    ∃ table ∈ d.tables, ∃ entry ∈ table.devices, entry.id = device
  tags    : Counts r.stats.tags fun pair : String × String => (r.tag pair.1 pair.2).isSome = true

theorem isSome_lookup_ofDocument (d : DeviceDocument) (device : String) :
    ((ofDocument d).lookup device).isSome = true ↔
      ∃ table ∈ d.tables, ∃ entry ∈ table.devices, entry.id = device := by
  simp [lookup_ofDocument, List.find?_isSome, TableConfig.lists]

theorem indexes_ofDocument (d : DeviceDocument) : Indexes d (ofDocument d) := by
  obtain ⟨once, count⟩ := once_ofDocument d
  constructor
  · exact lookup_ofDocument d
  · exact tag_ofDocument d
  · intro device tag t h
    rw [tag_ofDocument] at h
    exact DeviceDocument.id_of_tagOf h
  · exact count
  · obtain ⟨devices, nodup, length, mem⟩ := counts_keys once.tables
    exact ⟨devices, nodup, length.trans once.devices.symm, fun device =>
      (mem device).trans (isSome_lookup_ofDocument d device)⟩
  · exact counts_keys once.tags

end Registry

/-- **The index means what the document says**, and what was loaded before it leaves no trace. -/
theorem Store.load_indexes (s : Store) (earlier : List DeviceDocument) (d : DeviceDocument) :
    Registry.Indexes d ((earlier.foldl load s).load d).registry ∧
      ((earlier.foldl load s).load d).registry = Registry.ofDocument d :=
  ⟨Registry.indexes_ofDocument d, rfl⟩

end DeviceLink
