import DeviceLink.Registry.Basic
/-!
# The table of a device

Devices are added to the index one after the other, and one that has a table keeps it. So a device
belongs to the first table of the document that lists it (`lookup_ofDocument`).
-/
namespace DeviceLink

/-- The table lists a device of this id. -/
def TableConfig.lists (device : String) (t : TableConfig) : Bool :=
  t.devices.any fun d => d.id = device

namespace Registry

/-- A device that is added gets a table unless it has one. -/
theorem lookup_addDevice (table : TableConfig) (r : Registry) (d : DeviceConfig) (device : String) :
    (addDevice table r d).1.lookup device =
      (r.lookup device).or (if d.id = device then some table.id else none) := by
  unfold addDevice
  cases known : r.lookup d.id with
  | some t =>
    by_cases same : d.id = device
    · subst same
      rw [if_pos rfl, known, Option.some_or]
    · rw [if_neg same, Option.or_none]
  | none =>
    by_cases same : d.id = device
    · subst same
      rw [if_pos rfl, known]
      exact (Assoc.lookup_set _ _ _ _).trans (if_pos rfl)
    · rw [if_neg same, Option.or_none]
      exact (Assoc.lookup_set _ _ _ _).trans (if_neg (Ne.symm same))

theorem lookup_addDevices (table : TableConfig) (device : String) (ds : List DeviceConfig) :
    ∀ r : Registry, (addDevices table ds r).1.lookup device =
      (r.lookup device).or (if ds.any (fun d => d.id = device) then some table.id else none) := by
  induction ds with
  | nil =>
    intro r
    exact (Option.or_none).symm
  | cons d ds ih =>
    intro r
    rw [addDevices]
    dsimp only
    rw [ih, lookup_addDevice, Option.or_assoc, List.any_cons]
    by_cases same : d.id = device
    · simp [same]
    · simp [same]

theorem lookup_addTables (device : String) (ts : List TableConfig) :
    ∀ r : Registry, (addTables ts r).1.lookup device =
      (r.lookup device).or ((ts.find? (TableConfig.lists device)).map TableConfig.id) := by
  induction ts with
  | nil =>
    intro r
    exact (Option.or_none).symm
  | cons t ts ih =>
    intro r
    rw [addTables]
    dsimp only
    rw [ih, lookup_addDevices, Option.or_assoc, List.find?_cons]
    show (r.lookup device).or ((if t.lists device then some t.id else none).or _) = _
    cases t.lists device with
    | true => rfl
    | false => rfl

/-- A device belongs to the first table that lists it. -/
theorem lookup_ofDocument (d : DeviceDocument) (device : String) :
    (ofDocument d).lookup device =
      (d.tables.find? (TableConfig.lists device)).map TableConfig.id :=
  (lookup_addTables device d.tables _).trans (Option.none_or)

end Registry
end DeviceLink
