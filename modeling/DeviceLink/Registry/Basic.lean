import DeviceLink.Assoc
import DeviceLink.Pipeline.Stage
import DeviceLink.Registry.Document
/-!
# The registry

Which table a device belongs to and which tags it has. A device that several tables list belongs
to the first one; of tags with one id the last one counts, a device's own after the table's.

| here | in the SDK |
| --- | --- |
| `Registry` | `RegistryIndex`, which holds its own counts |
| `addDevice`, `addDevices`, `addTables` | the loops of `build` over tables and their devices |
| `build`, `ofDocument` | `build` |
| `lookup`, `tag`, `Registry.stats` | the methods of `DeviceRegistry` |
-/
namespace DeviceLink

structure RegistryStats where
  tables  : Nat
  devices : Nat
  tags    : Nat
deriving DecidableEq

/-- The index, with the counts that were taken while it was built. -/
structure Registry where
  tables : List (String × String)
  tags   : List ((String × String) × Tag)
  stats  : RegistryStats
deriving DecidableEq

namespace Registry

def empty : Registry := ⟨[], [], ⟨0, 0, 0⟩⟩

/-- The table of a device. -/
def lookup (r : Registry) (device : String) : Option String := r.tables.lookup device

/-- The configuration of a tag of a device. -/
def tag (r : Registry) (device tag : String) : Option Tag := r.tags.lookup (device, tag)

def addTags (device : String) (tags : List Tag) (index : List ((String × String) × Tag)) :
    List ((String × String) × Tag) :=
  tags.foldl (fun index t => Assoc.set (device, t.id) t index) index

/-- Adds a device of a table, unless it is listed already; the flag tells that it is. It is the body
of the inner loop of `build`: the table, the counter, the shared tags and then the device's own. -/
def addDevice (table : TableConfig) (r : Registry) (d : DeviceConfig) : Registry × Bool :=
  match r.lookup d.id with
  | some _ => (r, true)
  | none =>
    ({ r with
        tables := Assoc.set d.id table.id r.tables
        tags := addTags d.id d.device.tags (addTags d.id table.device.tags r.tags)
        stats.devices := r.stats.devices + 1 }, false)

def addDevices (table : TableConfig) : List DeviceConfig → Registry → Registry × List Warning
  | [], r => (r, [])
  | d :: rest, r =>
    let (r, repeated) := addDevice table r d
    let (r, ws) := addDevices table rest r
    (r, if repeated then .duplicateDevice :: ws else ws)

def addTables : List TableConfig → Registry → Registry × List Warning
  | [], r => (r, [])
  | t :: rest, r =>
    let (r, ws) := addDevices t t.devices r
    let (r, ws') := addTables rest r
    (r, ws ++ ws')

/-- The registry of a document, and a warning for every device that is listed again. -/
def build (d : DeviceDocument) : Registry × List Warning :=
  let (r, ws) := addTables d.tables { empty with stats.tables := d.tables.length }
  ({ r with stats.tags := r.tags.length }, ws)

def ofDocument (d : DeviceDocument) : Registry := (build d).1

end Registry
end DeviceLink
