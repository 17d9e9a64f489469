import DeviceLink.Tag.Document
/-!
# Device documents

The configuration that the platform sends on start: tables, the tags that all devices of a table
share, and the devices with tags of their own. `DeviceDocument.read` is `from_slice` of
`DeviceDocument` once the text is a tree.
-/
namespace DeviceLink

structure DeviceModel where
  tags : List Tag
deriving DecidableEq

structure DeviceConfig where
  id     : String
  name   : Option String
  /-- Tags that take the place of the table's. -/
  device : DeviceModel
deriving DecidableEq

structure TableConfig where
  id      : String
  /-- Tags of every device of the table. -/
  device  : DeviceModel
  devices : List DeviceConfig
deriving DecidableEq

structure DeviceDocument where
  tables : List TableConfig
deriving DecidableEq

namespace DeviceModel

def keys : List String := ["tags"]

def read (room : Room) (s : Source) : Option DeviceModel := do
  let inner ← room.enterBy 2
  match ← s.fields keys with
  | [tags] => pure ⟨← Source.orElse (Source.list (Tag.read inner)) [] tags⟩
  | _ => none

def write (m : DeviceModel) : Json := .object [("tags", .array (m.tags.map Tag.write))]

end DeviceModel

namespace DeviceConfig

def keys : List String := ["id", "name", "device"]

def read (room : Room) (s : Source) : Option DeviceConfig := do
  let inner ← room.enter
  match ← s.fields keys with
  | [id, name, device] =>
    pure ⟨← Source.required Source.text id, ← Source.optional Source.text name,
      ← Source.orElse (DeviceModel.read inner) ⟨[]⟩ device⟩
  | _ => none

def write (d : DeviceConfig) : Json :=
  .object ([("id", .string d.id)] ++ Json.memberIf "name" .string d.name ++
    [("device", d.device.write)])

end DeviceConfig

namespace TableConfig

def keys : List String := ["id", "device", "devices"]

def read (room : Room) (s : Source) : Option TableConfig := do
  let inner ← room.enter
  let deeper ← inner.enter
  match ← s.fields keys with
  | [id, device, devices] =>
    pure ⟨← Source.required Source.text id,
      ← Source.orElse (DeviceModel.read inner) ⟨[]⟩ device,
      ← Source.orElse (Source.list (DeviceConfig.read deeper)) [] devices⟩
  | _ => none

def write (t : TableConfig) : Json :=
  .object [("id", .string t.id), ("device", t.device.write),
    ("devices", .array (t.devices.map DeviceConfig.write))]

end TableConfig

namespace DeviceDocument

def keys : List String := ["tables"]

def read (room : Room) (s : Source) : Option DeviceDocument := do
  let inner ← room.enterBy 2
  match ← s.fields keys with
  | [tables] => pure ⟨← Source.orElse (Source.list (TableConfig.read inner)) [] tables⟩
  | _ => none

def write (d : DeviceDocument) : Json :=
  .object [("tables", .array (d.tables.map TableConfig.write))]

end DeviceDocument
end DeviceLink
