import DeviceLink.Error
import DeviceLink.Json.Structure
import DeviceLink.Json.Writer
import DeviceLink.Pipeline.Basic
import DeviceLink.Registry.Basic
import DeviceLink.Text.Utf8
/-!
# The outbound gateway

Samples, events, logs and updates on their way to the platform. A call is checked first, then
made into one message; what the platform answers is a delivery and never an error.

| here | in the SDK |
| --- | --- |
| `Delivery`, `DropReason`, `SampleOutcome` | the types of these names |
| `FieldType.coerce` | `coerce` |
| `ensureRunning`, `require` | `ensure_running`, `require` |
| `resolve`, `prepareField`, `prepare` | `prepare` |
| `pointPayload`, `encode` | `point_payload`, `encode` |
| `checkSample`, `planSample` | `write_sample`, up to its checks and up to the sending |
| `writeSample` | `write_sample` |
| `writeEvent`, `writeLog`, `updateResource` | `write_event`, `write_log`, `update_resource` |
| `deliver`, `Delivery.ofReply` | `deliver` |
-/
namespace DeviceLink

inductive Delivery
  | accepted
  | rejected (info detail : String)
  | failed (reason : String)
deriving DecidableEq

namespace Delivery

def isAccepted : Delivery → Bool
  | .accepted => true
  | _ => false

def ofReply : Except TransportError Reply → Delivery
  | .ok r => if r.status then .accepted else .rejected r.info r.detail
  | .error e => .failed e.message

end Delivery

inductive DropReason
  | unknownDevice
  | noFieldsLeft
deriving DecidableEq

def DropReason.message : DropReason → String
  | .unknownDevice => "device is not registered to any table"
  | .noFieldsLeft => "no field survived processing"

inductive SampleOutcome
  | sent (fieldsIn fieldsOut : Nat) (delivery : Delivery)
  | dropped (reason : DropReason)
deriving DecidableEq

inductive LogLevel
  | debug
  | info
  | warn
  | error
deriving DecidableEq

namespace LogLevel

def name : LogLevel → String
  | .debug => "debug"
  | .info => "info"
  | .warn => "warn"
  | .error => "error"

def ofName : String → Option LogLevel
  | "debug" => some .debug
  | "info" => some .info
  | "warn" => some .warn
  | "error" => some .error
  | _ => none

end LogLevel

structure Event where
  table   : String
  id      : String
  eventId : String
  time    : Instant
  data    : Json

namespace Event

def keys : List String := ["table", "id", "eventId", "time", "data"]

def readTime (s : Source) : Option Instant := (Source.text s).bind Instant.parse

def read (room : Room) (s : Source) : Option Event := do
  let inner ← room.enter
  match ← s.fields keys with
  | [table, id, eventId, time, data] =>
    pure ⟨← Source.required Source.text table, ← Source.required Source.text id,
      ← Source.required Source.text eventId, ← Source.required readTime time,
      ← Source.required (Source.keep inner) data⟩
  | _ => none

def write (e : Event) : Json :=
  .object [("table", .string e.table), ("id", .string e.id), ("eventId", .string e.eventId),
    ("time", .string e.time.text), ("data", e.data)]

end Event

/-! ## Declared types -/

/-- The value as the declared type, `none` when it cannot be one. -/
def FieldType.coerce (t : FieldType) (value : Json) : Option Json :=
  match t, value with
  | _, .null => none
  | .number, .number n => some (.number n)
  | .number, .string s => (Number.float? (Text.trimmed s.toList)).bind Json.ofFloat?
  | .number, .bool b => some (.ofNat (if b then 1 else 0))
  | .string, .string s => some (.string s)
  | .string, other => some (.string other.render)
  | .boolean, .bool b => some (.bool b)
  | .boolean, .number n =>
    if n.toFloat == 0 then some (.bool false)
    else if n.toFloat == 1 then some (.bool true)
    else none
  | .boolean, .string s =>
    let word := Text.lower (Text.trim s)
    if word = "true" ∨ word = "1" then some (.bool true)
    else if word = "false" ∨ word = "0" then some (.bool false)
    else none
  | _, _ => none

namespace Gateway

def ensureRunning (state : SessionState) : Except LinkError Unit :=
  if state.isRunning then .ok () else .error (.notRunning state)

/-- An argument that must name something. -/
def require (name value : String) : Except LinkError Unit :=
  if Text.isBlank value then .error (.invalidArgument (name ++ " must not be blank")) else .ok ()

/-! ## Samples -/

/-- The tag of a field; one that is only named is looked up. -/
def resolve (registry : Registry) (device : String) (tag : Tag) : Tag :=
  if tag.isBare then (registry.tag device tag.id).getD tag else tag

def prepareField (registry : Registry) (device : String) (types : List (String × FieldType))
    (f : Field) : Option Field :=
  let tag := resolve registry device f.tag
  match types.lookup tag.id with
  | none => some ⟨tag, f.value⟩
  | some t => (t.coerce f.value).map fun v => ⟨tag, v⟩

/-- Looks up the tags that are only named and applies the declared types. -/
def prepare (registry : Registry) (s : Sample) : Sample :=
  { s with fields := s.fields.filterMap (prepareField registry s.device s.types) }

def pointPayload (s : ProcessedSample) : Json :=
  .object ([("table", .string s.table), ("id", .string s.device)] ++
    Json.memberIf "subId" .string s.sub ++
    [("time", .string s.time.milliText),
      ("fields", Json.ofMembers (s.fields.map fun f => (f.id, f.value)))])

def encode (j : Json) : Bytes := Utf8.encode j.render

/-- What a sample comes to before anything is sent. -/
inductive SamplePlan
  | dropped (reason : DropReason)
  | send (message : Outbound) (fieldsIn fieldsOut : Nat)
deriving DecidableEq

/-- The table of a sample: its own unless blank, else that of its device. -/
def tableOf (registry : Registry) (s : Sample) : Option String :=
  (s.table.filter fun t => !Text.isBlank t).or (registry.lookup s.device)

def checkSample (state : SessionState) (s : Sample) : Except LinkError Unit := do
  ensureRunning state
  require "device id" s.device
  if s.fields.isEmpty then throw (.invalidArgument "sample has no fields")

/-- The plan for a sample that passed its checks, and the cache that processing it left. -/
def planSample (registry : Registry) (pipeline : Pipeline) (cache : Cache) (s : Sample) :
    SamplePlan × Cache :=
  match tableOf registry s with
  | none => (.dropped .unknownDevice, cache)
  | some table =>
    let (processed, cache, _) := pipeline.process table (prepare registry s) cache
    if processed.fields.isEmpty then (.dropped .noFieldsLeft, cache)
    else
      (.send (.point (encode (pointPayload processed))) s.fields.length processed.fields.length,
        cache)

/-! ## Other messages -/

def planEvent (state : SessionState) (e : Event) : Except LinkError Outbound := do
  ensureRunning state
  require "table" e.table
  require "device id" e.id
  require "event id" e.eventId
  pure (.event (encode e.write))

def logPayload (table device : String) (level : LogLevel) (message time : String) : Json :=
  .object [("table", .string table), ("id", .string device), ("level", .string level.name),
    ("message", .string message), ("time", .string time)]

def planLog (state : SessionState) (table device : String) (level : LogLevel)
    (message time : String) : Except LinkError Outbound := do
  ensureRunning state
  require "table" table
  require "device id" device
  pure (.commandLog (encode (logPayload table device level message time)))

def planUpdate (state : SessionState) (table row : String) (fields : List (String × Json)) :
    Except LinkError Outbound := do
  ensureRunning state
  require "table" table
  require "row id" row
  if fields.isEmpty then throw (.invalidArgument "no fields to update")
  pure (.updateTableData table row (encode (.object fields)))

/-! ## Delivery -/

/-- A platform in state `σ` that answers calls. -/
abbrev Sender (σ : Type) := σ → Outbound → Except TransportError Reply × σ

def deliver {σ : Type} (send : Sender σ) (s : σ) (m : Outbound) : Delivery × σ :=
  let (reply, s) := send s m
  (Delivery.ofReply reply, s)

def writeSample {σ : Type} (send : Sender σ) (state : SessionState) (registry : Registry)
    (pipeline : Pipeline) (cache : Cache) (s : σ) (sample : Sample) :
    Except LinkError SampleOutcome × Cache × σ :=
  match checkSample state sample with
  | .error e => (.error e, cache, s)
  | .ok () =>
    match planSample registry pipeline cache sample with
    | (.dropped reason, cache) => (.ok (.dropped reason), cache, s)
    | (.send m fieldsIn fieldsOut, cache) =>
      let (delivery, s) := deliver send s m
      (.ok (.sent fieldsIn fieldsOut delivery), cache, s)

/-- Sends the message of a plan. -/
def carry {σ : Type} (send : Sender σ) (s : σ) (plan : Except LinkError Outbound) :
    Except LinkError Delivery × σ :=
  match plan with
  | .error e => (.error e, s)
  | .ok m =>
    let (delivery, s) := deliver send s m
    (.ok delivery, s)

def writeEvent {σ : Type} (send : Sender σ) (state : SessionState) (s : σ) (e : Event) :
    Except LinkError Delivery × σ :=
  carry send s (planEvent state e)

def writeLog {σ : Type} (send : Sender σ) (state : SessionState) (s : σ) (table device : String)
    (level : LogLevel) (message time : String) : Except LinkError Delivery × σ :=
  carry send s (planLog state table device level message time)

def updateResource {σ : Type} (send : Sender σ) (state : SessionState) (s : σ)
    (table row : String) (fields : List (String × Json)) : Except LinkError Delivery × σ :=
  carry send s (planUpdate state table row fields)

end Gateway
end DeviceLink
