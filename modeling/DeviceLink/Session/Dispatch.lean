import DeviceLink.Envelope
import DeviceLink.Json.Reader
import DeviceLink.Registry.Basic
import DeviceLink.Session.Message
/-!
# Commands to a driver

A request is decoded into what its method needs, one callback runs, and its end becomes the
envelope of the answer. A payload that does not decode reaches no callback. A start also loads the
device document, but only once the driver has accepted it.

| here | in the SDK |
| --- | --- |
| `Driver`, `Context` | `Driver`, `CommandContext` |
| `decodePayload` | `decode` |
| `dispatchStart`, `dispatch` | `start` and `dispatch` of `DriverDispatcher`, up to the callback |
| `Handling.begin`, `Handling.finish` | `handle`, which catches callbacks that break off |
| `panicError` | `panic_message` and the envelope made of it |
| `Store.load` | `replace` of `DeviceRegistry` and `clear` of the cache, on a start |
-/
namespace DeviceLink

/-! ## Drivers -/

/-- How a callback ends. -/
inductive Outcome (α : Type)
  | done (value : α)
  | failed (error : DriverError)
  /-- It broke off; the message is absent when what it left is no text. -/
  | panicked (message : Option String)
deriving DecidableEq

namespace Outcome

def map {α β : Type} (f : α → β) : Outcome α → Outcome β
  | .done a => .done (f a)
  | .failed e => .failed e
  | .panicked m => .panicked m

end Outcome

/-- A callback from its beginning: the milliseconds it takes and how it ends. -/
structure Callback (α : Type) where
  delay   : Nat
  outcome : Outcome α

namespace Callback

def map {α β : Type} (f : α → β) (c : Callback α) : Callback β := ⟨c.delay, c.outcome.map f⟩

/-- A callback that ends at once. -/
def now {α : Type} (outcome : Outcome α) : Callback α := ⟨0, outcome⟩

end Callback

/-- Whom a command is addressed to. -/
structure Context where
  request : String
  serial  : String
  table   : String
  devices : List String
deriving DecidableEq, Repr

def Context.ofRequest (r : Request) : Context := ⟨r.id, r.serial, r.table, r.targets⟩

/-- What a driver brings along: readers of its own types and its callbacks. -/
structure Driver (Config Command TagValue : Type) where
  readConfig  : Source → Option Config
  readCommand : Source → Option Command
  readTag     : Source → Option TagValue
  start       : Config → Callback Unit
  stop        : Outcome Unit
  schema      : Callback String
  run         : Context → Command → Callback Json
  writeTag    : Context → TagValue → Callback Json
  batchRun    : Context → Command → Callback Json
  debug       : Json → Callback Json

/-- One invocation of a driver. -/
inductive Call (Config Command TagValue : Type)
  | start (config : Config)
  | schema
  | run (context : Context) (command : Command)
  | writeTag (context : Context) (tag : TagValue)
  | batchRun (context : Context) (command : Command)
  | debug (request : Json)

variable {Config Command TagValue : Type}

/-- The callback of an invocation; a start gives null, a schema its text. -/
def Driver.perform (d : Driver Config Command TagValue) :
    Call Config Command TagValue → Callback Json
  | .start config => (d.start config).map fun _ => .null
  | .schema => d.schema.map .string
  | .run context command => d.run context command
  | .writeTag context tag => d.writeTag context tag
  | .batchRun context command => d.batchRun context command
  | .debug request => d.debug request

/-! ## Requests -/

/-- What a request asks for. -/
inductive Dispatch (Config Command TagValue : Type)
  | refused (reason : String)
  /-- The document is loaded when the callback succeeds. -/
  | invoke (call : Call Config Command TagValue) (document : Option DeviceDocument)

/-- Reads a payload; an empty one counts as null. -/
def decodePayload {α : Type} (read : Source → Option α) (payload : Bytes) : Option α :=
  (if payload = [] then some .null else Source.parse payload).bind read

def payloadRefusal : String := "invalid payload: not of the form that the command takes"

def documentRefusal : String := "invalid device document: not a list of tables"

/-- The document and the driver's own configuration are read from one payload, which may not be
empty. -/
def dispatchStart (d : Driver Config Command TagValue) (payload : Bytes) :
    Dispatch Config Command TagValue :=
  match (Source.parse payload).bind (DeviceDocument.read Room.text) with
  | none => .refused documentRefusal
  | some document =>
    match decodePayload d.readConfig payload with
    | none => .refused payloadRefusal
    | some config => .invoke (.start config) (some document)

def dispatchPayload {α : Type} (read : Source → Option α)
    (call : α → Call Config Command TagValue) (payload : Bytes) :
    Dispatch Config Command TagValue :=
  match decodePayload read payload with
  | none => .refused payloadRefusal
  | some a => .invoke (call a) none

/-- What a debug request carries: nothing, a JSON value, or else text. -/
def debugRequest (payload : Bytes) : Json :=
  if payload = [] then .null
  else
    match (Source.parse payload).bind (Source.keep Room.text) with
    | some j => j
    | none => .string (Utf8.decodeLossy payload)

def dispatch (d : Driver Config Command TagValue) (method : Method) (r : Request) :
    Dispatch Config Command TagValue :=
  let context := Context.ofRequest r
  match method with
  | .start => dispatchStart d r.payload
  | .schema => .invoke .schema none
  | .run => dispatchPayload d.readCommand (.run context) r.payload
  | .writeTag => dispatchPayload d.readTag (.writeTag context) r.payload
  | .batchRun => dispatchPayload d.readCommand (.batchRun context) r.payload
  | .debug => .invoke (.debug (debugRequest r.payload)) none

/-! ## Answers -/

/-- The failure that stands for a callback that broke off. -/
def panicError (message : Option String) : DriverError :=
  ⟨.unknown, "driver callback panicked: " ++ message.getD "unknown panic payload"⟩

def Envelope.ofOutcome : Outcome Json → Envelope
  | .done j => .ok j
  | .failed e => .driverError e
  | .panicked m => .driverError (panicError m)

/-- What a loaded document and accepted readings make up. -/
structure Store where
  registry : Registry
  cache    : Cache
deriving DecidableEq

namespace Store

def empty : Store := ⟨Registry.empty, Cache.empty⟩

/-- A new document takes the place of the old one, and no reading is remembered. -/
def load (s : Store) (d : DeviceDocument) : Store := ⟨Registry.ofDocument d, s.cache.clear⟩

end Store

/-- A request under way: what was invoked, how long that takes, and what comes of it. -/
structure Handling (Config Command TagValue : Type) where
  call     : Option (Call Config Command TagValue)
  delay    : Nat
  envelope : Envelope
  /-- Loaded with the answer. -/
  document : Option DeviceDocument

namespace Handling

/-- Takes up a request: at most one callback begins. -/
def begin (d : Driver Config Command TagValue) (method : Method) (r : Request) :
    Handling Config Command TagValue :=
  match dispatch d method r with
  | .refused reason => ⟨none, 0, .badRequest reason, none⟩
  | .invoke call document =>
    let callback := d.perform call
    let envelope := Envelope.ofOutcome callback.outcome
    ⟨some call, callback.delay, envelope, if envelope.isOk then document else none⟩

/-- The store once the request is answered; a request that is cancelled leaves it as it is. -/
def finish (h : Handling Config Command TagValue) (s : Store) : Store :=
  match h.document with
  | some d => s.load d
  | none => s

end Handling
end DeviceLink
