import DeviceLink.Text.Hex
/-!
# Messages between driver and platform

Inbound commands and their responses, outbound calls and their replies, health reports, and what
can go wrong on the way.

| here | in the SDK |
| --- | --- |
| `Method` | `CommandMethod`, with `ALL` and `as_str` |
| `Request`, `Response` | `CommandRequest`, `CommandResponse` |
| `Reply` | `UnaryReply` |
| `Identity`, `HealthReport`, `Outbound`, `TransportError` | the types of these names |
-/
namespace DeviceLink

/-- The kinds of inbound commands; a session holds one stream for each. -/
inductive Method
  | start
  | schema
  | run
  | writeTag
  | batchRun
  | debug
deriving DecidableEq, Repr

namespace Method

/-- In the order in which their streams are opened. -/
def all : List Method := [.start, .schema, .run, .writeTag, .batchRun, .debug]

def name : Method → String
  | .start => "start"
  | .schema => "schema"
  | .run => "run"
  | .writeTag => "writeTag"
  | .batchRun => "batchRun"
  | .debug => "debug"

def ofName : String → Option Method
  | "start" => some .start
  | "schema" => some .schema
  | "run" => some .run
  | "writeTag" => some .writeTag
  | "batchRun" => some .batchRun
  | "debug" => some .debug
  | _ => none

end Method

structure Request where
  id      : String
  serial  : String
  table   : String
  /-- One device of a single command, all devices of a batch, else none. -/
  targets : List String
  payload : Bytes
deriving DecidableEq, Repr

structure Response where
  id      : String
  payload : Bytes
deriving DecidableEq, Repr

/-- Who a driver process is. -/
structure Identity where
  project : String
  driver  : String
  name    : String
  service : String
deriving DecidableEq, Repr

inductive ServingStatus
  | unknown
  | serving
  | notServing
  | serviceUnknown
deriving DecidableEq, Repr

def ServingStatus.name : ServingStatus → String
  | .unknown => "Unknown"
  | .serving => "Serving"
  | .notServing => "NotServing"
  | .serviceUnknown => "ServiceUnknown"

structure RemoteError where
  code    : String
  message : String
deriving DecidableEq, Repr

structure HealthReport where
  status : ServingStatus
  errors : List RemoteError
deriving DecidableEq, Repr

def HealthReport.isServing (r : HealthReport) : Bool := r.status == .serving

/-- Calls of the driver; the data of each is a JSON text. -/
inductive Outbound
  | point (data : Bytes)
  | event (data : Bytes)
  | commandLog (data : Bytes)
  | updateTableData (table row : String) (data : Bytes)
deriving DecidableEq, Repr

namespace Outbound

def name : Outbound → String
  | .point _ => "writePoint"
  | .event _ => "event"
  | .commandLog _ => "commandLog"
  | .updateTableData _ _ _ => "updateTableData"

def data : Outbound → Bytes
  | .point d | .event d | .commandLog d | .updateTableData _ _ d => d

end Outbound

structure Reply where
  status : Bool
  info   : String
  detail : String
deriving DecidableEq, Repr

def Reply.accepted : Reply := ⟨true, "", ""⟩

inductive TransportError
  | invalidEndpoint (endpoint reason : String)
  | invalidMetadata (header : String)
  | opening (method : Method) (reason : String)
  | call (operation reason : String)
  | stream (method : Method) (reason : String)
deriving DecidableEq, Repr

def TransportError.message : TransportError → String
  | .invalidEndpoint endpoint reason =>
    "Invalid platform endpoint '" ++ endpoint ++ "': " ++ reason
  | .invalidMetadata header => "Identity header '" ++ header ++ "' is not valid metadata"
  | .opening method reason => "Failed to open " ++ method.name ++ " stream: " ++ reason
  | .call operation reason => operation ++ " call failed: " ++ reason
  | .stream method reason => method.name ++ " stream failed: " ++ reason

end DeviceLink
