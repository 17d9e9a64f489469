import DeviceLink.Session.Message
import DeviceLink.Text.Hex
import DeviceLink.Wire.Message
/-!
# Between messages and the wire

How requests, responses, replies and health reports of the session are carried by messages, and
how a driver identifies itself in the headers of every call.

| here | in the SDK |
| --- | --- |
| `ofSchema`, `ofStart` | `from_schema`, `from_start` |
| `ofRun`, `ofBatchRun` | `from_run`, `from_batch_run` |
| `ofDebug`, `toDebug`, `toResult` | `from_debug`, `to_debug`, `to_stream_result` |
| `HealthReport.ofWire`, `Reply.ofWire` | `from_health`, `from_reply` |
| `Identity.headers`, `Identity.tagged` | `identity_headers`, `tagged` |
-/
namespace DeviceLink

/-! ## Inbound commands -/

namespace Request

def ofSchema (m : Wire.SchemaRequest) : Request := ⟨m.request, "", "", [], []⟩

def ofStart (m : Wire.StartRequest) : Request := ⟨m.request, "", "", [], m.data⟩

/-- Without a device there is no target. -/
def ofRun (m : Wire.RunRequest) : Request :=
  ⟨m.request, m.serial, m.table, if m.device = "" then [] else [m.device], m.command⟩

def ofBatchRun (m : Wire.BatchRunRequest) : Request :=
  ⟨m.request, m.serial, m.table, m.devices, m.command⟩

def ofDebug (m : Wire.DebugMessage) : Request := ⟨m.request, "", "", [], m.data⟩

/-- The request in the bytes of a message on the stream of a method. -/
def ofWire (method : Method) (bs : Bytes) : Option Request :=
  match method with
  | .start => (Wire.decode bs).map ofStart
  | .schema => (Wire.decode bs).map ofSchema
  | .run | .writeTag => (Wire.decode bs).map ofRun
  | .batchRun => (Wire.decode bs).map ofBatchRun
  | .debug => (Wire.decode bs).map ofDebug

end Request

namespace Response

def toResult (r : Response) : Wire.StreamResult := ⟨r.id, r.payload⟩

def toDebug (r : Response) : Wire.DebugMessage := ⟨r.id, r.payload⟩

/-- The bytes of a response on the stream of a method. -/
def toWire (method : Method) (r : Response) : Bytes :=
  match method with
  | .debug => Wire.encode r.toDebug
  | _ => Wire.encode r.toResult

end Response

/-! ## Health -/

/-- States that the wire names by number; other numbers name none. -/
def ServingStatus.ofNumber? (n : Int32) : Option ServingStatus :=
  if n = 0 then some .unknown
  else if n = 1 then some .serving
  else if n = 2 then some .notServing
  else if n = 3 then some .serviceUnknown
  else none

def ServingStatus.wireName : ServingStatus → String
  | .unknown => "UNKNOWN"
  | .serving => "SERVING"
  | .notServing => "NOT_SERVING"
  | .serviceUnknown => "SERVICE_UNKNOWN"

def RemoteError.ofFault (f : Wire.Fault) : RemoteError := ⟨toString f.code.toInt, f.message⟩

def HealthReport.ofWire (m : Wire.HealthCheckResponse) : HealthReport :=
  ⟨(ServingStatus.ofNumber? m.status).getD .unknown, m.errors.map RemoteError.ofFault⟩

/-! ## Unary calls -/

def Reply.ofWire (m : Wire.UnaryResponse) : Reply := ⟨m.status, m.info, m.detail⟩

/-- The bytes of a call of the given project. -/
def Outbound.toWire (project : String) : Outbound → Bytes
  | .point data | .event data | .commandLog data =>
    Wire.encode (⟨project, data⟩ : Wire.UnaryRequest)
  | .updateTableData table row data => Wire.encode (⟨project, table, row, data⟩ : Wire.TableData)

/-! ## Identity -/

namespace Identity

/-- The headers of every call. Free text is written in hexadecimal. -/
def headers (i : Identity) : List (String × String) :=
  [("x-project-id", i.project), ("x-driver-id", i.driver),
    ("x-driver-name", Hex.text (Utf8.encode i.name)),
    ("x-service-id", Hex.text (Utf8.encode i.service))]

/-- Bytes that a header may hold: visible ones, spaces and tabs, and those beyond ASCII. -/
def isHeaderByte (b : UInt8) : Bool := b == 0x09 || (0x20 ≤ b && b != 0x7F)

def isHeaderText (s : String) : Bool := (Utf8.encode s).all isHeaderByte

/-- The headers, or the first of them that cannot be sent. -/
def tagged (i : Identity) : Except TransportError (List (String × String)) :=
  match i.headers.find? fun h => !isHeaderText h.2 with
  | some h => .error (.invalidMetadata h.1)
  | none => .ok i.headers

end Identity
end DeviceLink
