import DeviceLink.Wire.Mapping
import DeviceLink.Wire.Status
/-!
# Calls over the wire

What a call hands to the platform and what becomes of the platform's answer. A driver whose
identity fits no header sends nothing; a platform that cannot be reached sees nothing.

| here | in the SDK |
| --- | --- |
| `openStream`, `checkHealth`, `send` | `open`, `health_check` and `send` of `GrpcTransport` |
| `carry` | what they share: `tagged`, the call, its status |
-/
namespace DeviceLink

/-- The way to the platform: open, or closed with the status that every call then ends with. -/
inductive Link
  | reachable
  | unreachable (status : Status)
deriving DecidableEq

/-- What the platform sees of a call. -/
structure Arrival where
  path    : String
  headers : List (String × String)
  /-- The message of a unary call. -/
  message : Option Bytes
deriving DecidableEq

namespace Wire

def serviceName : String := "driver.DriverService"

def path (operation : String) : String := "/" ++ serviceName ++ "/" ++ operation

def unaryPath : Outbound → String
  | .point _ => path "WritePoint"
  | .event _ => path "Event"
  | .commandLog _ => path "CommandLog"
  | .updateTableData _ _ _ => path "UpdateTableData"

def streamPath : Method → String
  | .start => path "StartStream"
  | .schema => path "SchemaStream"
  | .run => path "RunStream"
  | .writeTag => path "WriteTagStream"
  | .batchRun => path "BatchRunStream"
  | .debug => path "DebugStream"

/-- Carries a call to the platform, which answers it, and says what arrived there. -/
def carry {α : Type} (link : Link) (who : Identity) (path : String) (message : Option Bytes)
    (failed : Status → TransportError) (answer : Except Status α) :
    Except TransportError α × List Arrival :=
  match who.tagged with
  | .error e => (.error e, [])
  | .ok headers =>
    match link with
    | .unreachable status => (.error (failed status), [])
    | .reachable =>
      (match answer with
        | .ok a => .ok a
        | .error status => .error (failed status), [⟨path, headers, message⟩])

/-- A unary call of the gateway. -/
def send (link : Link) (who : Identity) (m : Outbound) (answer : Except Status UnaryResponse) :
    Except TransportError Reply × List Arrival :=
  let (result, seen) := carry link who (unaryPath m) (some (m.toWire who.project))
    (fun s => .call m.name s.text) answer
  (result.map Reply.ofWire, seen)

def checkName : String := "healthCheck"

def checkHealth (link : Link) (who : Identity) (answer : Except Status HealthCheckResponse) :
    Except TransportError HealthReport × List Arrival :=
  let message := encode (⟨serviceName⟩ : HealthCheckRequest)
  let (result, seen) := carry link who (path "HealthCheck") (some message)
    (fun s => .call checkName s.text) answer
  (result.map HealthReport.ofWire, seen)

/-- Opens the stream of a method; the answer is the platform's consent. -/
def openStream (link : Link) (who : Identity) (m : Method) (answer : Except Status Unit) :
    Except TransportError Unit × List Arrival :=
  carry link who (streamPath m) none (fun s => .opening m s.text) answer

end Wire
end DeviceLink
