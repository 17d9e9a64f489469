import DeviceLink.Json.Structure
import DeviceLink.Json.Writer
import DeviceLink.Text.Utf8
/-!
# Envelopes

Every inbound command is answered with a code and a result; failures of the driver are told by
kind and message.

| here | in the SDK |
| --- | --- |
| `DriverErrorKind`, `DriverError` | the types of these names; `text` is how an error is shown |
| `DriverError.unsupported` | `unsupported`, which callbacks without a body of their own answer |
| `DriverError.ofChain` | the conversion of an error with contexts |
| `Envelope` | `Envelope`, with `ok`, `bad_request`, `driver_error`, `from_result`, `is_ok` |
| `Envelope.bytes` | `to_bytes` |
-/
namespace DeviceLink

inductive DriverErrorKind
  | configuration
  | communication
  | invalidParameter
  | timeout
  | unsupported
  | unknown
deriving DecidableEq

namespace DriverErrorKind

def name : DriverErrorKind → String
  | .configuration => "configuration"
  | .communication => "communication"
  | .invalidParameter => "invalid_parameter"
  | .timeout => "timeout"
  | .unsupported => "unsupported"
  | .unknown => "unknown"

/-- The kind of a name; unlisted names are of unknown kind. -/
def ofName : String → DriverErrorKind
  | "configuration" => .configuration
  | "communication" => .communication
  | "invalid_parameter" => .invalidParameter
  | "timeout" => .timeout
  | "unsupported" => .unsupported
  | _ => .unknown

end DriverErrorKind

structure DriverError where
  kind    : DriverErrorKind
  message : String
deriving DecidableEq

namespace DriverError

def text (e : DriverError) : String := e.kind.name ++ " error: " ++ e.message

/-- A command that the driver does not implement. -/
def unsupported (operation : String) : DriverError :=
  ⟨.unsupported, operation ++ " is not supported by this driver"⟩

/-- A failure with a cause and contexts wrapped around it, the innermost first. -/
def ofChain (root : String) (contexts : List String) : DriverError :=
  ⟨.unknown, contexts.foldl (fun inner c => c ++ ": " ++ inner) root⟩

end DriverError

structure Envelope where
  code   : Nat
  result : Json

namespace Envelope

def okCode : Nat := 200

def badRequestCode : Nat := 400

def driverErrorCode : Nat := 500

def ok (result : Json) : Envelope := ⟨okCode, result⟩

def badRequest (message : String) : Envelope := ⟨badRequestCode, .string message⟩

def driverError (e : DriverError) : Envelope := ⟨driverErrorCode, .string e.text⟩

def ofResult : Except DriverError Json → Envelope
  | .ok j => ok j
  | .error e => driverError e

def isOk (e : Envelope) : Bool := e.code == okCode

def keys : List String := ["code", "result"]

def read (room : Room) (s : Source) : Option Envelope := do
  let inner ← room.enter
  match ← s.fields keys with
  | [code, result] =>
    pure ⟨← Source.required (Source.natBelow (Nat.pow 2 16)) code,
      ← Source.required (Source.keep inner) result⟩
  | _ => none

def write (e : Envelope) : Json := .object [("code", .ofNat e.code), ("result", e.result)]

def render (e : Envelope) : String := e.write.render

def bytes (e : Envelope) : Bytes := Utf8.encode e.render

end Envelope
end DeviceLink
