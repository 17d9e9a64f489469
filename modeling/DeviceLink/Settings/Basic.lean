import DeviceLink.Error
import DeviceLink.Json.Structure
import DeviceLink.Session.Settings
import DeviceLink.Settings.Duration
/-!
# Settings

How a driver process is set up: where the platform is, who the driver is, how the session is
timed and what is logged. Everything but the identity has defaults.

| here | in the SDK |
| --- | --- |
| `Settings` | `SdkConfig` |
| `PlatformSettings`, `LoggingSettings` | `PlatformConfig`, `LoggingConfig` |
| `Identity.read` | `IdentityConfig` |
| `standard` of each | the functions `default_endpoint`, `default_retry_interval` and so on |
| `validate` | `validate` |
-/
namespace DeviceLink

inductive LogFormat
  | pretty
  | compact
  | json
deriving DecidableEq, Repr

namespace LogFormat

def name : LogFormat → String
  | .pretty => "pretty"
  | .compact => "compact"
  | .json => "json"

def ofName : String → Option LogFormat
  | "pretty" => some .pretty
  | "compact" => some .compact
  | "json" => some .json
  | _ => none

end LogFormat

structure PlatformSettings where
  endpoint          : String
  connectTimeout    : Span
  requestTimeout    : Span
  keepaliveInterval : Span
  keepaliveTimeout  : Span
deriving DecidableEq, Repr

structure LoggingSettings where
  level  : String
  format : LogFormat
deriving DecidableEq, Repr

structure Settings where
  platform : PlatformSettings
  identity : Identity
  session  : SessionSettings
  logging  : LoggingSettings
deriving DecidableEq, Repr

def PlatformSettings.standard : PlatformSettings :=
  ⟨"http://127.0.0.1:9090", .ofSeconds 10, .ofSeconds 30, .ofSeconds 10, .ofSeconds 20⟩

def LoggingSettings.standard : LoggingSettings := ⟨"info", .pretty⟩

/-! ## Documents -/

def Span.read (s : Source) : Option Span := (Source.text s).bind Span.parse?

def Span.write (s : Span) : Json := .string s.written

namespace PlatformSettings

def keys : List String :=
  ["endpoint", "connect_timeout", "request_timeout", "keepalive_interval", "keepalive_timeout"]

def read (s : Source) : Option PlatformSettings := do
  let d := standard
  match ← s.fields keys with
  | [endpoint, connect, request, interval, timeout] =>
    pure ⟨← Source.orElse Source.text d.endpoint endpoint,
      ← Source.orElse Span.read d.connectTimeout connect,
      ← Source.orElse Span.read d.requestTimeout request,
      ← Source.orElse Span.read d.keepaliveInterval interval,
      ← Source.orElse Span.read d.keepaliveTimeout timeout⟩
  | _ => none

def write (p : PlatformSettings) : Json :=
  .object [("endpoint", .string p.endpoint), ("connect_timeout", p.connectTimeout.write),
    ("request_timeout", p.requestTimeout.write), ("keepalive_interval", p.keepaliveInterval.write),
    ("keepalive_timeout", p.keepaliveTimeout.write)]

end PlatformSettings

namespace Identity

def keys : List String := ["project_id", "driver_id", "driver_name", "service_id"]

def read (s : Source) : Option Identity := do
  match ← s.fields keys with
  | [project, driver, name, service] =>
    let field := Source.required Source.text
    pure ⟨← field project, ← field driver, ← field name, ← field service⟩
  | _ => none

def write (i : Identity) : Json :=
  .object [("project_id", .string i.project), ("driver_id", .string i.driver),
    ("driver_name", .string i.name), ("service_id", .string i.service)]

end Identity

namespace SessionSettings

def keys : List String :=
  ["retry_interval", "keepalive_interval", "health_timeout", "stream_buffer"]

def read (s : Source) : Option SessionSettings := do
  let d := standard
  match ← s.fields keys with
  | [retry, keepalive, timeout, buffer] =>
    pure ⟨← Source.orElse Span.read d.retry retry, ← Source.orElse Span.read d.keepalive keepalive,
      ← Source.orElse Span.read d.healthTimeout timeout,
      ← Source.orElse (Source.natBelow (Nat.pow 2 64)) d.streamBuffer buffer⟩
  | _ => none

def write (s : SessionSettings) : Json :=
  .object [("retry_interval", s.retry.write), ("keepalive_interval", s.keepalive.write),
    ("health_timeout", s.healthTimeout.write), ("stream_buffer", .ofNat s.streamBuffer)]

end SessionSettings

namespace LoggingSettings

def keys : List String := ["level", "format"]

def read (s : Source) : Option LoggingSettings := do
  let d := standard
  match ← s.fields keys with
  | [level, format] =>
    pure ⟨← Source.orElse Source.text d.level level,
      ← Source.orElse (Source.variant LogFormat.ofName) d.format format⟩
  | _ => none

def write (l : LoggingSettings) : Json :=
  .object [("level", .string l.level), ("format", .string l.format.name)]

end LoggingSettings

namespace Settings

def keys : List String := ["platform", "identity", "session", "logging"]

def read (s : Source) : Option Settings := do
  match ← s.fields keys with
  | [platform, identity, session, logging] =>
    pure ⟨← Source.orElse PlatformSettings.read .standard platform,
      ← Source.required Identity.read identity,
      ← Source.orElse SessionSettings.read .standard session,
      ← Source.orElse LoggingSettings.read .standard logging⟩
  | _ => none

def write (s : Settings) : Json :=
  .object [("platform", s.platform.write), ("identity", s.identity.write),
    ("session", s.session.write), ("logging", s.logging.write)]

/-! ## Validity -/

def levelNames : List String := ["trace", "debug", "info", "warn", "error"]

/-- A check of validity: what is wrong when it does not hold. -/
def check (holds : Bool) (reason : String) : Except LinkError Unit :=
  if holds then .ok () else .error (.configuration reason)

def checkFilled (name value : String) : Except LinkError Unit :=
  check (!Text.isBlank value) (name ++ " must not be empty")

def checkPositive (name : String) (n : Nat) : Except LinkError Unit :=
  check (n != 0) (name ++ " must be greater than zero")

/-- The settings make sense; the first fault counts. -/
def validate (s : Settings) : Except LinkError Unit := do
  checkFilled "platform.endpoint" s.platform.endpoint
  checkFilled "identity.project_id" s.identity.project
  checkFilled "identity.driver_id" s.identity.driver
  checkFilled "identity.driver_name" s.identity.name
  checkFilled "identity.service_id" s.identity.service
  checkPositive "session.retry_interval" s.session.retry.nanos
  checkPositive "session.keepalive_interval" s.session.keepalive.nanos
  checkPositive "session.health_timeout" s.session.healthTimeout.nanos
  checkPositive "session.stream_buffer" s.session.streamBuffer
  check (levelNames.contains (Text.lower s.logging.level))
    ("Invalid logging.level '" ++ s.logging.level ++ "'. Must be one of: " ++
      ", ".intercalate levelNames)

end Settings
end DeviceLink
