import DeviceLink.Settings.Basic
/-!
# What is traced

The level and the form of the diagnostics that a driver process writes.

| here | in the SDK |
| --- | --- |
| `TraceLevel.ofName` | `parse_log_level` |
| `Tracing` | `TracingConfig` |
| `Tracing.new`, `Tracing.ofSettings` | `new`, `from_sdk_config` |
-/
namespace DeviceLink

inductive TraceLevel
  | trace
  | debug
  | info
  | warn
  | error
deriving DecidableEq, Repr

namespace TraceLevel

def name : TraceLevel → String
  | .trace => "TRACE"
  | .debug => "DEBUG"
  | .info => "INFO"
  | .warn => "WARN"
  | .error => "ERROR"

/-- The level of a name in letters of either case. -/
def ofName (name : String) : Option TraceLevel :=
  match Text.lower name with
  | "trace" => some .trace
  | "debug" => some .debug
  | "info" => some .info
  | "warn" => some .warn
  | "error" => some .error
  | _ => none

end TraceLevel

structure Tracing where
  level       : TraceLevel
  format      : LogFormat
  spanEvents  : Bool
  fileAndLine : Bool
  threadNames : Bool
  colours     : Bool
deriving DecidableEq, Repr

namespace Tracing

def new (level : TraceLevel) : Tracing := ⟨level, .pretty, false, false, true, true⟩

def ofSettings (s : LoggingSettings) : Except LinkError Tracing :=
  match TraceLevel.ofName s.level with
  | some level => .ok { new level with format := s.format }
  | none =>
    .error (.configuration ("Invalid log level '" ++ s.level ++ "'. Must be one of: " ++
      ", ".intercalate Settings.levelNames))

end Tracing
end DeviceLink
