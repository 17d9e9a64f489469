/-!
# Session states

```text
closed -> connecting -> running <-> reconnecting
  ^           |            |             |
  |           v            v             v
  +------- closing <-------+-------------+
```

| here | in the SDK |
| --- | --- |
| `SessionState` | `ConnectionState` |
| `canBecome` | `can_transition_to` |
| `HealthStatus` | `HealthStatus`, with `record_success` and `record_failure` |
-/
namespace DeviceLink

inductive SessionState
  | closed
  | connecting
  | running
  | reconnecting
  | closing
deriving DecidableEq, Repr

namespace SessionState

def name : SessionState → String
  | .closed => "Closed"
  | .connecting => "Connecting"
  | .running => "Running"
  | .reconnecting => "Reconnecting"
  | .closing => "Closing"

def ofName : String → Option SessionState
  | "Closed" => some .closed
  | "Connecting" => some .connecting
  | "Running" => some .running
  | "Reconnecting" => some .reconnecting
  | "Closing" => some .closing
  | _ => none

/-- Whether `next` may directly follow. -/
def canBecome : SessionState → SessionState → Bool
  | .closed, .connecting
  | .connecting, .running
  | .running, .reconnecting
  | .reconnecting, .running
  | .connecting, .closing
  | .running, .closing
  | .reconnecting, .closing
  | .closing, .closed => true
  | _, _ => false

def isRunning (s : SessionState) : Bool := s == .running

/-- Streams are being opened. -/
def isConnecting (s : SessionState) : Bool := s == .connecting || s == .reconnecting

end SessionState

/-- What the health checks have shown so far; times are milliseconds of the session's clock. -/
structure HealthStatus where
  lastCheck           : Option Nat
  lastSuccess         : Option Nat
  consecutiveFailures : Nat
  /-- How long the last successful check took. -/
  lastRoundTrip       : Option Nat
  totalErrors         : Nat
  lastErrorAt         : Option Nat
  lastError           : Option String
deriving DecidableEq, Repr

namespace HealthStatus

def initial : HealthStatus := ⟨none, none, 0, none, 0, none, none⟩

/-- Counters stay at this value once they reach it. -/
def counterMax : Nat := Nat.pow 2 32 - 1

def increment (n : Nat) : Nat := min counterMax (n + 1)

def recordSuccess (h : HealthStatus) (now roundTrip : Nat) : HealthStatus :=
  { h with
    lastCheck := some now
    lastSuccess := some now
    consecutiveFailures := 0
    lastRoundTrip := some roundTrip }

def recordFailure (h : HealthStatus) (now : Nat) (reason : String) : HealthStatus :=
  { h with
    lastCheck := some now
    consecutiveFailures := increment h.consecutiveFailures
    totalErrors := increment h.totalErrors
    lastErrorAt := some now
    lastError := some reason }

end HealthStatus
end DeviceLink
