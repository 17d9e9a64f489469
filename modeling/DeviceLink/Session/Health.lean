import DeviceLink.Session.Message
import DeviceLink.Session.State
import DeviceLink.Time.Span
/-!
# Health checks

A check after every interval, until the first one that fails. A platform that serves passes,
whatever errors it lists. The loop is `health_loop`; it waits for the interval and for the check.
-/
namespace DeviceLink

inductive CheckResult
  | answered (report : HealthReport)
  | failed (error : TransportError)
  | timedOut
deriving DecidableEq

/-- Why a check failed; `none` when it passed. -/
def CheckResult.failure? (timeout : Span) : CheckResult → Option String
  | .answered report =>
    if report.isServing then none else some ("platform status " ++ report.status.name)
  | .failed e => some e.message
  | .timedOut => some ("no reply within " ++ timeout.text)

/-- Where the loop stands. -/
inductive HealthLoop
  | resting
  /-- A check is under way since then. -/
  | checking (since : Nat)
  /-- A check has failed, which is reported. -/
  | failed (reason : String)
  | cancelled
deriving DecidableEq

inductive HealthInput
  /-- The interval is over. -/
  | elapsed
  | result (r : CheckResult)
  | cancelled
deriving DecidableEq

namespace HealthLoop

/-- One step at the time `now`, and what is known of the health after it. -/
def step (timeout : Span) (now : Nat) (h : HealthStatus) :
    HealthLoop → HealthInput → HealthLoop × HealthStatus
  | .resting, .elapsed => (.checking now, h)
  | .checking since, .result r =>
    match r.failure? timeout with
    | none => (.resting, h.recordSuccess now (now - since))
    | some reason => (.failed reason, h.recordFailure now reason)
  | .failed reason, .cancelled => (.failed reason, h)
  | _, .cancelled => (.cancelled, h)
  | loop, _ => (loop, h)

end HealthLoop
end DeviceLink
