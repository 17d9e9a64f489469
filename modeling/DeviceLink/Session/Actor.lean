import DeviceLink.Session.Message
import DeviceLink.Session.State
/-!
# The session

One actor owns the state. Each time streams are to be opened a new generation begins; reports
carry the generation of the task that made them, and those of an older one, or that come in a
state that does not await them, change nothing.

| here | in the SDK |
| --- | --- |
| `Actor` | `SessionActor`, without the tasks that `Order` says it keeps or starts |
| `Report` | `SessionEvent` |
| `renew` | `spawn_connect_loop`, after a `transition` |
| `start` | `start` |
| `beginStop`, `endStop` | `stop`, before and after tasks and driver are shut down |
| `receive` | `on_event`, with `is_current_session` and `reconnect` |
| `Order.serve` | `spawn_session` |
-/
namespace DeviceLink

/-- What the tasks of a generation report; `σ` are open streams. -/
inductive Report (σ : Type)
  | opened (generation : Nat) (streams : List (Method × σ))
  | healthFailed (generation : Nat) (reason : String)
  | streamClosed (generation : Nat) (method : Method)

def Report.generation {σ : Type} : Report σ → Nat
  | .opened g _ | .healthFailed g _ | .streamClosed g _ => g

/-- What becomes of the tasks. -/
inductive Order (σ : Type)
  | keep
  /-- All of them are dropped, and a new loop opens the streams. -/
  | connect
  /-- Every stream gets a listener, and the health is checked. -/
  | serve (streams : List (Method × σ))

structure Actor where
  state      : SessionState
  generation : Nat
  /-- The tasks of the generation have been told to end. -/
  cancelled  : Bool
deriving DecidableEq, Repr

namespace Actor

variable {σ : Type}

def initial : Actor := ⟨.closed, 0, false⟩

/-- A new generation, which opens streams. -/
def renew (a : Actor) (state : SessionState) : Actor × Order σ :=
  (⟨state, a.generation + 1, false⟩, .connect)

/-- Only a closed session starts. -/
def start (a : Actor) : Actor × Order σ :=
  if a.state = .closed then a.renew .connecting else (a, .keep)

/-- The first half of a stop, if there is anything to stop: tasks are told to end. -/
def beginStop (a : Actor) : Option Actor :=
  if a.state.canBecome .closing then some { a with state := .closing, cancelled := true }
  else none

/-- The second half, once the tasks are gone and the driver has been told. -/
def endStop (a : Actor) : Actor := { a with state := .closed }

/-- Streams were opened, or a stream or a check failed. -/
def receive (a : Actor) : Report σ → Actor × Order σ
  | .opened g streams =>
    if g = a.generation ∧ a.state.isConnecting then ({ a with state := .running }, .serve streams)
    else (a, .keep)
  | .healthFailed g _ | .streamClosed g _ =>
    if g = a.generation ∧ a.state.isRunning then a.renew .reconnecting else (a, .keep)

end Actor
end DeviceLink
