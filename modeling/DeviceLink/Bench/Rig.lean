import DeviceLink.Bench.Platform
import DeviceLink.Pipeline.Basic
import DeviceLink.Session.Actor
import DeviceLink.Session.Connect
import DeviceLink.Session.Dispatch
import DeviceLink.Session.Settings
/-!
# The rig

A whole host on a scripted platform: the actor, its tasks and a clock that only moves when it
is told to. Tasks that can go on wait in a queue; each of them runs until it has to wait. What a
task or the actor does is one small step at a time, so that any other order of the same steps can
be looked at as well.

| here | in the SDK |
| --- | --- |
| `stepConnect`, `stepListen`, `stepHealth` | `connect_loop`, `listen`, `health_loop`, as tasks |
| `carryOut` | `spawn_connect_loop` and `spawn_session` |
| `stopSession` | `stop` of `SessionActor`, with `shutdown` of the handler |
| `stepActor`, `retire` | `run` of `SessionActor`, and what it does at its end |
-/
namespace DeviceLink.Bench

/-- Of timers that end at one time, the one with the lower number goes first. -/
inductive Timer
  | idle
  | pending (due number : Nat)
  | elapsed
deriving DecidableEq

inductive Job (Config Command TagValue : Type)
  | connect (loop : ConnectLoop Nat)
  /-- `work` is the request in hand once its callback has begun. -/
  | listen (method : Method) (stream : Nat) (listener : Listener)
      (work : Option (Handling Config Command TagValue))
  | health (loop : HealthLoop)

structure Task (Config Command TagValue : Type) where
  id         : Nat
  generation : Nat
  timer      : Timer
  job        : Job Config Command TagValue

/-- Who is to run. -/
inductive Turn
  | actor
  | task (id : Nat)
  /-- One who stops the session. -/
  | stopper
deriving DecidableEq

/-- What a handle asks of the actor. -/
inductive Instruction
  | start
  | stop
deriving DecidableEq

/-- What the driver was called for. -/
inductive Invocation (Config Command TagValue : Type)
  | call (c : Call Config Command TagValue)
  | stop

structure Rig (Config Command TagValue : Type) where
  driver    : Driver Config Command TagValue
  settings  : SessionSettings
  identity  : Identity
  pipeline  : Pipeline
  platform  : Platform
  store     : Store
  health    : HealthStatus
  actor     : Actor
  /-- The actor runs. -/
  alive     : Bool
  /-- The owner of the host has not let go of it. -/
  owned     : Bool
  tasks     : List (Task Config Command TagValue)
  /-- Stops that are still to come. -/
  stoppers  : List (Nat × Nat)
  commands  : List Instruction
  reports   : List (Report Nat)
  ready     : List Turn
  now       : Nat
  nextTask  : Nat
  nextTimer : Nat
  /-- The latest first. -/
  calls     : List (Invocation Config Command TagValue)

namespace Rig

variable {Config Command TagValue : Type}

def initial (driver : Driver Config Command TagValue) (settings : SessionSettings)
    (identity : Identity) (pipeline : Pipeline) : Rig Config Command TagValue where
  driver := driver
  settings := settings
  identity := identity
  pipeline := pipeline
  platform := Platform.initial
  store := Store.empty
  health := HealthStatus.initial
  actor := Actor.initial
  alive := true
  owned := true
  tasks := []
  stoppers := []
  commands := []
  reports := []
  ready := []
  now := 0
  nextTask := 0
  nextTimer := 0
  calls := []

/-! ## Tasks -/

def wake (r : Rig Config Command TagValue) (t : Turn) : Rig Config Command TagValue :=
  if r.ready.contains t then r else { r with ready := r.ready ++ [t] }

def find? (r : Rig Config Command TagValue) (id : Nat) : Option (Task Config Command TagValue) :=
  r.tasks.find? fun t => t.id == id

def put (r : Rig Config Command TagValue) (t : Task Config Command TagValue) :
    Rig Config Command TagValue :=
  { r with tasks := r.tasks.map fun u => if u.id = t.id then t else u }

/-- A new task of the current generation, which is to run. -/
def spawn (r : Rig Config Command TagValue) (job : Job Config Command TagValue) :
    Rig Config Command TagValue :=
  let id := r.nextTask
  { r with
    nextTask := id + 1
    tasks := r.tasks ++ [⟨id, r.actor.generation, .idle, job⟩]
    ready := r.ready ++ [.task id] }

/-- The streams of which a task holds an end. -/
def streamsOf : Job Config Command TagValue → List Nat
  | .connect loop => loop.held.map Prod.snd
  | .listen _ stream _ _ => [stream]
  | .health _ => []

def abandonAll (r : Rig Config Command TagValue) (streams : List Nat) :
    Rig Config Command TagValue :=
  { r with platform := streams.foldl Platform.abandon r.platform }

/-- A task ends, and with it its ends of streams. -/
def remove (r : Rig Config Command TagValue) (id : Nat) : Rig Config Command TagValue :=
  { r with tasks := r.tasks.filter fun t => t.id != id }

/-- All tasks are cancelled, wherever they are. -/
def dropTasks (r : Rig Config Command TagValue) : Rig Config Command TagValue :=
  { r.abandonAll (r.tasks.flatMap fun t => streamsOf t.job) with tasks := [] }

def report (r : Rig Config Command TagValue) (e : Report Nat) : Rig Config Command TagValue :=
  { r with reports := r.reports ++ [e] }.wake .actor

/-- Lets a task wait; no time at all is over at once. The flag says that the task goes on. -/
def pause (r : Rig Config Command TagValue) (t : Task Config Command TagValue) (millis : Nat) :
    Rig Config Command TagValue × Bool :=
  if millis = 0 then (r.put { t with timer := .elapsed }, true)
  else
    ({ r.put { t with timer := .pending (r.now + millis) r.nextTimer } with
        nextTimer := r.nextTimer + 1 }, false)

/-- A task goes on with another job in hand. -/
def proceed (r : Rig Config Command TagValue) (t : Task Config Command TagValue)
    (job : Job Config Command TagValue) : Rig Config Command TagValue × Bool :=
  (r.put { t with timer := .idle, job := job }, true)

/-! ## Steps of tasks -/

/-- Opens the next stream; streams of a batch that fails are given up. -/
def openNext (r : Rig Config Command TagValue) (t : Task Config Command TagValue)
    (loop : ConnectLoop Nat) (next : Method) : Rig Config Command TagValue × Bool :=
  let (outcome, platform) := r.platform.openStream next r.identity
  let r := { r with platform := platform }
  let r := match outcome with
    | .ok _ => r
    | .error _ => r.abandonAll (loop.held.map Prod.snd)
  match loop.step (.answered outcome) with
  | (_, some streams) => ((r.remove t.id).report (.opened t.generation streams), false)
  | (loop, none) => r.proceed t (.connect loop)

def stepConnect (r : Rig Config Command TagValue) (t : Task Config Command TagValue)
    (loop : ConnectLoop Nat) : Rig Config Command TagValue × Bool :=
  match loop, t.timer with
  | .opening _ next _, .idle =>
    if r.platform.openDelay = 0 then r.openNext t loop next else r.pause t r.platform.openDelay
  | .opening _ next _, .elapsed => r.openNext t loop next
  | .pausing, .idle => r.pause t r.settings.retry.ticks
  | .pausing, .elapsed => r.proceed t (.connect (loop.step .elapsed).1)
  | .ended, _ => (r.remove t.id, false)
  | _, .pending _ _ => (r, false)

/-- The callback has ended: its effect takes place and the answer is ready. -/
def answer (r : Rig Config Command TagValue) (t : Task Config Command TagValue) (m : Method)
    (stream : Nat) (l : Listener) (work : Handling Config Command TagValue) :
    Rig Config Command TagValue × Bool :=
  { r with store := work.finish r.store }.proceed t
    (.listen m stream (l.step (.handled work.envelope.bytes)) none)

def stepListen (r : Rig Config Command TagValue) (t : Task Config Command TagValue) (m : Method)
    (stream : Nat) (l : Listener) (work : Option (Handling Config Command TagValue)) :
    Rig Config Command TagValue × Bool :=
  match l, work with
  | .waiting, _ =>
    match r.platform.take stream with
    | (none, _) => (r, false)
    | (some item, platform) =>
      { r with platform := platform }.proceed t (.listen m stream (l.step (.arrived item)) none)
  | .handling request, none =>
    let work := Handling.begin r.driver m request
    let calls := match work.call with
      | some c => .call c :: r.calls
      | none => r.calls
    { r with calls := calls }.proceed t (.listen m stream l (some work))
  | .handling _, some work =>
    match t.timer with
    | .idle => if work.delay = 0 then r.answer t m stream l work else r.pause t work.delay
    | .elapsed => r.answer t m stream l work
    | .pending _ _ => (r, false)
  | .sending response, _ =>
    match r.platform.write stream response with
    | (none, _) => (r, false)
    | (some input, platform) =>
      { r with platform := platform }.proceed t (.listen m stream (l.step input) none)
  | .closed, _ =>
    (((r.abandonAll [stream]).remove t.id).report (.streamClosed t.generation m), false)
  | .cancelled, _ => ((r.abandonAll [stream]).remove t.id, false)

def stepHealth (r : Rig Config Command TagValue) (t : Task Config Command TagValue)
    (loop : HealthLoop) : Rig Config Command TagValue × Bool :=
  let step (r : Rig Config Command TagValue) (input : HealthInput) :=
    let (loop, health) := loop.step r.settings.healthTimeout r.now r.health input
    { r with health := health }.proceed t (.health loop)
  match loop, t.timer with
  | .resting, .idle => r.pause t r.settings.keepalive.ticks
  | .resting, .elapsed => step r .elapsed
  | .checking _, .idle =>
    match r.platform.check with
    | (some result, platform) => step { r with platform := platform } (.result result)
    | (none, platform) => { r with platform := platform }.pause t r.settings.healthTimeout.ticks
  | .checking _, .elapsed => step r (.result .timedOut)
  | .failed reason, _ => ((r.remove t.id).report (.healthFailed t.generation reason), false)
  | .cancelled, _ => (r.remove t.id, false)
  | _, .pending _ _ => (r, false)

/-- One step of a task; the flag says that it goes on at once. -/
def stepTask (r : Rig Config Command TagValue) (t : Task Config Command TagValue) :
    Rig Config Command TagValue × Bool :=
  match t.job with
  | .connect loop => r.stepConnect t loop
  | .listen m stream l work => r.stepListen t m stream l work
  | .health loop => r.stepHealth t loop

/-! ## Steps of the actor -/

/-- Carries out what the actor has decided. -/
def carryOut (r : Rig Config Command TagValue) : Order Nat → Rig Config Command TagValue
  | .keep => r
  | .connect => r.dropTasks.spawn (.connect .attempt)
  | .serve streams =>
    (streams.foldl (fun r s => r.spawn (.listen s.1 s.2 .waiting none)) r).spawn
      (.health .resting)

def obey (r : Rig Config Command TagValue) (decision : Actor × Order Nat) :
    Rig Config Command TagValue :=
  { r with actor := decision.1 }.carryOut decision.2

/-- Tasks go first, then the driver is told; one that breaks off takes the actor with it. -/
def stopSession (r : Rig Config Command TagValue) : Rig Config Command TagValue :=
  match r.actor.beginStop with
  | none => r
  | some closing =>
    let r := { r.dropTasks with actor := closing, calls := .stop :: r.calls }
    match r.driver.stop with
    | .panicked _ => { r with alive := false }
    | _ => { r with actor := r.actor.endStop }

/-- Streams that nobody wants are given up. -/
def receive (r : Rig Config Command TagValue) (e : Report Nat) : Rig Config Command TagValue :=
  match r.actor.receive e, e with
  | (_, .keep), .opened _ streams => r.abandonAll (streams.map Prod.snd)
  | decision, _ => r.obey decision

def command (r : Rig Config Command TagValue) : Instruction → Rig Config Command TagValue
  | .start => r.obey r.actor.start
  | .stop => r.stopSession

/-- Somebody can still give commands. -/
def hasHandle (r : Rig Config Command TagValue) : Bool := r.owned || !r.stoppers.isEmpty

/-- The actor cancels its tasks and ends; the state stays what it was. -/
def retire (r : Rig Config Command TagValue) : Rig Config Command TagValue :=
  { r.dropTasks with alive := false, actor := { r.actor with cancelled := true } }

/-- One step of the actor; the flag says that it goes on at once. -/
def stepActor (r : Rig Config Command TagValue) : Rig Config Command TagValue × Bool :=
  if r.alive then
    match r.commands, r.reports with
    | c :: rest, _ => ({ r with commands := rest }.command c, true)
    | [], e :: rest => ({ r with reports := rest }.receive e, true)
    | [], [] => if r.hasHandle then (r, false) else (r.retire, false)
  else ({ r with commands := [], reports := [] }, false)

/-! ## Turns -/

/-- One step of whoever is first in the queue. -/
def turn (r : Rig Config Command TagValue) : Rig Config Command TagValue :=
  match r.ready with
  | [] => r
  | who :: rest =>
    let done (r : Rig Config Command TagValue) := { r with ready := r.ready.drop 1 }
    match who with
    | .actor =>
      let (r, again) := r.stepActor
      if again then r else done r
    | .task id =>
      match r.find? id with
      | none => { r with ready := rest }
      | some t =>
        let (r, again) := r.stepTask t
        if again then r else done r
    | .stopper => { r with ready := rest, commands := r.commands ++ [Instruction.stop] }.wake .actor

def turns : Nat → Rig Config Command TagValue → Rig Config Command TagValue
  | 0, r => r
  | n + 1, r => if r.ready.isEmpty then r else turns n r.turn

/-- More turns than any scripted session takes without the clock. -/
def patience : Nat := 1000000

/-- Lets everyone run who can run without the clock. -/
def settle (r : Rig Config Command TagValue) : Rig Config Command TagValue := turns patience r

end Rig
end DeviceLink.Bench
