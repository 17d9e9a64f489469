import DeviceLink.Bench.Clock
import DeviceLink.Gateway
/-!
# Using the rig

What the owner of a host does with it: start and stop the session, wait, send samples and other
messages; and what the platform does: push requests, read responses, end streams.

| here | in the SDK |
| --- | --- |
| `start`, `stop`, `waitFor` | `start`, `stop` and `wait_for` of `SessionManager` |
| `release` | the last handle of `DriverSdk` is dropped |
| `writeSample`, `writeEvent`, `writeLog`, `updateResource` | the calls of `OutboundGateway` |
-/
namespace DeviceLink.Bench.Rig

variable {Config Command TagValue : Type}

/-! ## The session -/

/-- Gives instructions to the actor; each is carried out if the actor lives to do so. -/
def instruct (r : Rig Config Command TagValue) (instructions : List Instruction) :
    List (Except LinkError Unit) × Rig Config Command TagValue :=
  if r.alive then
    let r := ({ r with commands := r.commands ++ instructions }.wake .actor).settle
    let result : Except LinkError Unit := if r.alive then .ok () else .error .sessionTerminated
    (instructions.map fun _ => result, r)
  else (instructions.map fun _ => .error .sessionTerminated, r)

def start (r : Rig Config Command TagValue) : Except LinkError Unit × Rig Config Command TagValue :=
  let (results, r) := r.instruct [.start]
  (results.headD (.ok ()), r)

def stop (r : Rig Config Command TagValue) : Except LinkError Unit × Rig Config Command TagValue :=
  let (results, r) := r.instruct [.stop]
  (results.headD (.ok ()), r)

/-- Somebody else will stop the session. -/
def stopLater (r : Rig Config Command TagValue) (millis : Nat) : Rig Config Command TagValue :=
  if millis = 0 then (r.wake .stopper).settle
  else
    { r with
      stoppers := r.stoppers ++ [(r.now + millis, r.nextTimer)]
      nextTimer := r.nextTimer + 1 }

def advance (r : Rig Config Command TagValue) (millis : Nat) : Rig Config Command TagValue :=
  r.advanceTo (r.now + millis)

/-- Waits for a state: `none` when it is not reached in time. -/
def waitFor (r : Rig Config Command TagValue) (target : SessionState) (millis : Nat) :
    Option (Except LinkError Unit) × Rig Config Command TagValue :=
  r.await (fun r =>
    if r.actor.state = target then some (.ok ())
    else if r.alive then none
    else some (.error .sessionTerminated)) millis

/-- The owner lets go of the host. -/
def release (r : Rig Config Command TagValue) : Rig Config Command TagValue :=
  ({ r with owned := false }.wake .actor).settle

/-! ## The platform's side -/

/-- Wakes whoever listens on a stream. -/
def wakeStream (r : Rig Config Command TagValue) (stream : Nat) : Rig Config Command TagValue :=
  r.tasks.foldl (fun r t =>
    match t.job with
    | .listen _ s _ _ => if s = stream then r.wake (.task t.id) else r
    | _ => r) r

def afterPlatform (r : Rig Config Command TagValue) (change : Option Nat × Platform) :
    Bool × Rig Config Command TagValue :=
  let r := { r with platform := change.2 }
  match change.1 with
  | some stream => (true, r.wakeStream stream)
  | none => (false, r)

/-- Sends items on the streams of methods, one after the other, and lets them be served. -/
def pushAll (r : Rig Config Command TagValue) (items : List (Method × Inbound)) :
    List Bool × Rig Config Command TagValue :=
  let (done, r) := items.foldl (fun (done, r) (m, item) =>
    let (ok, r) := r.afterPlatform (r.platform.push m item)
    (ok :: done, r)) ([], r)
  (done.reverse, r.settle)

/-- Fails streams with a reason. -/
def failStreams (r : Rig Config Command TagValue) (methods : List Method) (reason : String) :
    List Bool × Rig Config Command TagValue :=
  r.pushAll (methods.map fun m => (m, .failed (.stream m reason)))

def closeStreams (r : Rig Config Command TagValue) (methods : List Method) :
    List Bool × Rig Config Command TagValue :=
  let (done, r) := methods.foldl (fun (done, r) m =>
    let (ok, r) := r.afterPlatform (r.platform.close m)
    (ok :: done, r)) ([], r)
  (done.reverse, r.settle)

/-- Reads a response of a stream, which makes room for another one. -/
def readStream (r : Rig Config Command TagValue) (stream : Nat) :
    Option Response × Rig Config Command TagValue :=
  match r.platform.read stream with
  | (none, _) => (none, r)
  | (some response, platform) =>
    (some response, ({ r with platform := platform }.wakeStream stream).settle)

/-- A response that waits on the stream of a method. -/
def response (r : Rig Config Command TagValue) (m : Method) :
    Option Response × Rig Config Command TagValue :=
  match r.platform.stream? m with
  | none => (none, r)
  | some stream => r.readStream stream

/-- Waits for a response on the stream that the method has now. -/
def responseWithin (r : Rig Config Command TagValue) (m : Method) (millis : Nat) :
    Option Response × Rig Config Command TagValue :=
  match r.platform.stream? m with
  | none => (none, r)
  | some stream =>
    let waiting (r : Rig Config Command TagValue) : Option Unit :=
      if (r.platform.read stream).1.isSome || r.platform.isExhausted stream then some () else none
    match r.await waiting millis with
    | (some _, r) => r.readStream stream
    | (none, r) => (none, r)

/-- Sends a request and reads the response that it gets without waiting; `none` without a
stream. -/
def call (r : Rig Config Command TagValue) (m : Method) (request : Request) :
    Option (Option Response) × Rig Config Command TagValue :=
  let (done, r) := r.pushAll [(m, .request request)]
  if done = [true] then
    let (response, r) := r.response m
    (some response, r)
  else (none, r)

/-! ## Messages -/

def changePlatform (r : Rig Config Command TagValue) (f : Platform → Platform) :
    Rig Config Command TagValue :=
  { r with platform := f r.platform }

def writeSample (r : Rig Config Command TagValue) (s : Sample) :
    Except LinkError SampleOutcome × Rig Config Command TagValue :=
  let (result, cache, platform) :=
    Gateway.writeSample Platform.send r.actor.state r.store.registry r.pipeline r.store.cache
      r.platform s
  (result, { r with platform := platform, store := { r.store with cache := cache } })

def deliver (r : Rig Config Command TagValue)
    (send : Platform → Except LinkError Delivery × Platform) :
    Except LinkError Delivery × Rig Config Command TagValue :=
  let (result, platform) := send r.platform
  (result, { r with platform := platform })

def writeEvent (r : Rig Config Command TagValue) (e : Event) :
    Except LinkError Delivery × Rig Config Command TagValue :=
  r.deliver fun p => Gateway.writeEvent Platform.send r.actor.state p e

def writeLog (r : Rig Config Command TagValue) (table device : String) (level : LogLevel)
    (message time : String) : Except LinkError Delivery × Rig Config Command TagValue :=
  r.deliver fun p => Gateway.writeLog Platform.send r.actor.state p table device level message time

def updateResource (r : Rig Config Command TagValue) (table row : String)
    (fields : List (String × Json)) : Except LinkError Delivery × Rig Config Command TagValue :=
  r.deliver fun p => Gateway.updateResource Platform.send r.actor.state p table row fields

end DeviceLink.Bench.Rig
