import DeviceLink.Assoc
import DeviceLink.Session.Health
import DeviceLink.Session.Listener
/-!
# The platform of the bench

A platform that follows a script: which streams it refuses to open, what it says of its health,
what it replies. It keeps what the driver sent. A stream has two ends; requests wait in it until
they are taken, responses until they are read.

| here | in the SDK |
| --- | --- |
| `Platform` | `MockTransport`, with replies, silences and delays added to it |
| `openStream`, `check`, `send` | `open`, `health_check`, `send` |
| `push`, `close` | `push_request` and `fail_stream`, `close_stream` |
| `read` | `next_response` |
-/
namespace DeviceLink.Bench

structure Stream where
  /-- Requests and failures that were sent and not yet taken. -/
  requests  : List Inbound
  /-- Responses that were written and not yet read. -/
  responses : List Response
  /-- The platform has its end. -/
  atPlatform : Bool
  /-- The driver has its end. -/
  atDriver  : Bool
deriving DecidableEq

def Stream.fresh : Stream := ⟨[], [], true, true⟩

inductive HealthScript
  | answer (report : HealthReport)
  | fail (error : TransportError)
deriving DecidableEq

structure Platform where
  /-- Every stream that was ever opened, by number. -/
  streams      : List Stream
  /-- The number of the stream that the platform holds for a method. -/
  current      : List (Method × Nat)
  attempts     : Nat
  opens        : List (Method × Nat)
  /-- Who opened the streams, the latest first. -/
  identities   : List Identity
  /-- So many more openings are refused. -/
  refusals     : Nat
  refusing     : Bool
  /-- Milliseconds that pass before an opening is looked at. -/
  openDelay    : Nat
  script       : List HealthScript
  /-- So many more checks are never answered. -/
  silences     : Nat
  /-- Checks that were answered. -/
  checks       : Nat
  sendsFailing : Bool
  replies      : List Reply
  /-- Messages that arrived, the latest first. -/
  sent         : List Outbound

namespace Platform

def initial : Platform := ⟨[], [], 0, [], [], 0, false, 0, [], 0, 0, false, [], []⟩

/-! ## Streams -/

def stream? (p : Platform) (m : Method) : Option Nat := p.current.lookup m

def changeStream (p : Platform) (i : Nat) (f : Stream → Stream) : Platform :=
  { p with streams := p.streams.modify i f }

/-- The platform gives up its end; only who waits on the stream already can still read what was
written. -/
def release (p : Platform) (i : Nat) : Platform :=
  p.changeStream i fun s => { s with atPlatform := false }

/-- The driver gives up its end; requests that it has not taken are lost. -/
def abandon (p : Platform) (i : Nat) : Platform :=
  p.changeStream i fun s => { s with atDriver := false, requests := [] }

def refusalReason : String := "mock: open refused"

/-- Opens a stream, in place of an earlier one of the method. -/
def openStream (p : Platform) (m : Method) (who : Identity) :
    Except TransportError Nat × Platform :=
  let refused := p.refusing || p.refusals != 0
  let p := { p with attempts := p.attempts + 1, refusals := p.refusals - 1 }
  if refused then (.error (.opening m refusalReason), p)
  else
    let i := p.streams.length
    let p := match p.stream? m with
      | some old => p.release old
      | none => p
    (.ok i,
      { p with
        streams := p.streams ++ [Stream.fresh]
        current := Assoc.set m i p.current
        opens := Assoc.set m ((p.opens.lookup m).getD 0 + 1) p.opens
        identities := who :: p.identities })

/-- Sends something on the stream of a method; the number of the stream if the driver can take
it. -/
def push (p : Platform) (m : Method) (item : Inbound) : Option Nat × Platform :=
  match p.stream? m with
  | none => (none, p)
  | some i =>
    match p.streams[i]? with
    | none => (none, p)
    | some s =>
      if s.atDriver then
        (some i, p.changeStream i fun s => { s with requests := s.requests ++ [item] })
      else (none, p)

/-- Closes the stream of a method, if there is one. -/
def close (p : Platform) (m : Method) : Option Nat × Platform :=
  match p.stream? m with
  | none => (none, p)
  | some i =>
    (some i, { p.release i with current := p.current.filter fun e => e.1 != m })

/-- What the driver finds on a stream: the next item, or the end once the platform is gone. -/
def take (p : Platform) (i : Nat) : Option Inbound × Platform :=
  match p.streams[i]? with
  | none => (some .ended, p)
  | some s =>
    match s.requests with
    | item :: rest => (some item, p.changeStream i fun s => { s with requests := rest })
    | [] => (if s.atPlatform then none else some .ended, p)

/-- So many responses wait at most. -/
def responseRoom : Nat := 16

/-- Writes a response; `none` while there is no room for it. -/
def write (p : Platform) (i : Nat) (r : Response) : Option ListenerInput × Platform :=
  match p.streams[i]? with
  | none => (some .unwritten, p)
  | some s =>
    if s.atPlatform = false then (some .unwritten, p)
    else if s.responses.length < responseRoom then
      (some .written, p.changeStream i fun s => { s with responses := s.responses ++ [r] })
    else (none, p)

/-- Reads a waiting response. -/
def read (p : Platform) (i : Nat) : Option Response × Platform :=
  match p.streams[i]? with
  | none => (none, p)
  | some s =>
    match s.responses with
    | r :: rest => (some r, p.changeStream i fun s => { s with responses := rest })
    | [] => (none, p)

/-- No response will come on the stream any more. -/
def isExhausted (p : Platform) (i : Nat) : Bool :=
  match p.streams[i]? with
  | none => true
  | some s => !s.atDriver && s.responses.isEmpty

/-! ## Calls -/

/-- Answers a health check at once, or never. Without a script the platform serves. -/
def check (p : Platform) : Option CheckResult × Platform :=
  if p.silences ≠ 0 then (none, { p with silences := p.silences - 1 })
  else
    let p := { p with checks := p.checks + 1 }
    match p.script with
    | [] => (some (.answered ⟨.serving, []⟩), p)
    | .answer report :: rest => (some (.answered report), { p with script := rest })
    | .fail e :: rest => (some (.failed e), { p with script := rest })

def unavailable : String := "mock: unavailable"

/-- Takes a message and replies to it. -/
def send (p : Platform) (m : Outbound) : Except TransportError Reply × Platform :=
  if p.sendsFailing then (.error (.call m.name unavailable), p)
  else
    let p := { p with sent := m :: p.sent }
    match p.replies with
    | [] => (.ok Reply.accepted, p)
    | r :: rest => (.ok r, { p with replies := rest })

end Platform
end DeviceLink.Bench
