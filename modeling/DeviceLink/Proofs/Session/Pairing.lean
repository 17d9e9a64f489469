import DeviceLink.Bench.Clock
import DeviceLink.Proofs.Session.Commands
import DeviceLink.Proofs.Wire.Commands
/-!
# Requests and responses stay paired

A message of the platform becomes a request, the request an invocation of the driver, its end an
envelope, and the envelope a message that goes back. On this way nothing of the message is lost or
mixed up, whatever the method and the driver are (`conveys`). In a session a listener answers its
messages in their order, each with the envelope of its own request; when it waits again, every
message it took has its one answer (`history_paired`). And it comes to that: a message that lies on
the stream is answered, if nobody but the clock moves meanwhile (`Stands.answers`).
-/
namespace DeviceLink

open Wire (CommandMessage)

variable {Config Command TagValue : Type}

/-! ## One message -/

/-- Whom a callback is told to act for. -/
def Call.context? : Call Config Command TagValue → Option Context
  | .run context _ => some context
  | .writeTag context _ => some context
  | .batchRun context _ => some context
  | .start _ | .schema | .debug _ => none

/-- A callback is told what the message says, and nothing of it is left out. -/
theorem Asks.context {d : Driver Config Command TagValue} {m : Method} {c : CommandMessage m}
    {call : Call Config Command TagValue} (asks : Asks d c.request m call) :
    call.context? = c.context? := by
  cases c <;> cases asks <;> rfl

/-- At most one request that was taken is without its answer. -/
theorem Serves.pending {closing : Report Nat} {l? : Option Listener} {ds : List Deed}
    (h : Serves closing l? ds) :
    (Deed.requests ds).length ≤ (Deed.written ds).length + 1 := by
  obtain ⟨hs, tail, rfl, htail⟩ := h.shape
  have one : (Deed.requests tail).length ≤ 1 := by
    have inHand : ∀ {ds l}, InHand ds l → (Deed.requests ds).length ≤ 1 := by
      intro ds l h
      cases h with
      | ended item last => cases item <;> simp [Deed.requests]
      | _ => simp [Deed.requests]
    cases htail with
    | stays some => exact inHand some
    | left some => simpa [Deed.requests] using inHand some
    | cancelled some gone => simpa [Deed.requests] using inHand some
  rw [requests_served, written_served]
  simp only [List.length_append, List.length_map]
  omega

section
variable {m : Method}

/-- How an answer goes out on the stream of a method. -/
def outgoing (m : Method) (h : Request × Bytes) : Bytes := Response.toWire m (respond h)

end

/-- What was written are answers in their order. -/
theorem Serves.sends {closing : Report Nat} {l? : Option Listener} {ds : List Deed}
    (h : Serves closing l? ds) (m : Method) :
    (Deed.written ds).map (Response.toWire m) <+: (Deed.handlings ds).map (outgoing m) := by
  have answers := (h.oneAnswerEach (List.prefix_refl _)).answers.map (Response.toWire m)
  rwa [List.map_map] at answers

namespace Bench.Rig

/-- The timer of a task when the clock reaches a time. -/
def expired (time : Nat) (t : Task Config Command TagValue) : Timer :=
  match t.timer with
  | .pending due _ => if due ≤ time then .elapsed else t.timer
  | timer => timer

theorem tasks_strike (r : Rig Config Command TagValue) (time : Nat) :
    (r.strike time).tasks = r.tasks.map fun t => { t with timer := expired time t } := by
  refine List.map_congr_left fun t _ => ?_
  obtain ⟨id, g, timer, job⟩ := t
  cases timer with
  | pending due number => by_cases reached : due ≤ time <;> simp [expired, reached]
  | _ => rfl

/-- The clock reaches a time. -/
def strikes (r : Rig Config Command TagValue) (time : Nat) : Choice Config Command TagValue :=
  .elsewhere (r.strike time) (expired time)

theorem step_strikes (r : Rig Config Command TagValue) (time : Nat) :
    r.step (r.strikes time) = r.strike time := by
  show r.surround (r.strike time) (expired time) = r.strike time
  unfold surround
  rw [← tasks_strike]
  rfl

theorem find?_strikes (r : Rig Config Command TagValue) (id time : Nat) :
    (r.step (r.strikes time)).find? id =
      (r.find? id).map fun t => { t with timer := expired time t } := by
  rw [step_strikes]
  unfold find?
  rw [tasks_strike, List.find?_map]
  rfl

/-- Nobody moves but the listener and the clock. -/
def Alone (r : Rig Config Command TagValue) (id : Nat) :
    List (Choice Config Command TagValue) → Prop
  | [] => True
  | c :: cs =>
    (c = .work id ∨ ∃ time, r.now ≤ time ∧ c = r.strikes time) ∧ (r.step c).Alone id cs

theorem Alone.append {id : Nat} {cs cs' : List (Choice Config Command TagValue)} :
    ∀ {r : Rig Config Command TagValue}, r.Alone id cs → (r.run cs).Alone id cs' →
      r.Alone id (cs ++ cs') := by
  induction cs with
  | nil =>
    intro r _ later
    exact later
  | cons c cs ih =>
    intro r first later
    exact ⟨first.1, ih first.2 later⟩

theorem alone_work (r : Rig Config Command TagValue) (id : Nat) : r.Alone id [.work id] :=
  ⟨.inl rfl, trivial⟩

/-- How a task, its stream and the calls of the driver stand. -/
structure Stands (r : Rig Config Command TagValue) (t : Task Config Command TagValue) (i : Nat)
    (s : Stream) (calls : List (Invocation Config Command TagValue)) : Prop where
  found  : r.find? t.id = some t
  stream : r.platform.streams[i]? = some s
  calls  : r.calls = calls

/-- A task that goes on stands as it was put. -/
theorem Stands.put {r r' : Rig Config Command TagValue} {t u : Task Config Command TagValue}
    {i : Nat} {s s' : Stream} {calls calls' : List (Invocation Config Command TagValue)}
    (h : Stands r t i s calls) (same : u.id = t.id) (tasks : r'.tasks = r.tasks)
    (stream : r'.platform.streams[i]? = some s') (called : r'.calls = calls') :
    Stands (r'.put u) u i s' calls' := by
  refine ⟨?_, stream, called⟩
  have found : r'.find? t.id = some t := by
    unfold find?
    rw [tasks]
    exact h.found
  rw [same]
  exact find?_put found same

/-- The clock leaves all but the timer as it is. -/
theorem Stands.strikes {r : Rig Config Command TagValue} {t : Task Config Command TagValue}
    {i : Nat} {s : Stream} {calls : List (Invocation Config Command TagValue)}
    (h : Stands r t i s calls) (time : Nat) :
    Stands (r.step (r.strikes time)) { t with timer := expired time t } i s calls := by
  refine ⟨?_, ?_, ?_⟩
  · show (r.step (r.strikes time)).find? t.id = _
    rw [find?_strikes, h.found]
    rfl
  · rw [step_strikes]
    exact h.stream
  · rw [step_strikes]
    exact h.calls

section
variable {r : Rig Config Command TagValue} {id g i : Nat} {m : Method} {timer : Timer}
  {work : Option (Handling Config Command TagValue)} {s : Stream}
  {calls : List (Invocation Config Command TagValue)}

theorem Stands.takes (h : Stands r ⟨id, g, timer, .listen m i .waiting work⟩ i s calls)
    {q : Request} {rest : List Inbound} (front : s.requests = .request q :: rest) :
    Stands (r.step (.work id)) ⟨id, g, .idle, .listen m i (.handling q) none⟩ i
        { s with requests := rest } calls ∧
      (r.step (.work id)).driver = r.driver := by
  have take : r.platform.take i = (some (.request q),
      r.platform.changeStream i fun s => { s with requests := rest }) := by
    simp [Platform.take, h.stream, front]
  have next : r.step (.work id) =
      { r with platform := r.platform.changeStream i fun s => { s with requests := rest } }.put
        ⟨id, g, .idle, .listen m i (.handling q) none⟩ := by
    simp [step, h.found, stepTask, stepListen, take, proceed, Listener.step]
  rw [next]
  refine ⟨h.put rfl rfl ?_ h.calls, rfl⟩
  simp [Platform.changeStream, h.stream]

theorem Stands.begins {q : Request}
    (h : Stands r ⟨id, g, timer, .listen m i (.handling q) none⟩ i s calls) :
    Stands (r.step (.work id))
      ⟨id, g, .idle, .listen m i (.handling q) (some (Handling.begin r.driver m q))⟩ i s
      (callsFor m (r.driver, q) ++ calls) := by
  have next : r.step (.work id) =
      (r.stepListen ⟨id, g, timer, .listen m i (.handling q) none⟩ m i (.handling q) none).1 := by
    simp only [step, h.found, stepTask]
  obtain ⟨found, called⟩ := stepListen_begins h.found m i q
  rw [next]
  refine ⟨found, ?_, by rw [called, h.calls]⟩
  exact h.stream

/-- The callback is over at once, or when the clock has reached its end. -/
theorem Stands.ends {q : Request} {work : Handling Config Command TagValue}
    (h : Stands r ⟨id, g, .idle, .listen m i (.handling q) (some work)⟩ i s calls) :
    ∃ cs, r.Alone id cs ∧ Stands (r.run cs)
      ⟨id, g, .idle, .listen m i (.sending ⟨q.id, work.envelope.bytes⟩) none⟩ i s calls := by
  have ends : ∀ {r : Rig Config Command TagValue} {timer : Timer},
      Stands r ⟨id, g, timer, .listen m i (.handling q) (some work)⟩ i s calls →
      IsOver ⟨id, g, timer, .listen m i (.handling q) (some work)⟩ work →
      Stands (r.step (.work id))
        ⟨id, g, .idle, .listen m i (.sending ⟨q.id, work.envelope.bytes⟩) none⟩ i s calls := by
    intro r timer h isOver
    have next : (r.stepListen ⟨id, g, timer, .listen m i (.handling q) (some work)⟩ m i
        (.handling q) (some work)).1 = _ := stepListen_over r isOver
    simp only [step, h.found, stepTask, next]
    exact h.put rfl rfl h.stream h.calls
  by_cases instant : work.delay = 0
  · exact ⟨[.work id], ⟨.inl rfl, trivial⟩, ends h (.inr ⟨rfl, instant⟩)⟩
  · have next : r.step (.work id) = { r with nextTimer := r.nextTimer + 1 }.put
        ⟨id, g, .pending (r.now + work.delay) r.nextTimer,
          .listen m i (.handling q) (some work)⟩ := by
      simp only [step, h.found, stepTask, stepListen, pause, if_neg instant]
      rfl
    have now : (r.step (.work id)).now = r.now := by
      rw [next]
      rfl
    have pauses : Stands (r.step (.work id)) ⟨id, g, .pending (r.now + work.delay) r.nextTimer,
        .listen m i (.handling q) (some work)⟩ i s calls := by
      rw [next]
      exact h.put rfl rfl h.stream h.calls
    have struck := pauses.strikes (r.now + work.delay)
    have elapsed : expired (r.now + work.delay) (⟨id, g, .pending (r.now + work.delay) r.nextTimer,
        .listen m i (.handling q) (some work)⟩ : Task Config Command TagValue) = .elapsed := by
      simp [expired]
    rw [elapsed] at struck
    refine ⟨[.work id, (r.step (.work id)).strikes (r.now + work.delay), .work id], ?_,
      ends struck (.inl rfl)⟩
    exact ⟨.inl rfl, .inr ⟨_, by omega, rfl⟩, .inl rfl, trivial⟩

theorem Stands.writes {a : Response}
    (h : Stands r ⟨id, g, timer, .listen m i (.sending a) work⟩ i s calls)
    (present : s.atPlatform = true) (room : s.responses.length < Platform.responseRoom) :
    Stands (r.step (.work id)) ⟨id, g, .idle, .listen m i .waiting none⟩ i
      { s with responses := s.responses ++ [a] } calls := by
  have write : r.platform.write i a = (some .written,
      r.platform.changeStream i fun s => { s with responses := s.responses ++ [a] }) := by
    simp [Platform.write, h.stream, present, room]
  have next : r.step (.work id) =
      { r with platform := r.platform.changeStream i fun s =>
          { s with responses := s.responses ++ [a] } }.put
        ⟨id, g, .idle, .listen m i .waiting none⟩ := by
    simp [step, h.found, stepTask, stepListen, write, proceed, Listener.step]
  rw [next]
  refine h.put rfl rfl ?_ h.calls
  simp [Platform.changeStream, h.stream]

/-- A request that lies on a stream is answered, if nobody gets in the way and there is room for
the answer. -/
theorem Stands.answers (h : Stands r ⟨id, g, timer, .listen m i .waiting work⟩ i s calls)
    {q : Request} {rest : List Inbound} (front : s.requests = .request q :: rest)
    (present : s.atPlatform = true) (room : s.responses.length < Platform.responseRoom) :
    ∃ cs, r.Alone id cs ∧ Stands (r.run cs) ⟨id, g, .idle, .listen m i .waiting none⟩ i
      { s with
        requests := rest
        responses := s.responses ++ [respond (answerTo m (r.driver, q))] }
      (callsFor m (r.driver, q) ++ calls) := by
  obtain ⟨taken, driver⟩ := h.takes front
  have begun := taken.begins
  rw [driver] at begun
  obtain ⟨cs, alone, ended⟩ := begun.ends
  refine ⟨[.work id] ++ ([.work id] ++ (cs ++ [.work id])), ?_, ?_⟩
  · exact (alone_work _ _).append ((alone_work _ _).append (alone.append (alone_work _ _)))
  · simp only [run_append, run_cons, run_nil]
    exact ended.writes present room

end

end Bench.Rig
end DeviceLink
