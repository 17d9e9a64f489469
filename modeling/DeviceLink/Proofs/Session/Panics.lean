import DeviceLink.Bench.Operation
import DeviceLink.Proofs.Session.Commands
import DeviceLink.Proofs.Session.Stops
/-!
# Callbacks that break off

A callback that breaks off while it handles a command costs nobody else anything: the request is
answered with a failure, its listener takes the next one, and all else stays as it is
(`BreakOff`). The callback of a stop is not taken care of in this way. It is called by the actor
itself, which does not outlive it: the session is closing for ever, and whoever asks for anything
is told that nobody is there (`StopHook`, `stop_breaks_host`). So an actor lives until it retires
or a stop callback breaks off, whatever the other callbacks do (`run_panics`).
-/
namespace DeviceLink

variable {Config Command TagValue : Type}

/-! ## Commands -/

/-- A request whose callback breaks off. -/
def Handling.brokenOff (call : Call Config Command TagValue) (delay : Nat)
    (message : Option String) : Handling Config Command TagValue :=
  ⟨some call, delay, ⟨500, .string ("unknown error: driver callback panicked: " ++
    message.getD "unknown panic payload")⟩, none⟩

theorem begin_panicked {d : Driver Config Command TagValue} {m : Method} {q : Request}
    {call : Call Config Command TagValue} {message : Option String} (asked : Asks d q m call)
    (panics : (d.perform call).outcome = .panicked message) :
    Handling.begin d m q = .brokenOff call (d.perform call).delay message := by
  obtain ⟨document, invoked⟩ := dispatch_iff.2 asked
  simp only [Handling.begin, invoked, panics, Envelope.ofOutcome, Envelope.driverError,
    panicError_text]
  rfl

namespace Bench.Rig

/-- What comes of a callback that breaks off over a request, from one step of its listener to the
next; of the whole rig nothing else changes. -/
structure BreakOff (r : Rig Config Command TagValue) : Prop where
  begins : ∀ {id g i : Nat} {timer : Timer} {m : Method} {q : Request}
    {call : Call Config Command TagValue} {message : Option String},
    r.find? id = some ⟨id, g, timer, .listen m i (.handling q) none⟩ →
    Asks r.driver q m call → (r.driver.perform call).outcome = .panicked message →
      r.live (.works id) = ({ r with calls := .call call :: r.calls } :
        Rig Config Command TagValue).put ⟨id, g, .idle, .listen m i (.handling q)
          (some (.brokenOff call (r.driver.perform call).delay message))⟩
  answers : ∀ {id g i : Nat} {timer : Timer} {m : Method} {q : Request}
    {call : Call Config Command TagValue} {delay : Nat} {message : Option String},
    r.find? id = some ⟨id, g, timer, .listen m i (.handling q)
      (some (.brokenOff call delay message))⟩ →
    timer = .elapsed ∨ timer = .idle ∧ delay = 0 →
      r.live (.works id) = r.put ⟨id, g, .idle, .listen m i (.sending ⟨q.id,
        (Handling.brokenOff call delay message).envelope.bytes⟩) none⟩
  /-- Once the platform has taken the response, the next request can come. -/
  goesOn : ∀ {id g i : Nat} {timer : Timer} {m : Method} {a : Response}
    {work : Option (Handling Config Command TagValue)} {platform : Platform},
    r.find? id = some ⟨id, g, timer, .listen m i (.sending a) work⟩ →
    r.platform.write i a = (some .written, platform) →
      r.live (.works id) = ({ r with platform := platform } : Rig Config Command TagValue).put
        ⟨id, g, .idle, .listen m i .waiting none⟩

theorem breakOff (r : Rig Config Command TagValue) : r.BreakOff := by
  constructor
  · intro id g i timer m q call message found asked panics
    simp only [live, step, found, stepTask, stepListen, begin_panicked asked panics]
    rfl
  · intro id g i timer m q call delay message found isOver
    simp only [live, step, found, stepTask]
    exact stepListen_over r isOver
  · intro id g i timer m a work platform found taken
    simp only [live, step, found, stepTask, stepListen, taken]
    rfl

/-! ## Stops -/

/-- The actor ends in this moment. -/
def Ends (r : Rig Config Command TagValue) (m : Moment Config Command TagValue) : Prop :=
  (m = .retires ∧ r.IsFree ∧ r.IsAbandoned) ∨ r.stopBreaks m = true

/-- The end of a stop, by the way in which its callback ends. -/
structure StopHook (r : Rig Config Command TagValue) : Prop where
  returns : r.IsStopping → r.tasks = [] → r.driver.stop.isPanicked = false →
    (r.live .tells).alive = true ∧ (r.live .tells).actor.state = .closed ∧
      ((r.live .tells).live .starts).actor.state = .connecting
  breaks : r.IsStopping → r.tasks = [] → r.driver.stop.isPanicked = true →
    (r.live .tells).alive = false ∧ (r.live .tells).actor.state = .closing
  /-- An actor that has ended carries out nothing any more, and the state is the last one. -/
  lost : r.alive = false → ∀ later,
    (r.lives later).alive = false ∧ (r.lives later).actor.state = r.actor.state ∧
      (r.lives later).start = (.error .sessionTerminated, r.lives later) ∧
      (r.lives later).stop = (.error .sessionTerminated, r.lives later)

theorem stopBreaks_iff {r : Rig Config Command TagValue} {m : Moment Config Command TagValue} :
    r.stopBreaks m = true ↔
      m = .tells ∧ r.IsStopping ∧ r.tasks = [] ∧ r.driver.stop.isPanicked = true := by
  cases m <;> simp [stopBreaks, and_assoc]

theorem lives_dead (later : List (Moment Config Command TagValue)) :
    ∀ {r : Rig Config Command TagValue}, r.session.Fit → r.alive = false →
      (r.lives later).alive = false ∧ (r.lives later).actor.state = r.actor.state := by
  induction later with
  | nil => intro r fit dead; exact ⟨dead, rfl⟩
  | cons m later ih =>
    intro r fit dead
    have free : ¬ r.IsFree := fun h => by cases dead.symm.trans h.1
    have stopping : ¬ r.IsStopping := fun h => by cases dead.symm.trans h.1
    have same : (r.live m).standing = r.standing := by
      have shift := live_shift fit.regular.active m
      generalize (r.live m).standing = s at shift
      cases shift with
      | stays m => rfl
      | starts h closed => exact absurd h free
      | serves h opening => exact absurd h free
      | reconnects h running => exact absurd h free
      | stops h restless => exact absurd h free
      | retires h abandoned => exact absurd h free
      | ends h alone returns => exact absurd h stopping
      | breaks h alone panics => exact absurd h stopping
    have alive : (r.live m).alive = r.alive := congrArg Standing.alive same
    have state : (r.live m).actor.state = r.actor.state := congrArg Standing.state same
    obtain ⟨dead', state'⟩ := ih (live_fit fit m) (alive.trans dead)
    exact ⟨dead', state'.trans state⟩

/-- Nobody carries out what a handle asks for. -/
theorem instruct_dead {r : Rig Config Command TagValue} (dead : r.alive = false) :
    r.start = (.error .sessionTerminated, r) ∧ r.stop = (.error .sessionTerminated, r) := by
  constructor
  · simp [start, instruct, dead]
  · simp [stop, instruct, dead]

theorem Ends.dead {r : Rig Config Command TagValue} {m : Moment Config Command TagValue}
    (h : r.Ends m) : (r.live m).alive = false := by
  rcases h with ⟨rfl, free, abandoned⟩ | broken
  · rw [live, if_pos ⟨free, abandoned⟩]
    rfl
  · obtain ⟨rfl, stopping, alone, panics⟩ := stopBreaks_iff.1 broken
    have shown := standing_tells stopping alone
    rw [panics] at shown
    exact congrArg Standing.alive shown

theorem live_alive {r : Rig Config Command TagValue} (fit : r.session.Fit) (alive : r.alive = true)
    (m : Moment Config Command TagValue) : (r.live m).alive = false ↔ r.Ends m := by
  refine ⟨fun dead => ?_, Ends.dead⟩
  have shift := live_shift fit.regular.active m
  generalize shown : (r.live m).standing = s at shift
  have shown : (r.live m).alive = s.alive := congrArg Standing.alive shown
  rw [shown] at dead
  cases shift with
  | stays m => cases dead.symm.trans alive
  | retires free abandoned => exact .inl ⟨rfl, free, abandoned⟩
  | breaks stopping alone panics => exact .inr (stopBreaks_iff.2 ⟨rfl, stopping, alone, panics⟩)
  | _ => cases dead

/-- Whatever ends an actor does so in one moment of the run. -/
theorem lives_alive (ms : List (Moment Config Command TagValue)) :
    ∀ {r : Rig Config Command TagValue}, r.session.Fit → r.alive = true →
      ((r.lives ms).alive = false ↔
        ∃ before m after, ms = before ++ m :: after ∧ (r.lives before).Ends m) := by
  induction ms with
  | nil =>
    intro r fit alive
    constructor
    · intro dead
      cases dead.symm.trans alive
    · rintro ⟨before, m, after, heq, -⟩
      cases before <;> cases heq
  | cons m ms ih =>
    intro r fit alive
    by_cases ends : r.Ends m
    · have dead := (lives_dead ms (live_fit fit m) ends.dead).1
      exact ⟨fun _ => ⟨[], m, ms, rfl, ends⟩, fun _ => dead⟩
    · have lives : (r.live m).alive = true := by
        simpa using mt (live_alive fit alive m).1 ends
      rw [lives_cons, ih (live_fit fit m) lives]
      constructor
      · rintro ⟨before, m', after, rfl, h⟩
        exact ⟨m :: before, m', after, rfl, h⟩
      · rintro ⟨_ | ⟨m', before⟩, m'', after, heq, h⟩
        · cases heq
          exact absurd h ends
        · cases heq
          exact ⟨before, m'', after, rfl, h⟩

theorem Session.Fit.stopHook {r : Rig Config Command TagValue} (fit : r.session.Fit) :
    r.StopHook := by
  constructor
  · intro stopping alone returns
    have shown := standing_tells stopping alone
    rw [returns] at shown
    have closed : (r.live .tells).actor.state = .closed := congrArg Standing.state shown
    have alive : (r.live .tells).alive = true := congrArg Standing.alive shown
    exact ⟨alive, closed, (live_fit fit .tells).stopsWhole.restarts closed alive⟩
  · intro stopping alone panics
    have shown := standing_tells stopping alone
    rw [panics] at shown
    exact ⟨congrArg Standing.alive shown, congrArg Standing.state shown⟩
  · intro dead later
    obtain ⟨dead', state⟩ := lives_dead later fit dead
    exact ⟨dead', state, instruct_dead dead'⟩

/-- **Callbacks that break off.** In every run a command whose callback breaks off is answered, and
nothing else comes of it; a stop whose callback returns, with an error or without, closes the
session, and it can be started again. What ends an actor is that it retires, or that the callback
of a stop breaks off; then nothing is carried out any more. -/
theorem run_panics (driver : Driver Config Command TagValue) (settings : SessionSettings)
    (identity : Identity) (pipeline : Pipeline) (ms : List (Moment Config Command TagValue)) :
    let first := initial driver settings identity pipeline
    (first.lives ms).BreakOff ∧ (first.lives ms).StopHook ∧
      ((first.lives ms).alive = false ↔
        ∃ before m after, ms = before ++ m :: after ∧ (first.lives before).Ends m) := by
  intro first
  have fit := initial_fit driver settings identity pipeline
  exact ⟨breakOff _, (lives_fit fit ms).stopHook, lives_alive ms fit rfl⟩

/-- A host whose stop callback breaks off. -/
def fragile : Rig DemoConfig DemoCommand Json := demo (DemoForm.full .panic).driver

/-- A stop is not always carried out, even while somebody holds on to the host: of a callback that
breaks off nothing is contained. -/
theorem stop_breaks_host :
    ¬ ∀ (driver : Driver DemoConfig DemoCommand Json) (settings : SessionSettings)
      (identity : Identity) (pipeline : Pipeline)
      (ms : List (Moment DemoConfig DemoCommand Json)),
      let r := (initial driver settings identity pipeline).lives ms
      r.IsFree → r.owned = true →
        r.stop.1 = .ok () ∧ r.stop.2.actor.state = .closed ∧ r.stop.2.start.1 = .ok () := by
  intro claim
  have free : (fragile.lives [.starts]).IsFree := by decide +kernel
  have closed : (fragile.lives [.starts]).stop.2.actor.state = .closed :=
    (claim _ _ _ _ [.starts] free rfl).2.1
  have closing : (fragile.lives [.starts]).stop.2.actor.state = .closing := by decide +kernel
  cases closing.symm.trans closed

end Bench.Rig
end DeviceLink
