import DeviceLink.Bench.Rig
/-!
# Schedules

The rig's own queue lets everyone run in one particular order. Here the order is free: a schedule
is a list of choices, each of which lets the actor take an instruction or any report out of its
queue, lets any task make its next step, or lets the rest of the world (platform, driver, clock,
timers, gateway, queues) become whatever it likes. A choice that nobody can take changes nothing,
so a run along any schedule is defined (`run`), and what is proved of all runs holds in every
interleaving. The order of the queue is one of them: `turn_eq_run`.

What a session consists of is the rig without that world (`Session`). What one step can make of it
is listed here once (`SessionStep`, `step_cases`), and invariants are read off that list; the first
of them, which the others build on, is that tasks stay as they were meant to be (`Regular`,
`step_regular`).
-/
namespace DeviceLink.Bench.Rig

variable {Config Command TagValue : Type}

/-! ## Choices and runs -/

inductive Choice (Config Command TagValue : Type)
  | instruct (i : Instruction)
  /-- By position, so that the queue may be left in any order. -/
  | receive (position : Nat)
  | work (id : Nat)
  | elsewhere (world : Rig Config Command TagValue) (timer : Task Config Command TagValue → Timer)

/-- Another world around the same actor, tasks and reports; only the timers of the tasks belong to
the world. -/
def surround (r world : Rig Config Command TagValue)
    (timer : Task Config Command TagValue → Timer) : Rig Config Command TagValue :=
  { world with
    actor := r.actor
    alive := r.alive
    reports := r.reports
    nextTask := r.nextTask
    tasks := r.tasks.map fun t => { t with timer := timer t } }

def step (r : Rig Config Command TagValue) :
    Choice Config Command TagValue → Rig Config Command TagValue
  | .instruct i => if r.alive then r.command i else r
  | .receive position =>
    match r.alive, r.reports[position]? with
    | true, some e => { r with reports := r.reports.eraseIdx position }.receive e
    | _, _ => r
  | .work id =>
    match r.find? id with
    | some t => (r.stepTask t).1
    | none => r
  | .elsewhere world timer => r.surround world timer

def run (r : Rig Config Command TagValue) (choices : List (Choice Config Command TagValue)) :
    Rig Config Command TagValue :=
  choices.foldl step r

@[simp] theorem run_nil (r : Rig Config Command TagValue) : r.run [] = r := rfl

@[simp] theorem run_cons (r : Rig Config Command TagValue) (c : Choice Config Command TagValue)
    (cs : List (Choice Config Command TagValue)) : r.run (c :: cs) = (r.step c).run cs := rfl

theorem run_append (r : Rig Config Command TagValue)
    (cs cs' : List (Choice Config Command TagValue)) : r.run (cs ++ cs') = (r.run cs).run cs' :=
  List.foldl_append

/-- What every step keeps holds after every run. -/
theorem run_induction {P : Rig Config Command TagValue → Prop}
    (keep : ∀ r c, P r → P (r.step c)) (cs : List (Choice Config Command TagValue)) :
    ∀ {r : Rig Config Command TagValue}, P r → P (r.run cs) := by
  induction cs with
  | nil => intro r h; exact h
  | cons c cs ih => intro r h; exact ih (keep r c h)

/-! ## Sessions -/

/-- The rig without the world around it. -/
structure Session (Config Command TagValue : Type) where
  actor    : Actor
  alive    : Bool
  tasks    : List (Task Config Command TagValue)
  reports  : List (Report Nat)
  nextTask : Nat

def session (r : Rig Config Command TagValue) : Session Config Command TagValue :=
  ⟨r.actor, r.alive, r.tasks, r.reports, r.nextTask⟩

namespace Session

def put (s : Session Config Command TagValue) (t : Task Config Command TagValue) :
    Session Config Command TagValue :=
  { s with tasks := s.tasks.map fun u => if u.id = t.id then t else u }

def remove (s : Session Config Command TagValue) (id : Nat) : Session Config Command TagValue :=
  { s with tasks := s.tasks.filter fun t => t.id != id }

def report (s : Session Config Command TagValue) (e : Report Nat) :
    Session Config Command TagValue :=
  { s with reports := s.reports ++ [e] }

/-- Tasks of the current generation, numbered on from the next free number. -/
def started (s : Session Config Command TagValue) :
    Nat → List (Job Config Command TagValue) → List (Task Config Command TagValue)
  | _, [] => []
  | id, job :: jobs => ⟨id, s.actor.generation, .idle, job⟩ :: s.started (id + 1) jobs

/-- The queue without one of its reports. -/
def discard (s : Session Config Command TagValue) (position : Nat) :
    Session Config Command TagValue :=
  { s with reports := s.reports.eraseIdx position }

def spawnAll (s : Session Config Command TagValue) (jobs : List (Job Config Command TagValue)) :
    Session Config Command TagValue :=
  { s with
    tasks := s.tasks ++ s.started s.nextTask jobs
    nextTask := s.nextTask + jobs.length }

end Session

@[simp] theorem session_abandonAll (r : Rig Config Command TagValue) (streams : List Nat) :
    (r.abandonAll streams).session = r.session := rfl

@[simp] theorem session_wake (r : Rig Config Command TagValue) (t : Turn) :
    (r.wake t).session = r.session := by
  unfold wake
  split <;> rfl

@[simp] theorem session_put (r : Rig Config Command TagValue) (t : Task Config Command TagValue) :
    (r.put t).session = r.session.put t := rfl

@[simp] theorem session_remove (r : Rig Config Command TagValue) (id : Nat) :
    (r.remove id).session = r.session.remove id := rfl

@[simp] theorem session_report (r : Rig Config Command TagValue) (e : Report Nat) :
    (r.report e).session = r.session.report e := by
  simp only [report, session_wake]
  rfl

theorem session_spawn (r : Rig Config Command TagValue) (job : Job Config Command TagValue) :
    (r.spawn job).session = r.session.spawnAll [job] := rfl

theorem started_append (s : Session Config Command TagValue)
    (jobs jobs' : List (Job Config Command TagValue)) :
    ∀ id, s.started id (jobs ++ jobs') =
      s.started id jobs ++ s.started (id + jobs.length) jobs' := by
  induction jobs with
  | nil => intro id; rfl
  | cons job jobs ih =>
    intro id
    simp only [List.cons_append, Session.started, ih, List.length_cons]
    rw [Nat.add_assoc, Nat.add_comm 1]

theorem spawnAll_append (s : Session Config Command TagValue)
    (jobs jobs' : List (Job Config Command TagValue)) :
    (s.spawnAll jobs).spawnAll jobs' = s.spawnAll (jobs ++ jobs') := by
  have same : ∀ id jobs', (s.spawnAll jobs).started id jobs' = s.started id jobs' := by
    intro id jobs'
    induction jobs' generalizing id with
    | nil => rfl
    | cons job jobs' ih => simp only [Session.started, ih]; rfl
  simp only [Session.spawnAll, started_append, List.length_append, List.append_assoc] at same ⊢
  rw [same, Nat.add_assoc]

theorem mem_started {s : Session Config Command TagValue} {t : Task Config Command TagValue}
    {jobs : List (Job Config Command TagValue)} :
    ∀ {id}, t ∈ s.started id jobs →
      id ≤ t.id ∧ t.id < id + jobs.length ∧ t.generation = s.actor.generation ∧ t.job ∈ jobs := by
  induction jobs with
  | nil => intro id h; simp [Session.started] at h
  | cons job jobs ih =>
    intro id h
    rcases List.mem_cons.1 h with rfl | h
    · simp
    · obtain ⟨h1, h2, h3, h4⟩ := ih h
      simp only [List.length_cons]
      exact ⟨by omega, by omega, h3, List.mem_cons_of_mem _ h4⟩

/-! ## The order of the queue -/

/-- Whatever leaves the session alone happens elsewhere. -/
theorem step_elsewhere {r r' : Rig Config Command TagValue} (h : r'.session = r.session) :
    r.step (.elsewhere r' Task.timer) = r' := by
  obtain ⟨ha, hl, ht, hr, hn⟩ : r'.actor = r.actor ∧ r'.alive = r.alive ∧ r'.tasks = r.tasks ∧
      r'.reports = r.reports ∧ r'.nextTask = r.nextTask := by
    simpa [session] using h
  cases r'
  simp only at ha hl ht hr hn
  subst ha hl ht hr hn
  simp [step, surround]

theorem stepActor_eq_run {r : Rig Config Command TagValue} (alive : r.alive = true)
    (handle : r.hasHandle = true) : ∃ cs, r.stepActor.1 = r.run cs := by
  unfold stepActor
  rw [if_pos alive]
  split
  · rename_i c rest _
    have taken : r.step (.elsewhere { r with commands := rest } Task.timer) =
        { r with commands := rest } := step_elsewhere rfl
    refine ⟨[.elsewhere { r with commands := rest } Task.timer, .instruct c], ?_⟩
    rw [run_cons, taken]
    simp [step, alive]
  · rename_i e rest _ hr
    exact ⟨[.receive 0], by simp [step, alive, hr]⟩
  · exact ⟨[], by simp [handle]⟩

/-- While somebody holds on to the host, each turn of the queue is a run along some schedule. -/
theorem turn_eq_run {r : Rig Config Command TagValue} (alive : r.alive = true)
    (handle : r.hasHandle = true) : ∃ cs, r.turn = r.run cs := by
  -- whoever has to wait leaves the queue, which happens elsewhere
  have settle : ∀ (r' : Rig Config Command TagValue) (again : Bool), (∃ cs, r' = r.run cs) →
      ∃ cs, (if again then r' else { r' with ready := r'.ready.drop 1 }) = r.run cs := by
    rintro r' again ⟨cs, rfl⟩
    cases again with
    | true => exact ⟨cs, rfl⟩
    | false =>
      refine ⟨cs ++ [.elsewhere { r.run cs with ready := (r.run cs).ready.drop 1 } Task.timer], ?_⟩
      rw [run_append]
      exact (step_elsewhere rfl).symm
  have elsewhere : ∀ r' : Rig Config Command TagValue, r'.session = r.session →
      ∃ cs, r' = r.run cs :=
    fun r' h => ⟨[.elsewhere r' Task.timer], (step_elsewhere h).symm⟩
  unfold turn
  split
  · exact ⟨[], rfl⟩
  · split
    · exact settle _ _ (stepActor_eq_run alive handle)
    · rename_i id _
      split
      · exact elsewhere _ rfl
      · rename_i t ht
        exact settle _ _ ⟨[.work id], by rw [run_cons, step, ht]; rfl⟩
    · exact elsewhere _ (session_wake _ _)

/-! ## Steps of tasks -/

/-- What a task is there for. -/
inductive Role
  | connect
  | listen (m : Method)
  | health
deriving DecidableEq

def roleOf : Job Config Command TagValue → Role
  | .connect _ => .connect
  | .listen m _ _ _ => .listen m
  | .health _ => .health

/-- The role whose end a report tells of. -/
def endedRole : Report Nat → Role
  | .opened _ _ => .connect
  | .healthFailed _ _ => .health
  | .streamClosed _ m => .listen m

/-- The task has not been told to end; a loop that opens streams goes through all methods. -/
def IsActive : Job Config Command TagValue → Prop
  | .connect (.opening opened next rest) => opened.map Prod.fst ++ next :: rest = Method.all
  | .connect .pausing => True
  | .connect .ended => False
  | .listen _ _ l _ => l ≠ .cancelled
  | .health loop => loop ≠ .cancelled

/-- The work that a listener has in hand began with its request. -/
def IsBegun : Job Config Command TagValue → Prop
  | .listen m _ (.handling q) (some work) => ∃ d, work = Handling.begin d m q
  | _ => True

/-- A batch of streams has one for every method. -/
def IsComplete : Report Nat → Prop
  | .opened _ streams => streams.map Prod.fst = Method.all
  | _ => True

/-- All that a step of an active task can do to the session: nothing, go on in its role, or end
with a report. -/
inductive TaskStep (s : Session Config Command TagValue) (t : Task Config Command TagValue) :
    Session Config Command TagValue → Prop
  | waits : TaskStep s t s
  | goesOn (timer : Timer) (job : Job Config Command TagValue) (role : roleOf job = roleOf t.job)
      (active : IsActive job) (begun : IsBegun t.job → IsBegun job) :
      TaskStep s t (s.put { t with timer := timer, job := job })
  | ends (e : Report Nat) (generation : e.generation = t.generation)
      (role : endedRole e = roleOf t.job) (complete : IsComplete e) :
      TaskStep s t ((s.remove t.id).report e)

theorem TaskStep.actor {s s' : Session Config Command TagValue} {t : Task Config Command TagValue}
    (h : TaskStep s t s') : s'.actor = s.actor := by
  cases h <;> rfl

theorem TaskStep.alive {s s' : Session Config Command TagValue} {t : Task Config Command TagValue}
    (h : TaskStep s t s') : s'.alive = s.alive := by
  cases h <;> rfl

theorem pause_cases (r : Rig Config Command TagValue) {t : Task Config Command TagValue}
    (h : IsActive t.job) (millis : Nat) : TaskStep r.session t (r.pause t millis).1.session := by
  unfold pause
  split
  · exact .goesOn .elapsed t.job rfl h id
  · exact .goesOn (.pending (r.now + millis) r.nextTimer) t.job rfl h id

theorem attempt_active : IsActive (.connect .attempt : Job Config Command TagValue) := rfl

/-- An attempt goes on until the last stream is open; then the batch is reported. -/
theorem openNext_cases (r : Rig Config Command TagValue) {t : Task Config Command TagValue}
    {opened : List (Method × Nat)} {next : Method} {rest : List Method}
    (hj : t.job = .connect (.opening opened next rest)) (h : IsActive t.job) :
    TaskStep r.session t (r.openNext t (.opening opened next rest) next).1.session := by
  have horder : opened.map Prod.fst ++ next :: rest = Method.all := by rw [hj] at h; exact h
  have hrole : roleOf t.job = .connect := by rw [hj]; rfl
  unfold openNext
  obtain ⟨outcome, platform⟩ := r.platform.openStream next r.identity
  cases outcome with
  | error e =>
    simp only [ConnectLoop.step, proceed, session_put, session_abandonAll]
    exact .goesOn .idle (.connect .pausing) hrole.symm trivial fun _ => trivial
  | ok i =>
    cases rest with
    | nil =>
      simp only [ConnectLoop.step, session_report, session_remove]
      exact .ends _ rfl hrole.symm (by simpa [IsComplete] using horder)
    | cons m rest =>
      exact .goesOn .idle (.connect (.opening (opened ++ [(next, i)]) m rest)) hrole.symm
        (by simpa [IsActive] using horder) fun _ => trivial

theorem stepConnect_cases (r : Rig Config Command TagValue) {t : Task Config Command TagValue}
    {loop : ConnectLoop Nat} (hj : t.job = .connect loop) (h : IsActive t.job) :
    TaskStep r.session t (r.stepConnect t loop).1.session := by
  have hrole : roleOf t.job = .connect := by rw [hj]; rfl
  unfold stepConnect
  split
  · split
    · exact openNext_cases r hj h
    · exact pause_cases r h _
  · exact openNext_cases r hj h
  · exact pause_cases r h _
  · exact .goesOn .idle (.connect .attempt) hrole.symm attempt_active fun _ => trivial
  · rw [hj] at h; exact h.elim
  · exact .waits

theorem answer_cases (r : Rig Config Command TagValue) {t : Task Config Command TagValue}
    {m : Method} {stream : Nat} {l : Listener} {work : Option (Handling Config Command TagValue)}
    (hj : t.job = .listen m stream l work) {q : Request} (hl : l = .handling q)
    (done : Handling Config Command TagValue) :
    TaskStep r.session t (r.answer t m stream l done).1.session := by
  subst hl
  have hrole : roleOf t.job = .listen m := by rw [hj]; rfl
  exact .goesOn .idle (.listen m stream (.sending ⟨q.id, done.envelope.bytes⟩) none) hrole.symm
    nofun fun _ => trivial

/-- A response is taken or it is not. -/
theorem write_input {p : Platform} {i : Nat} {a : Response} {input : ListenerInput}
    (h : (p.write i a).1 = some input) : input = .written ∨ input = .unwritten := by
  unfold Platform.write at h
  split at h
  · simp_all
  · split at h
    · simp_all
    · split at h <;> simp_all

theorem stepListen_cases (r : Rig Config Command TagValue) {t : Task Config Command TagValue}
    {m : Method} {stream : Nat} {l : Listener} {work : Option (Handling Config Command TagValue)}
    (hj : t.job = .listen m stream l work) (h : IsActive t.job) :
    TaskStep r.session t (r.stepListen t m stream l work).1.session := by
  have hrole : roleOf t.job = .listen m := by rw [hj]; rfl
  unfold stepListen
  split
  · split
    · exact .waits
    · rename_i item platform _
      refine .goesOn .idle (.listen m stream (Listener.waiting.step (.arrived item)) none)
        hrole.symm ?_ ?_
      · cases item <;> exact nofun
      · cases item <;> exact fun _ => trivial
  · exact .goesOn .idle (.listen m stream _ (some _)) hrole.symm nofun fun _ => ⟨r.driver, rfl⟩
  · split
    · split
      · exact answer_cases r hj rfl _
      · exact pause_cases r h _
    · exact answer_cases r hj rfl _
    · exact .waits
  · split
    · exact .waits
    · rename_i response _ input platform hw
      have hin : input = .written ∨ input = .unwritten := write_input (congrArg Prod.fst hw)
      refine .goesOn .idle (.listen m stream ((Listener.sending response).step input) none)
        hrole.symm ?_ ?_
      · rcases hin with rfl | rfl <;> exact nofun
      · rcases hin with rfl | rfl <;> exact fun _ => trivial
  · simp only [session_report, session_remove, session_abandonAll]
    exact .ends _ rfl hrole.symm trivial
  · rw [hj] at h; exact absurd rfl h

/-- The loop of health checks goes on with what its own step makes of an input. -/
theorem checkStep_cases (r : Rig Config Command TagValue) {t : Task Config Command TagValue}
    (hrole : roleOf t.job = .health) {next : HealthLoop × HealthStatus} (h : next.1 ≠ .cancelled) :
    TaskStep r.session t
      ({ r with health := next.2 }.proceed t (.health next.1)).1.session :=
  .goesOn .idle (.health next.1) hrole.symm h fun _ => trivial

theorem stepHealth_cases (r : Rig Config Command TagValue) {t : Task Config Command TagValue}
    {loop : HealthLoop} (hj : t.job = .health loop) (h : IsActive t.job) :
    TaskStep r.session t (r.stepHealth t loop).1.session := by
  have hrole : roleOf t.job = .health := by rw [hj]; rfl
  -- a check that has a result, whichever it is, leaves the loop resting or failed
  have result : ∀ (since : Nat) (c : CheckResult) (timeout : Span) (now : Nat)
      (health : HealthStatus),
      ((HealthLoop.checking since).step timeout now health (.result c)).1 ≠ .cancelled := by
    intro since c timeout now health
    simp only [HealthLoop.step]
    split <;> exact nofun
  unfold stepHealth
  dsimp only
  -- how long the pauses are does not matter, and is not to be computed
  generalize r.settings.keepalive.ticks = interval
  generalize r.settings.healthTimeout.ticks = patience
  split
  · exact pause_cases r h interval
  · exact checkStep_cases r hrole nofun
  · split
    · rename_i platform _
      exact checkStep_cases { r with platform := platform } hrole (result _ _ _ _ _)
    · rename_i platform _
      exact pause_cases { r with platform := platform } h patience
  · exact checkStep_cases r hrole (result _ _ _ _ _)
  · simp only [session_report, session_remove]
    exact .ends _ rfl hrole.symm trivial
  · rw [hj] at h; exact absurd rfl h
  · exact .waits

theorem stepTask_cases (r : Rig Config Command TagValue) {t : Task Config Command TagValue}
    (h : IsActive t.job) : TaskStep r.session t (r.stepTask t).1.session := by
  unfold stepTask
  split
  · rename_i loop hj; exact stepConnect_cases r hj h
  · rename_i m stream l work hj; exact stepListen_cases r hj h
  · rename_i loop hj; exact stepHealth_cases r hj h

/-! ## Steps of the actor -/

/-- The session with a fresh loop as its only task. -/
def Session.reconnect (s : Session Config Command TagValue) (a : Actor) :
    Session Config Command TagValue :=
  { s with actor := a, tasks := [] }.spawnAll [.connect .attempt]

/-- A listener for every stream, and after them the health checks. -/
def serving (streams : List (Method × Nat)) : List (Job Config Command TagValue) :=
  streams.map (fun s => .listen s.1 s.2 .waiting none) ++ [.health .resting]

theorem session_spawn_foldl (job : Method × Nat → Job Config Command TagValue)
    (streams : List (Method × Nat)) :
    ∀ r : Rig Config Command TagValue,
      (streams.foldl (fun r s => r.spawn (job s)) r).session =
        r.session.spawnAll (streams.map job) := by
  induction streams with
  | nil => intro r; simp [Session.spawnAll, Session.started]
  | cons s streams ih =>
    intro r
    rw [List.foldl_cons, ih, session_spawn, spawnAll_append]
    rfl

theorem session_obey_serve (r : Rig Config Command TagValue) (a : Actor)
    (streams : List (Method × Nat)) :
    (r.obey (a, .serve streams)).session =
      { r.session with actor := a }.spawnAll (serving streams) := by
  simp only [obey, carryOut, session_spawn, session_spawn_foldl, spawnAll_append, serving]
  rfl

/-- A report is of use to an actor in its own generation only, and streams only while they are
being opened, failures only while they serve. -/
def Awaits (a : Actor) (e : Report Nat) : Prop :=
  e.generation = a.generation ∧
    match endedRole e with
    | .connect => a.state = .connecting ∨ a.state = .reconnecting
    | _ => a.state = .running

theorem isConnecting_iff {s : SessionState} :
    s.isConnecting = true ↔ s = .connecting ∨ s = .reconnecting := by
  cases s <;> decide

theorem isRunning_iff {s : SessionState} : s.isRunning = true ↔ s = .running := by
  cases s <;> decide

theorem session_receive_stale {r : Rig Config Command TagValue} {e : Report Nat}
    (h : ¬ Awaits r.actor e) : (r.receive e).session = r.session := by
  cases e with
  | opened g streams =>
    have hn : ¬ (g = r.actor.generation ∧ r.actor.state.isConnecting = true) := by
      rwa [isConnecting_iff]
    simp [receive, Actor.receive, hn]
  | healthFailed g reason =>
    have hn : ¬ (g = r.actor.generation ∧ r.actor.state.isRunning = true) := by
      rwa [isRunning_iff]
    simp only [receive, Actor.receive, hn, if_false]
    rfl
  | streamClosed g m =>
    have hn : ¬ (g = r.actor.generation ∧ r.actor.state.isRunning = true) := by
      rwa [isRunning_iff]
    simp only [receive, Actor.receive, hn, if_false]
    rfl

theorem session_receive_opened {r : Rig Config Command TagValue} {g : Nat}
    {streams : List (Method × Nat)} (h : Awaits r.actor (.opened g streams)) :
    (r.receive (.opened g streams)).session =
      { r.session with actor := { r.actor with state := .running } }.spawnAll
        (serving streams) := by
  have hy : g = r.actor.generation ∧ r.actor.state.isConnecting = true :=
    ⟨h.1, isConnecting_iff.2 h.2⟩
  simp only [receive, Actor.receive, hy, and_self, if_true, session_obey_serve]

theorem session_receive_failure {r : Rig Config Command TagValue} {e : Report Nat}
    (h : Awaits r.actor e) (hf : endedRole e ≠ .connect) :
    (r.receive e).session =
      r.session.reconnect ⟨.reconnecting, r.actor.generation + 1, false⟩ := by
  cases e with
  | opened g streams => exact absurd rfl hf
  | healthFailed g reason =>
    have hy : g = r.actor.generation ∧ r.actor.state.isRunning = true :=
      ⟨h.1, isRunning_iff.2 h.2⟩
    simp only [receive, Actor.receive, hy, and_self, if_true]
    rfl
  | streamClosed g m =>
    have hy : g = r.actor.generation ∧ r.actor.state.isRunning = true :=
      ⟨h.1, isRunning_iff.2 h.2⟩
    simp only [receive, Actor.receive, hy, and_self, if_true]
    rfl

theorem session_start (r : Rig Config Command TagValue) :
    (r.command .start).session =
      if r.actor.state = .closed then
        r.session.reconnect ⟨.connecting, r.actor.generation + 1, false⟩
      else r.session := by
  simp only [command, Actor.start]
  split <;> rfl

/-- A stop that finds something to stop leaves no task; it ends in `closed`, unless the driver's
callback breaks off, which leaves a dead actor in `closing`. -/
theorem stopSession_cases (r : Rig Config Command TagValue) :
    (r.actor.state.canBecome .closing = false ∧ r.stopSession = r) ∨
    (r.actor.state.canBecome .closing = true ∧ ∃ state alive,
      (state = .closed ∨ state = .closing) ∧
      r.stopSession.session =
        { r.session with
          actor := ⟨state, r.actor.generation, true⟩
          alive := alive
          tasks := [] }) := by
  unfold stopSession Actor.beginStop
  cases hc : r.actor.state.canBecome .closing with
  | false => exact .inl ⟨rfl, by simp⟩
  | true =>
    refine .inr ⟨rfl, ?_⟩
    simp only [if_true]
    split
    · exact ⟨.closing, false, .inr rfl, rfl⟩
    · exact ⟨.closed, r.alive, .inl rfl, rfl⟩

/-! ## All steps -/

/-- All that one step can make of a session. -/
inductive SessionStep (s : Session Config Command TagValue) :
    Session Config Command TagValue → Prop
  | nothing : SessionStep s s
  | retimed (timer : Task Config Command TagValue → Timer) :
      SessionStep s { s with tasks := s.tasks.map fun t => { t with timer := timer t } }
  | worked {t : Task Config Command TagValue} {s' : Session Config Command TagValue}
      (mem : t ∈ s.tasks) (work : TaskStep s t s') : SessionStep s s'
  | started (closed : s.actor.state = .closed) :
      SessionStep s (s.reconnect ⟨.connecting, s.actor.generation + 1, false⟩)
  | stopped (canStop : s.actor.state.canBecome .closing = true) (state : SessionState)
      (alive : Bool) (stopped : state = .closed ∨ state = .closing) :
      SessionStep s
        { s with actor := ⟨state, s.actor.generation, true⟩, alive := alive, tasks := [] }
  | discarded {position : Nat} {e : Report Nat} (queued : s.reports[position]? = some e)
      (stale : ¬ Awaits s.actor e) : SessionStep s (s.discard position)
  | served {position g : Nat} {streams : List (Method × Nat)}
      (queued : s.reports[position]? = some (.opened g streams))
      (awaited : Awaits s.actor (.opened g streams)) :
      SessionStep s
        ({ s.discard position with actor := { s.actor with state := .running } }.spawnAll
          (serving streams))
  | failed {position : Nat} {e : Report Nat} (queued : s.reports[position]? = some e)
      (awaited : Awaits s.actor e) (failure : endedRole e ≠ .connect) :
      SessionStep s
        ((s.discard position).reconnect ⟨.reconnecting, s.actor.generation + 1, false⟩)

theorem receive_cases {r : Rig Config Command TagValue} {position : Nat} {e : Report Nat}
    (queued : r.reports[position]? = some e) :
    SessionStep r.session
      ({ r with reports := r.reports.eraseIdx position }.receive e).session := by
  by_cases ha : Awaits r.actor e
  · by_cases hf : endedRole e = .connect
    · cases e with
      | opened g streams =>
        rw [session_receive_opened (r := { r with reports := r.reports.eraseIdx position }) ha]
        exact .served queued ha
      | healthFailed g reason => cases hf
      | streamClosed g m => cases hf
    · rw [session_receive_failure (r := { r with reports := r.reports.eraseIdx position }) ha hf]
      exact .failed queued ha hf
  · rw [session_receive_stale (r := { r with reports := r.reports.eraseIdx position }) ha]
    exact .discarded queued ha

theorem command_cases (r : Rig Config Command TagValue) (i : Instruction) :
    SessionStep r.session (r.command i).session := by
  cases i with
  | start =>
    rw [session_start]
    split
    · rename_i hc; exact .started hc
    · exact .nothing
  | stop =>
    rcases stopSession_cases r with ⟨-, hr⟩ | ⟨hc, state, alive, hstate, hr⟩
    · rw [command, hr]; exact .nothing
    · rw [command, hr]; exact .stopped hc state alive hstate

/-- A task makes its step, or there is none of that number. -/
theorem work_cases {r : Rig Config Command TagValue} (active : ∀ t ∈ r.tasks, IsActive t.job)
    (id : Nat) :
    r.step (.work id) = r ∨ ∃ t ∈ r.tasks, TaskStep r.session t (r.step (.work id)).session := by
  simp only [step]
  split
  · rename_i t found
    have mem : t ∈ r.tasks := List.mem_of_find?_eq_some found
    exact .inr ⟨t, mem, stepTask_cases r (active t mem)⟩
  · exact .inl rfl

theorem step_cases {r : Rig Config Command TagValue} (active : ∀ t ∈ r.tasks, IsActive t.job)
    (c : Choice Config Command TagValue) : SessionStep r.session (r.step c).session := by
  cases c with
  | instruct i =>
    simp only [step]
    split
    · exact command_cases r i
    · exact .nothing
  | receive position =>
    simp only [step]
    split
    · rename_i e _ he; exact receive_cases he
    · exact .nothing
  | work id =>
    rcases work_cases active id with hr | ⟨t, mem, work⟩
    · rw [hr]; exact .nothing
    · exact .worked mem work
  | elsewhere world timer => exact .retimed timer

/-! ## Regular sessions -/

/-- Tasks have numbers that were given out, none has been told to end, and what a listener has in
hand began with its request. -/
structure Session.Regular (s : Session Config Command TagValue) : Prop where
  fresh : ∀ t ∈ s.tasks, t.id < s.nextTask
  active : ∀ t ∈ s.tasks, IsActive t.job
  begun : ∀ t ∈ s.tasks, IsBegun t.job

theorem regular_nil {s : Session Config Command TagValue} (h : s.tasks = []) : s.Regular := by
  have none : ∀ t, t ∉ s.tasks := by simp [h]
  exact ⟨fun t ht => absurd ht (none t), fun t ht => absurd ht (none t),
    fun t ht => absurd ht (none t)⟩

theorem Session.Regular.spawnAll {s : Session Config Command TagValue} (h : s.Regular)
    {jobs : List (Job Config Command TagValue)}
    (fit : ∀ job ∈ jobs, IsActive job ∧ IsBegun job) : (s.spawnAll jobs).Regular := by
  constructor
  · intro t ht
    show t.id < s.nextTask + jobs.length
    rcases List.mem_append.1 ht with ht | ht
    · have := h.fresh t ht
      omega
    · exact (mem_started ht).2.1
  · intro t ht
    rcases List.mem_append.1 ht with ht | ht
    · exact h.active t ht
    · exact (fit _ (mem_started ht).2.2.2).1
  · intro t ht
    rcases List.mem_append.1 ht with ht | ht
    · exact h.begun t ht
    · exact (fit _ (mem_started ht).2.2.2).2

/-- Tasks may change in whatever keeps their numbers. -/
theorem Session.Regular.mapTasks {s : Session Config Command TagValue} (h : s.Regular)
    {f : Task Config Command TagValue → Task Config Command TagValue}
    (hid : ∀ t ∈ s.tasks, (f t).id = t.id)
    (hactive : ∀ t ∈ s.tasks, IsActive (f t).job)
    (hbegun : ∀ t ∈ s.tasks, IsBegun (f t).job) :
    ({ s with tasks := s.tasks.map f } : Session Config Command TagValue).Regular := by
  constructor
  · intro u hu
    obtain ⟨t, ht, rfl⟩ := List.mem_map.1 hu
    rw [hid t ht]
    exact h.fresh t ht
  · intro u hu
    obtain ⟨t, ht, rfl⟩ := List.mem_map.1 hu
    exact hactive t ht
  · intro u hu
    obtain ⟨t, ht, rfl⟩ := List.mem_map.1 hu
    exact hbegun t ht

theorem Session.Regular.put {s : Session Config Command TagValue} (h : s.Regular)
    {t : Task Config Command TagValue} (ht : t ∈ s.tasks) (timer : Timer)
    {job : Job Config Command TagValue} (active : IsActive job)
    (begun : IsBegun t.job → IsBegun job) :
    (s.put { t with timer := timer, job := job }).Regular := by
  refine h.mapTasks (fun u hu => ?_) (fun u hu => ?_) fun u hu => ?_
  · split
    · rename_i e; exact e.symm
    · rfl
  · split
    · exact active
    · exact h.active u hu
  · split
    · exact begun (h.begun t ht)
    · exact h.begun u hu

theorem mem_serving {streams : List (Method × Nat)} {job : Job Config Command TagValue}
    (h : job ∈ serving streams) : roleOf job ≠ .connect ∧ IsActive job ∧ IsBegun job := by
  simp only [serving, List.mem_append, List.mem_map, List.mem_singleton] at h
  rcases h with ⟨s, -, rfl⟩ | rfl
  · exact ⟨nofun, nofun, trivial⟩
  · exact ⟨nofun, nofun, trivial⟩

theorem regular_reconnect (s : Session Config Command TagValue) (a : Actor) :
    (s.reconnect a).Regular := by
  have empty : ({ s with actor := a, tasks := [] } : Session Config Command TagValue).Regular :=
    regular_nil rfl
  refine empty.spawnAll fun job hjob => ?_
  rw [List.mem_singleton.1 hjob]
  exact ⟨attempt_active, trivial⟩

theorem step_regular (r : Rig Config Command TagValue) (c : Choice Config Command TagValue)
    (h : r.session.Regular) : (r.step c).session.Regular := by
  have hstep := step_cases h.active c
  generalize (r.step c).session = s at hstep ⊢
  cases hstep with
  | nothing => exact h
  | retimed timer => exact h.mapTasks (fun _ _ => rfl) h.active h.begun
  | worked mem work =>
    cases work with
    | waits => exact h
    | goesOn timer job role active begun => exact h.put mem timer active begun
    | ends e generation role complete =>
      exact ⟨fun t ht => h.fresh t (List.mem_filter.1 ht).1,
        fun t ht => h.active t (List.mem_filter.1 ht).1,
        fun t ht => h.begun t (List.mem_filter.1 ht).1⟩
  | started closed => exact regular_reconnect _ _
  | stopped canStop state alive stopped => exact regular_nil rfl
  | discarded queued stale => exact ⟨h.fresh, h.active, h.begun⟩
  | @served position g streams queued awaited =>
    have kept : ({ r.session.discard position with
        actor := { r.session.actor with state := .running } } :
        Session Config Command TagValue).Regular := ⟨h.fresh, h.active, h.begun⟩
    exact kept.spawnAll fun job hjob => (mem_serving hjob).2
  | failed queued awaited failure => exact regular_reconnect _ _

theorem run_regular {r : Rig Config Command TagValue} (h : r.session.Regular)
    (cs : List (Choice Config Command TagValue)) : (r.run cs).session.Regular :=
  run_induction (P := fun r => r.session.Regular) step_regular cs h

end DeviceLink.Bench.Rig
