import DeviceLink.Proofs.Session.Panics
/-!
# Who is there while a session runs

The gateway asks nobody but the published state. While the session runs it refuses a message for
its arguments alone, and in any other state it refuses every message and nothing else happens
(`Gated`). As long as the actor lives, a session that runs is whole: every stream has its listener
and the health is checked, or the actor is about to hear that one of them has ended.

An actor that nobody can instruct any more ends without a word: it publishes no state, and drops
its tasks. Where the session ran at that moment the gateway goes on admitting messages for ever,
though nobody is there (`retired_host_admits`); there is no other way for a session to run without
its actor (`run_presence`).
-/
namespace DeviceLink.Bench.Rig

variable {Config Command TagValue : Type}

/-! ## The gateway -/

/-- What the owner of a host, or whoever has a gateway of it, may send. -/
inductive Post
  | sample (s : Sample)
  | event (e : DeviceLink.Event)
  | log (table device : String) (level : LogLevel) (message time : String)
  | update (table row : String) (fields : List (String × Json))

def refusal? {α : Type} : Except LinkError α → Option LinkError
  | .ok _ => none
  | .error e => some e

/-- Why a message is refused, if it is, and the rig after it. -/
def post (r : Rig Config Command TagValue) : Post → Option LinkError × Rig Config Command TagValue
  | .sample s => (r.writeSample s).map refusal? id
  | .event e => (r.writeEvent e).map refusal? id
  | .log table device level message time =>
    (r.writeLog table device level message time).map refusal? id
  | .update table row fields => (r.updateResource table row fields).map refusal? id

/-- The state decides who is let through. -/
structure Gated (r : Rig Config Command TagValue) : Prop where
  refuses : r.actor.state ≠ .running → ∀ p, r.post p = (some (.notRunning r.actor.state), r)
  admits : r.actor.state = .running → ∀ p e, (r.post p).1 = some e →
    ∃ reason, e = .invalidArgument reason

/-- Only arguments are to blame if it fails. -/
def BlamesArguments {α : Type} (x : Except LinkError α) : Prop :=
  ∀ e, refusal? x = some e → ∃ reason, e = .invalidArgument reason

theorem blames_ok {α : Type} (a : α) : BlamesArguments (.ok a) := nofun

theorem blames_argument {α : Type} (reason : String) :
    BlamesArguments (.error (.invalidArgument reason) : Except LinkError α) := by
  rintro _ ⟨⟩
  exact ⟨reason, rfl⟩

theorem blames_bind {α β : Type} {x : Except LinkError α} {f : α → Except LinkError β}
    (hx : BlamesArguments x) (hf : ∀ a, BlamesArguments (f a)) : BlamesArguments (x >>= f) := by
  cases x with
  | ok a => exact hf a
  | error e => exact hx

theorem blames_require {name value : String} : BlamesArguments (Gateway.require name value) := by
  unfold Gateway.require
  split
  · exact blames_argument _
  · exact blames_ok ()

/-- The arguments of a message that is sent while the session runs. -/
theorem blames_plan :
    (∀ s, BlamesArguments (Gateway.checkSample .running s)) ∧
    (∀ e, BlamesArguments (Gateway.planEvent .running e)) ∧
    (∀ table device level message time,
      BlamesArguments (Gateway.planLog .running table device level message time)) ∧
    (∀ table row fields, BlamesArguments (Gateway.planUpdate .running table row fields)) := by
  have gate : BlamesArguments (Gateway.ensureRunning .running) := blames_ok ()
  refine ⟨fun s => ?_, fun e => ?_, fun table device level message time => ?_,
    fun table row fields => ?_⟩
  · refine blames_bind gate fun _ => blames_bind blames_require fun _ => ?_
    split
    · exact blames_argument _
    · exact blames_ok ()
  · exact blames_bind gate fun _ => blames_bind blames_require fun _ =>
      blames_bind blames_require fun _ => blames_bind blames_require fun _ => blames_ok _
  · exact blames_bind gate fun _ => blames_bind blames_require fun _ =>
      blames_bind blames_require fun _ => blames_ok _
  · refine blames_bind gate fun _ => blames_bind blames_require fun _ =>
      blames_bind blames_require fun _ => ?_
    split
    · exact blames_argument _
    · exact blames_ok _

/-- Whether a message is refused is decided before it is sent. -/
theorem refusal?_carry {σ : Type} (send : Gateway.Sender σ) (s : σ)
    (plan : Except LinkError Outbound) :
    refusal? (Gateway.carry send s plan).1 = refusal? plan := by
  cases plan <;> rfl

theorem refusal?_writeSample (r : Rig Config Command TagValue) (s : Sample) :
    refusal? (r.writeSample s).1 = refusal? (Gateway.checkSample r.actor.state s) := by
  unfold writeSample Gateway.writeSample
  cases Gateway.checkSample r.actor.state s with
  | error e => rfl
  | ok a =>
    dsimp only
    split <;> rfl

theorem gated (r : Rig Config Command TagValue) : r.Gated := by
  constructor
  · intro resting p
    have gate : Gateway.ensureRunning r.actor.state = .error (.notRunning r.actor.state) := by
      unfold Gateway.ensureRunning
      cases state : r.actor.state with
      | running => exact absurd state resting
      | _ => rfl
    cases p with
    | sample s =>
      simp only [post, writeSample, Gateway.writeSample, Gateway.checkSample, gate]
      rfl
    | event e =>
      simp only [post, writeEvent, deliver, Gateway.writeEvent, Gateway.planEvent, gate]
      rfl
    | log table device level message time =>
      simp only [post, writeLog, deliver, Gateway.writeLog, Gateway.planLog, gate]
      rfl
    | update table row fields =>
      simp only [post, updateResource, deliver, Gateway.updateResource, Gateway.planUpdate, gate]
      rfl
  · intro running p e refused
    obtain ⟨sample, event, log, update⟩ := blames_plan
    rw [← running] at sample event log update
    cases p with
    | sample s => exact sample s e (refusal?_writeSample r s ▸ refused)
    | event d => exact event d e (refusal?_carry Platform.send r.platform _ ▸ refused)
    | log table device level message time =>
      exact log table device level message time e
        (refusal?_carry Platform.send r.platform _ ▸ refused)
    | update table row fields =>
      exact update table row fields e (refusal?_carry Platform.send r.platform _ ▸ refused)

/-! ## Every run -/

/-- The actor retired while the session ran. -/
def Deserted (r : Rig Config Command TagValue) (ms : List (Moment Config Command TagValue)) :
    Prop :=
  ∃ before after, ms = before ++ .retires :: after ∧ (r.lives before).IsFree ∧
    (r.lives before).IsAbandoned ∧ (r.lives before).actor.state = .running

/-- Whoever ends while the session runs has retired. -/
theorem deserted_of_running {r : Rig Config Command TagValue} (fit : r.session.Fit)
    (alive : r.alive = true) {ms : List (Moment Config Command TagValue)}
    (running : (r.lives ms).actor.state = .running) (dead : (r.lives ms).alive = false) :
    Deserted r ms := by
  obtain ⟨before, m, after, rfl, ends⟩ := (lives_alive ms fit alive).1 dead
  have fit' := lives_fit fit before
  rw [lives_append, lives_cons, (lives_dead after (live_fit fit' m) ends.dead).2] at running
  rcases ends with ⟨rfl, free, abandoned⟩ | broken
  · rw [live, if_pos ⟨free, abandoned⟩] at running
    exact ⟨before, after, rfl, free, abandoned, running⟩
  · obtain ⟨rfl, stopping, alone, panics⟩ := stopBreaks_iff.1 broken
    have closing := (fit'.stopHook.breaks stopping alone panics).2
    cases closing.symm.trans running

/-- Nobody begins to work for an actor that has ended. -/
theorem lives_nobodyNew (later : List (Moment Config Command TagValue)) :
    ∀ {r : Rig Config Command TagValue}, r.session.Fit → r.alive = false →
      ((r.lives later).tasks.map Task.id).Sublist (r.tasks.map Task.id) := by
  induction later with
  | nil => intro r fit dead; exact List.Sublist.refl _
  | cons m later ih =>
    intro r fit dead
    have calm : r.IsFree → m ≠ .starts ∧ ∀ position, m ≠ .receives position :=
      fun free => by cases dead.symm.trans free.1
    have dead' : (r.live m).alive = false := (lives_dead [m] fit dead).1
    exact (ih (live_fit fit m) dead').trans (live_nobodyNew fit.regular.active calm)

/-- **Who is there while a session runs.** After every run the state decides what the gateway lets
through. A session that runs is whole, unless its actor retired while it ran; and one whose actor
does so runs for ever, and nobody begins to work for it. -/
theorem run_presence (driver : Driver Config Command TagValue) (settings : SessionSettings)
    (identity : Identity) (pipeline : Pipeline) (ms : List (Moment Config Command TagValue)) :
    let first := initial driver settings identity pipeline
    let r := first.lives ms
    r.Gated ∧
    (r.actor.state = .running →
      (r.alive = true ∧ ∀ role, r.session.held role = if role = .connect then 0 else 1) ∨
      (r.alive = false ∧ Deserted first ms)) ∧
    (r.IsFree → r.IsAbandoned → r.actor.state = .running → ∀ later,
      (r.lives (.retires :: later)).alive = false ∧
      (r.lives (.retires :: later)).actor.state = .running ∧
      ((r.lives (.retires :: later)).tasks.map Task.id).Sublist (r.tasks.map Task.id)) := by
  intro first r
  have fit : r.session.Fit := lives_fit (initial_fit driver settings identity pipeline) ms
  refine ⟨gated r, fun running => ?_, fun free abandoned running later => ?_⟩
  · by_cases alive : r.alive = true
    · have sound := fit.sound alive (by rw [show r.session.actor.state = _ from running]; decide)
      exact .inl ⟨alive, sound.balanced.running running⟩
    · have dead : r.alive = false := by simpa using alive
      exact .inr ⟨dead, deserted_of_running (initial_fit ..) rfl running dead⟩
  · have begins : r.live .retires = r.beginRetire := if_pos ⟨free, abandoned⟩
    have fit' : r.beginRetire.session.Fit := begins ▸ live_fit fit .retires
    rw [lives_cons, begins]
    obtain ⟨dead, state⟩ := lives_dead later fit' rfl
    exact ⟨dead, state.trans running, lives_nobodyNew later fit' rfl⟩

/-! ### A host that is let go of -/

def host : Rig DemoConfig DemoCommand Json := demo DemoForm.basic.driver

/-- Its session serves. -/
def served : List (Moment DemoConfig DemoCommand Json) :=
  .starts :: List.replicate 6 (.works 0) ++ [.receives 0]

/-- Then the owner lets go of it, and the actor retires and drops its tasks. -/
def farewell : List (Moment DemoConfig DemoCommand Json) :=
  served ++ .elsewhere { host.lives served with owned := false } Task.timer ::
    .retires :: List.replicate 7 (.drops 0)

theorem run_presence_farewell :
    (host.lives farewell).actor.state = .running ∧ (host.lives farewell).alive = false ∧
      (host.lives farewell).tasks = [] ∧ Deserted host farewell := by
  have running : (host.lives farewell).actor.state = .running := by decide +kernel
  have dead : (host.lives farewell).alive = false := by decide +kernel
  have alone : (host.lives farewell).tasks = [] := by rfl
  obtain ⟨alive, -⟩ | ⟨-, deserted⟩ := (run_presence _ _ _ _ farewell).2.1 running
  · cases dead.symm.trans alive
  · exact ⟨running, dead, alone, deserted⟩

/-- A message that is let through does not tell that anybody is there. -/
theorem retired_host_admits :
    ¬ ∀ (driver : Driver DemoConfig DemoCommand Json) (settings : SessionSettings)
      (identity : Identity) (pipeline : Pipeline)
      (ms : List (Moment DemoConfig DemoCommand Json)) (p : Post),
      let r := (initial driver settings identity pipeline).lives ms
      (∀ s, (r.post p).1 ≠ some (.notRunning s)) → r.alive = true ∧ r.actor.state = .running := by
  intro claim
  have admitted : ((host.lives farewell).post (.log "table" "device" .info "" "")).1 = none := by
    decide +kernel
  have alive : (host.lives farewell).alive = true :=
    (claim _ _ _ _ farewell _ fun s refused => by cases admitted.symm.trans refused).1
  have dead : (host.lives farewell).alive = false := by decide +kernel
  cases dead.symm.trans alive

end DeviceLink.Bench.Rig
