import DeviceLink.Gateway
import DeviceLink.Proofs.Session.Schedule
/-!
# Starts are all or nothing

A start has five ways to fail: its payload is no document, or no configuration of the driver, the
callback fails, or breaks off, or is cancelled while it runs. In each of them registry and cache
stay as they are. Only an answer of success comes with the document in its place and no reading
remembered, and the callback begins only after both readers took the payload.

`begin_start_cases` lists what one request can come to, whatever the driver does. `step_effect`
lists what one step of a session can do to the store and to the calls of the driver: a callback
that is cancelled never gets to the one step that loads.
-/
namespace DeviceLink

variable {Config Command TagValue : Type}

/-! ## One request -/

/-- The device document that a start carries. -/
def startDocument (q : Request) : Option DeviceDocument :=
  (Source.parse q.payload).bind (DeviceDocument.read Room.text)

/-- The configuration that the driver reads from the same payload. -/
def startConfig (d : Driver Config Command TagValue) (q : Request) : Option Config :=
  decodePayload d.readConfig q.payload

/-- All that taking up a start can come to. -/
inductive Starting (d : Driver Config Command TagValue) (q : Request) :
    Handling Config Command TagValue → Prop
  | refused (reason : String) (unread : startDocument q = none ∨ startConfig d q = none) :
      Starting d q ⟨none, 0, .badRequest reason, none⟩
  | accepted (document : DeviceDocument) (config : Config)
      (document_read : startDocument q = some document)
      (config_read : startConfig d q = some config)
      (done : (d.start config).outcome = .done ()) :
      Starting d q ⟨some (.start config), (d.start config).delay, .ok .null, some document⟩
  | declined (document : DeviceDocument) (config : Config) (e : DriverError)
      (document_read : startDocument q = some document)
      (config_read : startConfig d q = some config)
      (undone : (d.start config).outcome ≠ .done ()) :
      Starting d q ⟨some (.start config), (d.start config).delay, .driverError e, none⟩

/-- Only a callback that is done gives an answer of success. -/
theorem start_envelope (c : Callback Unit) :
    (c.outcome = .done () ∧ Envelope.ofOutcome (c.outcome.map fun _ => .null) = .ok .null) ∨
      (c.outcome ≠ .done () ∧
        ∃ e, Envelope.ofOutcome (c.outcome.map fun _ => .null) = .driverError e) := by
  obtain ⟨delay, outcome⟩ := c
  cases outcome with
  | done u => exact .inl ⟨rfl, rfl⟩
  | failed e => exact .inr ⟨nofun, e, rfl⟩
  | panicked message => exact .inr ⟨nofun, panicError message, rfl⟩

theorem begin_start_cases (d : Driver Config Command TagValue) (q : Request) :
    Starting d q (Handling.begin d .start q) := by
  unfold Handling.begin dispatch dispatchStart
  cases hd : startDocument q with
  | none =>
    have hparse : (Source.parse q.payload).bind (DeviceDocument.read Room.text) = none := hd
    simp only [hparse]
    exact .refused _ (.inl hd)
  | some document =>
    have hparse : (Source.parse q.payload).bind (DeviceDocument.read Room.text) =
        some document := hd
    cases hc : startConfig d q with
    | none =>
      have hread : decodePayload d.readConfig q.payload = none := hc
      simp only [hparse, hread]
      exact .refused _ (.inr hc)
    | some config =>
      have hread : decodePayload d.readConfig q.payload = some config := hc
      simp only [hparse, hread, Driver.perform, Callback.map]
      rcases start_envelope (d.start config) with ⟨ho, he⟩ | ⟨ho, e, he⟩
      · simp only [he]
        exact .accepted document config hd hc ho
      · simp only [he]
        exact .declined document config e hd hc ho

/-- Samples one after the other, each in the state that the session has by then, over one cache. -/
def writeSamples {σ : Type} (send : Gateway.Sender σ) (pipeline : Pipeline) :
    Store → σ → List (SessionState × Sample) → List (Except LinkError SampleOutcome)
  | _, _, [] => []
  | s, platform, (state, sample) :: rest =>
    let (outcome, cache, platform) :=
      Gateway.writeSample send state s.registry pipeline s.cache platform sample
    outcome :: writeSamples send pipeline { s with cache := cache } platform rest

/-- What an answered start leaves: all of its document, or what there was. -/
structure AllOrNothing (d : Driver Config Command TagValue) (q : Request)
    (h : Handling Config Command TagValue) (s : Store) : Prop where
  succeeds : h.envelope.code = 200 ↔ ∃ document config, startDocument q = some document ∧
    startConfig d q = some config ∧ (d.start config).outcome = .done ()
  all : h.envelope.code = 200 → ∃ document, startDocument q = some document ∧
    (∀ device, (h.finish s).registry.lookup device =
      (Registry.ofDocument document).lookup device) ∧
    (∀ device tag, (h.finish s).registry.tag device tag =
      (Registry.ofDocument document).tag device tag) ∧
    (h.finish s).cache = Cache.empty ∧
    ∀ (σ : Type) (send : Gateway.Sender σ) (pipeline : Pipeline) (platform : σ)
      (samples : List (SessionState × Sample)),
      writeSamples send pipeline (h.finish s) platform samples =
        writeSamples send pipeline ⟨Registry.ofDocument document, Cache.empty⟩ platform samples
  nothing : h.envelope.code ≠ 200 → h.finish s = s
  /-- At most one callback begins, and for what was read. -/
  invoked : ∀ c, h.call = some c → ∃ document config, startDocument q = some document ∧
    startConfig d q = some config ∧ c = .start config

theorem begin_start (d : Driver Config Command TagValue) (q : Request) (s : Store) :
    AllOrNothing d q (Handling.begin d .start q) s := by
  have hcases := begin_start_cases d q
  generalize Handling.begin d .start q = h at hcases ⊢
  cases hcases with
  | refused reason unread =>
    constructor
    · constructor
      · intro h; cases h
      · rintro ⟨document, config, hd, hc, -⟩
        rcases unread with h | h
        · rw [hd] at h; cases h
        · rw [hc] at h; cases h
    · intro h; cases h
    · exact fun _ => rfl
    · exact nofun
  | accepted document config hd hc done =>
    constructor
    · exact ⟨fun _ => ⟨document, config, hd, hc, done⟩, fun _ => rfl⟩
    · exact fun _ => ⟨document, hd, fun _ => rfl, fun _ _ => rfl, rfl, fun _ _ _ _ _ => rfl⟩
    · exact fun h => absurd rfl h
    · rintro c ⟨⟩
      exact ⟨document, config, hd, hc, rfl⟩
  | declined document config e hd hc undone =>
    constructor
    · constructor
      · intro h; cases h
      · rintro ⟨document', config', -, hc', done⟩
        rw [hc] at hc'
        cases hc'
        exact absurd done undone
    · intro h; cases h
    · exact fun _ => rfl
    · rintro c ⟨⟩
      exact ⟨document, config, hd, hc, rfl⟩

namespace Bench.Rig

/-! ## What leaves the store alone -/

/-- The store, and the calls of the driver so far. -/
def ledger (r : Rig Config Command TagValue) : Store × List (Invocation Config Command TagValue) :=
  (r.store, r.calls)

@[simp] theorem ledger_wake (r : Rig Config Command TagValue) (t : Turn) :
    (r.wake t).ledger = r.ledger := by
  unfold wake
  split <;> rfl

@[simp] theorem ledger_remove (r : Rig Config Command TagValue) (id : Nat) :
    (r.remove id).ledger = r.ledger := rfl

@[simp] theorem ledger_abandonAll (r : Rig Config Command TagValue) (streams : List Nat) :
    (r.abandonAll streams).ledger = r.ledger := rfl

@[simp] theorem ledger_report (r : Rig Config Command TagValue) (e : Report Nat) :
    (r.report e).ledger = r.ledger := by
  simp only [report, ledger_wake]
  rfl

@[simp] theorem ledger_spawn (r : Rig Config Command TagValue)
    (job : Job Config Command TagValue) : (r.spawn job).ledger = r.ledger := rfl

@[simp] theorem ledger_proceed (r : Rig Config Command TagValue)
    (t : Task Config Command TagValue) (job : Job Config Command TagValue) :
    (r.proceed t job).1.ledger = r.ledger := rfl

@[simp] theorem ledger_pause (r : Rig Config Command TagValue)
    (t : Task Config Command TagValue) (millis : Nat) :
    (r.pause t millis).1.ledger = r.ledger := by
  unfold pause
  split <;> rfl

theorem ledger_openNext (r : Rig Config Command TagValue) (t : Task Config Command TagValue)
    (loop : ConnectLoop Nat) (next : Method) : (r.openNext t loop next).1.ledger = r.ledger := by
  unfold openNext
  obtain ⟨outcome, platform⟩ := r.platform.openStream next r.identity
  dsimp only
  cases outcome with
  | error e =>
    dsimp only
    split
    · simp only [ledger_report, ledger_remove, ledger_abandonAll]
      rfl
    · simp only [ledger_proceed, ledger_abandonAll]
      rfl
  | ok i =>
    dsimp only
    split
    · simp only [ledger_report, ledger_remove]
      rfl
    · rfl

theorem ledger_stepConnect (r : Rig Config Command TagValue) (t : Task Config Command TagValue)
    (loop : ConnectLoop Nat) : (r.stepConnect t loop).1.ledger = r.ledger := by
  unfold stepConnect
  split
  · split
    · exact ledger_openNext ..
    · exact ledger_pause ..
  · exact ledger_openNext ..
  · exact ledger_pause ..
  · rfl
  · rfl
  · rfl

theorem ledger_stepHealth (r : Rig Config Command TagValue) (t : Task Config Command TagValue)
    (loop : HealthLoop) : (r.stepHealth t loop).1.ledger = r.ledger := by
  unfold stepHealth
  dsimp only
  -- how long the pauses are does not matter, and is not to be computed
  generalize r.settings.keepalive.ticks = interval
  generalize r.settings.healthTimeout.ticks = patience
  split
  · exact ledger_pause ..
  · rfl
  · split
    · rfl
    · exact ledger_pause ..
  · rfl
  · simp only [ledger_report, ledger_remove]
  · rfl
  · rfl

theorem ledger_spawn_foldl (job : Method × Nat → Job Config Command TagValue)
    (streams : List (Method × Nat)) :
    ∀ r : Rig Config Command TagValue,
      (streams.foldl (fun r s => r.spawn (job s)) r).ledger = r.ledger := by
  induction streams with
  | nil => intro r; rfl
  | cons s streams ih => intro r; rw [List.foldl_cons, ih, ledger_spawn]

theorem ledger_obey (r : Rig Config Command TagValue) (decision : Actor × Order Nat) :
    (r.obey decision).ledger = r.ledger := by
  obtain ⟨a, order⟩ := decision
  cases order with
  | keep => rfl
  | connect => rfl
  | serve streams =>
    simp only [obey, carryOut, ledger_spawn, ledger_spawn_foldl]
    rfl

theorem ledger_receive (r : Rig Config Command TagValue) (e : Report Nat) :
    (r.receive e).ledger = r.ledger := by
  unfold receive
  split
  · rfl
  · exact ledger_obey ..

/-! ## What one step does to it -/

/-- The task is about to answer: the callback of what it has in hand is over. -/
def IsOver (t : Task Config Command TagValue) (work : Handling Config Command TagValue) : Prop :=
  t.timer = .elapsed ∨ t.timer = .idle ∧ work.delay = 0

/-- A listener as it is once its answer is ready to be sent. -/
def answered (t : Task Config Command TagValue) (m : Method) (stream : Nat) (q : Request)
    (work : Handling Config Command TagValue) : Task Config Command TagValue :=
  { t with timer := .idle, job := .listen m stream (.sending ⟨q.id, work.envelope.bytes⟩) none }

/-- All that a step of a task can do to the store and to the calls: a request in hand is taken
up, or it is answered. -/
inductive TaskEffect (r : Rig Config Command TagValue) (t : Task Config Command TagValue) :
    Rig Config Command TagValue → Prop
  | keeps {r' : Rig Config Command TagValue} (ledger : r'.ledger = r.ledger) : TaskEffect r t r'
  | begins {r' : Rig Config Command TagValue} (m : Method) (stream : Nat) (q : Request)
      (job : t.job = .listen m stream (.handling q) none)
      (ledger : r'.ledger = (r.store,
        ((Handling.begin r.driver m q).call.map Invocation.call).toList ++ r.calls)) :
      TaskEffect r t r'
  | answers {r' : Rig Config Command TagValue} (m : Method) (stream : Nat) (q : Request)
      (work : Handling Config Command TagValue)
      (job : t.job = .listen m stream (.handling q) (some work)) (isOver : IsOver t work)
      (ledger : r'.ledger = (work.finish r.store, r.calls))
      (tasks : r'.tasks = (r.put (answered t m stream q work)).tasks) : TaskEffect r t r'

/-- A callback that is over is answered by the next step. -/
theorem stepListen_over (r : Rig Config Command TagValue) {t : Task Config Command TagValue}
    {m : Method} {stream : Nat} {q : Request} {work : Handling Config Command TagValue}
    (isOver : IsOver t work) :
    (r.stepListen t m stream (.handling q) (some work)).1 =
      { r with store := work.finish r.store }.put (answered t m stream q work) := by
  unfold stepListen
  rcases isOver with h | ⟨h, hd⟩
  · simp only [h]
    rfl
  · simp only [h, hd, if_true]
    rfl

theorem stepListen_effect (r : Rig Config Command TagValue) {t : Task Config Command TagValue}
    {m : Method} {stream : Nat} {l : Listener} {work : Option (Handling Config Command TagValue)}
    (hj : t.job = .listen m stream l work) :
    TaskEffect r t (r.stepListen t m stream l work).1 := by
  by_cases hover : ∃ q w, l = .handling q ∧ work = some w ∧ IsOver t w
  · obtain ⟨q, w, rfl, rfl, isOver⟩ := hover
    rw [stepListen_over r isOver]
    exact .answers m stream q w hj isOver rfl rfl
  · unfold stepListen
    split
    · split
      · exact .keeps rfl
      · exact .keeps rfl
    · rename_i q
      refine .begins m stream q hj ?_
      dsimp only
      cases (Handling.begin r.driver m q).call <;> rfl
    · rename_i q w
      split
      · rename_i ht
        split
        · rename_i hd
          exact absurd ⟨q, w, rfl, rfl, .inr ⟨ht, hd⟩⟩ hover
        · exact .keeps (ledger_pause ..)
      · rename_i ht
        exact absurd ⟨q, w, rfl, rfl, .inl ht⟩ hover
      · exact .keeps rfl
    · split
      · exact .keeps rfl
      · exact .keeps rfl
    · exact .keeps (by simp only [ledger_report, ledger_remove, ledger_abandonAll])
    · exact .keeps rfl

theorem stepTask_effect (r : Rig Config Command TagValue) (t : Task Config Command TagValue) :
    TaskEffect r t (r.stepTask t).1 := by
  unfold stepTask
  split
  · exact .keeps (ledger_stepConnect ..)
  · rename_i m stream l work hj; exact stepListen_effect r hj
  · exact .keeps (ledger_stepHealth ..)

theorem find?_put {r : Rig Config Command TagValue} {t u : Task Config Command TagValue}
    (found : r.find? t.id = some t) (id : u.id = t.id) : (r.put u).find? t.id = some u := by
  have hid : ∀ v : Task Config Command TagValue, (if v.id = t.id then u else v).id = v.id := by
    intro v
    split
    · rename_i h; exact id.trans h.symm
    · rfl
  unfold find? put at *
  rw [List.find?_map]
  simp only [Function.comp_def, id, hid, found, Option.map_some, if_true]

theorem dispatchPayload_invoke {α : Type} {read : Source → Option α}
    {call : α → Call Config Command TagValue} {payload : Bytes}
    {invoked : Call Config Command TagValue} {document : Option DeviceDocument}
    (h : dispatchPayload read call payload = .invoke invoked document) :
    (∃ a, invoked = call a) ∧ document = none := by
  unfold dispatchPayload at h
  split at h
  · cases h
  · rename_i a _
    cases h
    exact ⟨⟨a, rfl⟩, rfl⟩

/-- Requests of other methods carry no document and start nothing. -/
theorem begin_other {m : Method} (h : m ≠ .start) (d : Driver Config Command TagValue)
    (q : Request) : (Handling.begin d m q).document = none ∧
      ∀ config, (Handling.begin d m q).call ≠ some (.start config) := by
  have invoked : ∀ call document, dispatch d m q = .invoke call document →
      document = none ∧ ∀ config, call ≠ .start config := by
    intro call document hd
    cases m with
    | start => exact absurd rfl h
    | schema => cases hd; exact ⟨rfl, nofun⟩
    | run =>
      obtain ⟨⟨a, rfl⟩, rfl⟩ := dispatchPayload_invoke hd
      exact ⟨rfl, nofun⟩
    | writeTag =>
      obtain ⟨⟨a, rfl⟩, rfl⟩ := dispatchPayload_invoke hd
      exact ⟨rfl, nofun⟩
    | batchRun =>
      obtain ⟨⟨a, rfl⟩, rfl⟩ := dispatchPayload_invoke hd
      exact ⟨rfl, nofun⟩
    | debug => cases hd; exact ⟨rfl, nofun⟩
  unfold Handling.begin
  cases hd : dispatch d m q with
  | refused reason => exact ⟨rfl, nofun⟩
  | invoke call document =>
    obtain ⟨hdoc, hcall⟩ := invoked call document hd
    subst hdoc
    refine ⟨ite_self none, fun config he => hcall config ?_⟩
    exact Option.some.inj he

/-! ## Every run -/

/-- Of all that the actor and its tasks can do next, only the answer to a start that succeeded
changes the store. -/
structure LoadsWhole (r : Rig Config Command TagValue) : Prop where
  /-- A stop cancels what is in hand. -/
  instructed : ∀ i, (r.step (.instruct i)).store = r.store
  /-- So does a failure that makes the session reconnect. -/
  received : ∀ position, (r.step (.receive position)).store = r.store
  /-- So does a host that is let go of. -/
  retired : r.retire.store = r.store
  worked : ∀ id, (r.step (.work id)).store = r.store ∨
    ∃ t d stream q, r.find? id = some t ∧
      t.job = .listen .start stream (.handling q) (some (Handling.begin d .start q)) ∧
      (Handling.begin d .start q).envelope.code = 200 ∧
      (r.step (.work id)).store = (Handling.begin d .start q).finish r.store ∧
      (r.step (.work id)).find? id =
        some (answered t .start stream q (Handling.begin d .start q))
  /-- The answer of a callback that is over is ready in the step that loads. -/
  answers : ∀ t stream q work, r.find? t.id = some t →
    t.job = .listen .start stream (.handling q) (some work) → IsOver t work →
    (∃ d, work = Handling.begin d .start q) ∧
      (r.step (.work t.id)).store = work.finish r.store ∧
      (r.step (.work t.id)).find? t.id = some (answered t .start stream q work)
  instructs : ∀ i config, Invocation.call (.start config) ∈ (r.step (.instruct i)).calls →
    Invocation.call (.start config) ∈ r.calls
  receives : ∀ position, (r.step (.receive position)).calls = r.calls
  /-- The driver starts with what it read, next to a document. -/
  invokes : ∀ id config, Invocation.call (.start config) ∈ (r.step (.work id)).calls →
    Invocation.call (.start config) ∈ r.calls ∨
      ∃ q document, startDocument q = some document ∧ startConfig r.driver q = some config

theorem ledger_command (r : Rig Config Command TagValue) (i : Instruction) :
    (r.command i).ledger = r.ledger ∨
      (r.command i).ledger = (r.store, Invocation.stop :: r.calls) := by
  cases i with
  | start => exact .inl (ledger_obey ..)
  | stop =>
    unfold command stopSession
    cases r.actor.beginStop with
    | none => exact .inl rfl
    | some closing =>
      refine .inr ?_
      dsimp only
      split <;> rfl

theorem ledger_instruct (r : Rig Config Command TagValue) (i : Instruction) :
    (r.step (.instruct i)).ledger = r.ledger ∨
      (r.step (.instruct i)).ledger = (r.store, Invocation.stop :: r.calls) := by
  simp only [step]
  split
  · exact ledger_command r i
  · exact .inl rfl

theorem ledger_take (r : Rig Config Command TagValue) (position : Nat) :
    (r.step (.receive position)).ledger = r.ledger := by
  simp only [step]
  split
  · rw [ledger_receive]; rfl
  · rfl

theorem find?_mem {r : Rig Config Command TagValue} {t : Task Config Command TagValue} {id : Nat}
    (found : r.find? id = some t) : t ∈ r.tasks ∧ t.id = id := by
  refine ⟨List.mem_of_find?_eq_some found, ?_⟩
  simpa using List.find?_some found

/-- What is in hand of a regular session began with some driver. -/
theorem begun_of_regular {r : Rig Config Command TagValue} (h : r.session.Regular)
    {t : Task Config Command TagValue} (ht : t ∈ r.tasks) {m : Method} {stream : Nat} {q : Request}
    {work : Handling Config Command TagValue}
    (job : t.job = .listen m stream (.handling q) (some work)) :
    ∃ d, work = Handling.begin d m q := by
  have hbegun : IsBegun t.job := h.begun t ht
  rw [job] at hbegun
  exact hbegun

theorem work_effect (r : Rig Config Command TagValue) (id : Nat) :
    r.step (.work id) = r ∨
      ∃ t, r.find? id = some t ∧ TaskEffect r t (r.step (.work id)) := by
  simp only [step]
  cases found : r.find? id with
  | none => exact .inl rfl
  | some t => exact .inr ⟨t, rfl, stepTask_effect r t⟩

theorem work_loads {r : Rig Config Command TagValue} (h : r.session.Regular) (id : Nat) :
    (r.step (.work id)).store = r.store ∨
      ∃ t d stream q, r.find? id = some t ∧
        t.job = .listen .start stream (.handling q) (some (Handling.begin d .start q)) ∧
        (Handling.begin d .start q).envelope.code = 200 ∧
        (r.step (.work id)).store = (Handling.begin d .start q).finish r.store ∧
        (r.step (.work id)).find? id =
          some (answered t .start stream q (Handling.begin d .start q)) := by
  rcases work_effect r id with heq | ⟨t, found, effect⟩
  · exact .inl (by rw [heq])
  · obtain ⟨ht, hid⟩ := find?_mem found
    cases effect with
    | keeps ledger => exact .inl (congrArg Prod.fst ledger)
    | begins m stream q job ledger => exact .inl (congrArg Prod.fst ledger)
    | answers m stream q work job isOver ledger tasks =>
      obtain ⟨d, rfl⟩ := begun_of_regular h ht job
      have hstore : (r.step (.work id)).store = (Handling.begin d m q).finish r.store :=
        congrArg Prod.fst ledger
      by_cases hm : m = .start
      · subst hm
        by_cases hcode : (Handling.begin d .start q).envelope.code = 200
        · refine .inr ⟨t, d, stream, q, found, job, hcode, hstore, ?_⟩
          subst hid
          rw [find?, tasks]
          exact find?_put found rfl
        · exact .inl (hstore.trans ((begin_start d q r.store).nothing hcode))
      · refine .inl (hstore.trans ?_)
        rw [Handling.finish, (begin_other hm d q).1]

theorem work_invokes (r : Rig Config Command TagValue) {id : Nat} {config : Config}
    (called : Invocation.call (.start config) ∈ (r.step (.work id)).calls) :
    Invocation.call (.start config) ∈ r.calls ∨
      ∃ q document, startDocument q = some document ∧ startConfig r.driver q = some config := by
  rcases work_effect r id with heq | ⟨t, -, effect⟩
  · rw [heq] at called
    exact .inl called
  · cases effect with
    | keeps ledger =>
      have hcalls : (r.step (.work id)).calls = r.calls := congrArg Prod.snd ledger
      exact .inl (hcalls ▸ called)
    | answers m stream q work job isOver ledger tasks =>
      have hcalls : (r.step (.work id)).calls = r.calls := congrArg Prod.snd ledger
      exact .inl (hcalls ▸ called)
    | begins m stream q job ledger =>
      have hcalls : (r.step (.work id)).calls =
          ((Handling.begin r.driver m q).call.map Invocation.call).toList ++ r.calls :=
        congrArg Prod.snd ledger
      rw [hcalls] at called
      rcases List.mem_append.1 called with called | called
      · have hcall : (Handling.begin r.driver m q).call = some (.start config) := by
          simpa using called
        by_cases hm : m = .start
        · subst hm
          obtain ⟨document, config', hd, hc, heq⟩ :=
            (begin_start r.driver q r.store).invoked _ hcall
          cases heq
          exact .inr ⟨q, document, hd, hc⟩
        · exact absurd hcall ((begin_other hm r.driver q).2 config)
      · exact .inl called

theorem loadsWhole_of_regular {r : Rig Config Command TagValue} (h : r.session.Regular) :
    LoadsWhole r where
  instructed i := by
    rcases ledger_instruct r i with h | h <;> exact congrArg Prod.fst h
  received position := congrArg Prod.fst (ledger_take r position)
  retired := rfl
  worked id := work_loads h id
  answers t stream q work found job isOver := by
    have hstep : r.step (.work t.id) = { r with store := work.finish r.store }.put
        (answered t .start stream q work) := by
      simp only [step, found, stepTask, job]
      exact stepListen_over r isOver
    rw [hstep]
    exact ⟨begun_of_regular h (find?_mem found).1 job, rfl, find?_put found rfl⟩
  instructs i config called := by
    rcases ledger_instruct r i with h | h
    · have hcalls : (r.step (.instruct i)).calls = r.calls := congrArg Prod.snd h
      exact hcalls ▸ called
    · have hcalls : (r.step (.instruct i)).calls = .stop :: r.calls := congrArg Prod.snd h
      rw [hcalls] at called
      rcases List.mem_cons.1 called with called | called
      · cases called
      · exact called
  receives position := congrArg Prod.snd (ledger_take r position)
  invokes _ _ called := work_invokes r called

/-- **Starts are all or nothing**: whatever the payload, the driver and the store are, an answer
of success comes with all of the document and any other answer with nothing of it. However a
session got where it is, nothing but such an answer changes the store; so a callback that is
cancelled leaves it as it was. -/
theorem run_loadsWhole (driver : Driver Config Command TagValue) (settings : SessionSettings)
    (identity : Identity) (pipeline : Pipeline)
    (choices : List (Choice Config Command TagValue)) :
    (∀ (d : Driver Config Command TagValue) (q : Request) (s : Store),
      AllOrNothing d q (Handling.begin d .start q) s) ∧
    LoadsWhole ((initial driver settings identity pipeline).run choices) := by
  refine ⟨begin_start, loadsWhole_of_regular ?_⟩
  exact run_induction (P := fun r => r.session.Regular) step_regular choices (regular_nil rfl)

end Bench.Rig
end DeviceLink
