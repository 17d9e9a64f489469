import DeviceLink.Proofs.Session.Loading
import DeviceLink.Proofs.Session.Roles
/-!
# Moments of a host

A schedule lets the actor stop a session in one step. A stop takes longer than that: the state
changes first, then the tasks go, one after the other and in whatever order, and only when none is
left is the driver told. Meanwhile the actor reads neither of its queues, but everybody else goes
on: tasks work, reports arrive, messages are sent. An actor that retires, since nobody is left who
could instruct it, takes its time likewise. Here these are moments of their own (`Moment`, `live`),
and what the rig does at once is a run of them (`stop_eq_lives`, `retire_eq_lives`), as is each
turn of its queue (`turn_eq_lives`).

What one moment makes of the state, of the life of the actor and of the number of times the driver
was told to stop is listed once (`Shift`, `live_shift`). At every moment a host is `Fit`: tasks and
reports are in order, and while the actor reads its queues every role has its holder.
-/
namespace DeviceLink

def Outcome.isPanicked {α : Type} : Outcome α → Bool
  | .panicked _ => true
  | _ => false

namespace Bench

def Invocation.isStop {Config Command TagValue : Type} : Invocation Config Command TagValue → Bool
  | .stop => true
  | .call _ => false

namespace Rig

variable {Config Command TagValue : Type}

/-! ## Moments and runs -/

/-- The actor waits for instructions and reports. -/
def IsFree (r : Rig Config Command TagValue) : Prop := r.alive = true ∧ r.actor.state ≠ .closing

/-- The actor is about a stop. -/
def IsStopping (r : Rig Config Command TagValue) : Prop :=
  r.alive = true ∧ r.actor.state = .closing

/-- Nobody can instruct the actor any more, or has done so. -/
def IsAbandoned (r : Rig Config Command TagValue) : Prop :=
  r.hasHandle = false ∧ r.commands.isEmpty = true

instance (r : Rig Config Command TagValue) : Decidable r.IsFree :=
  inferInstanceAs (Decidable (r.alive = true ∧ r.actor.state ≠ .closing))

instance (r : Rig Config Command TagValue) : Decidable r.IsStopping :=
  inferInstanceAs (Decidable (r.alive = true ∧ r.actor.state = .closing))

instance (r : Rig Config Command TagValue) : Decidable r.IsAbandoned :=
  inferInstanceAs (Decidable (r.hasHandle = false ∧ r.commands.isEmpty = true))

inductive Moment (Config Command TagValue : Type)
  | starts
  /-- By position, as in a schedule. -/
  | receives (position : Nat)
  | stops
  /-- A task is gone; its streams are given up. -/
  | drops (position : Nat)
  | tells
  | retires
  /-- What is queued for an actor that has ended is lost. -/
  | forgets
  | works (id : Nat)
  | elsewhere (world : Rig Config Command TagValue) (timer : Task Config Command TagValue → Timer)

/-- If there is anything to stop, the tasks are told to end. -/
def beginStop (r : Rig Config Command TagValue) : Rig Config Command TagValue :=
  match r.actor.beginStop with
  | some closing => { r with actor := closing }
  | none => r

def dropTask (r : Rig Config Command TagValue) (position : Nat) : Rig Config Command TagValue :=
  match r.tasks[position]? with
  | some t => { r.abandonAll (streamsOf t.job) with tasks := r.tasks.eraseIdx position }
  | none => r

/-- The actor reads nothing any more, and its tasks are told to end. -/
def beginRetire (r : Rig Config Command TagValue) : Rig Config Command TagValue :=
  { r with alive := false, actor := { r.actor with cancelled := true } }

/-- The driver is told of the stop; one that breaks off takes the actor with it. -/
def tellDriver (r : Rig Config Command TagValue) : Rig Config Command TagValue :=
  match r.driver.stop with
  | .panicked _ => { r with calls := .stop :: r.calls, alive := false }
  | _ => { r with calls := .stop :: r.calls, actor := r.actor.endStop }

/-- An actor that is about a stop, or that has ended, reads nothing; its tasks are being dropped. -/
def live (r : Rig Config Command TagValue) :
    Moment Config Command TagValue → Rig Config Command TagValue
  | .starts => if r.IsFree then r.command .start else r
  | .receives position => if r.IsFree then r.step (.receive position) else r
  | .stops => if r.IsFree then r.beginStop else r
  | .drops position => if r.IsFree then r else r.dropTask position
  | .tells => if r.IsStopping ∧ r.tasks = [] then r.tellDriver else r
  | .retires => if r.IsFree ∧ r.IsAbandoned then r.beginRetire else r
  | .forgets => if r.alive then r else { r with reports := [] }
  | .works id => r.step (.work id)
  | .elsewhere world timer => r.step (.elsewhere { world with calls := r.calls } timer)

def lives (r : Rig Config Command TagValue) (ms : List (Moment Config Command TagValue)) :
    Rig Config Command TagValue :=
  ms.foldl live r

@[simp] theorem lives_nil (r : Rig Config Command TagValue) : r.lives [] = r := rfl

@[simp] theorem lives_cons (r : Rig Config Command TagValue) (m : Moment Config Command TagValue)
    (ms : List (Moment Config Command TagValue)) : r.lives (m :: ms) = (r.live m).lives ms := rfl

theorem lives_append (r : Rig Config Command TagValue)
    (ms ms' : List (Moment Config Command TagValue)) :
    r.lives (ms ++ ms') = (r.lives ms).lives ms' :=
  List.foldl_append

/-- What every moment keeps holds after every run. -/
theorem lives_induction {P : Rig Config Command TagValue → Prop}
    (keep : ∀ r m, P r → P (r.live m)) (ms : List (Moment Config Command TagValue)) :
    ∀ {r : Rig Config Command TagValue}, P r → P (r.lives ms) := by
  induction ms with
  | nil => intro r h; exact h
  | cons m ms ih => intro r h; exact ih (keep r m h)

theorem isFree_or_isStopping {r : Rig Config Command TagValue} (alive : r.alive = true) :
    r.IsFree ∨ r.IsStopping := by
  by_cases closing : r.actor.state = .closing
  · exact .inr ⟨alive, closing⟩
  · exact .inl ⟨alive, closing⟩

theorem busy_of_not_isFree {r : Rig Config Command TagValue} (h : ¬ r.IsFree) :
    r.alive = false ∨ r.actor.state = .closing := by
  by_cases alive : r.alive = true
  · exact .inr ((isFree_or_isStopping alive).resolve_left h).2
  · exact .inl (by simpa using alive)

/-! ## What the rig does at once -/

/-- All tasks go, the first one first. -/
theorem lives_drops (ts : List (Task Config Command TagValue)) :
    ∀ {r : Rig Config Command TagValue}, r.tasks = ts → ¬ r.IsFree →
      r.lives (List.replicate ts.length (.drops 0)) = r.dropTasks := by
  induction ts with
  | nil =>
    intro r tasks busy
    cases r
    cases tasks
    rfl
  | cons t ts ih =>
    intro r tasks busy
    have first : r.live (.drops 0) = { r.abandonAll (streamsOf t.job) with tasks := ts } := by
      simp only [live, if_neg busy, dropTask, tasks, List.getElem?_cons_zero,
        List.eraseIdx_cons_zero]
    have others : { r.abandonAll (streamsOf t.job) with tasks := ts }.dropTasks = r.dropTasks := by
      simp only [dropTasks, abandonAll, tasks, List.flatMap_cons, List.foldl_append]
    rw [List.length_cons, List.replicate_succ, lives_cons, first, ← others]
    exact ih rfl busy

theorem beginStop_free {r : Rig Config Command TagValue} (free : r.IsFree) :
    r.actor.state = .closed ∧ r.actor.beginStop = none ∨
      r.actor.state ≠ .closed ∧
        r.actor.beginStop = some ⟨.closing, r.actor.generation, true⟩ := by
  obtain ⟨-, hs⟩ := free
  unfold Actor.beginStop
  cases hstate : r.actor.state with
  | closed => exact .inl ⟨rfl, rfl⟩
  | closing => exact absurd hstate hs
  | _ => exact .inr ⟨nofun, rfl⟩

/-- The stop of a schedule. -/
theorem stop_eq_lives {r : Rig Config Command TagValue} (free : r.IsFree) :
    r.step (.instruct .stop) =
      r.lives (.stops :: List.replicate r.tasks.length (.drops 0) ++ [.tells]) := by
  have begins : r.live .stops = r.beginStop := if_pos free
  rw [step, if_pos free.1, command, stopSession, List.cons_append, lives_cons, lives_append, begins,
    beginStop]
  rcases beginStop_free free with ⟨-, hstop⟩ | ⟨-, hstop⟩
  · -- neither is anything dropped, nor anybody told
    have idle : ∀ n, r.lives (List.replicate n (.drops 0)) = r := by
      intro n
      induction n with
      | zero => rfl
      | succ n ih => rw [List.replicate_succ, lives_cons, live, if_pos free, ih]
    have untold : ¬ (r.IsStopping ∧ r.tasks = []) := fun h => free.2 h.1.2
    simp only [hstop, idle, lives_cons, lives_nil, live, if_neg untold]
  · simp only [hstop]
    let closing : Rig Config Command TagValue :=
      { r with actor := ⟨.closing, r.actor.generation, true⟩ }
    have busy : ¬ closing.IsFree := fun h => h.2 rfl
    have alone : closing.dropTasks.IsStopping ∧ closing.dropTasks.tasks = [] := ⟨⟨free.1, rfl⟩, rfl⟩
    have tells : closing.dropTasks.live .tells = closing.dropTasks.tellDriver := if_pos alone
    show _ = (closing.lives (List.replicate closing.tasks.length (.drops 0))).live .tells
    rw [lives_drops closing.tasks rfl busy, tells]
    rfl

theorem retire_eq_lives {r : Rig Config Command TagValue} (free : r.IsFree)
    (abandoned : r.IsAbandoned) :
    r.retire = r.lives (.retires :: List.replicate r.tasks.length (.drops 0)) := by
  have begins : r.live .retires = r.beginRetire := if_pos ⟨free, abandoned⟩
  have busy : ¬ r.beginRetire.IsFree := fun h => by cases h.1
  rw [lives_cons, begins]
  exact (lives_drops r.beginRetire.tasks rfl busy).symm

theorem live_elsewhere {r r' : Rig Config Command TagValue} (session : r'.session = r.session)
    (calls : r'.calls = r.calls) : r.live (.elsewhere r' Task.timer) = r' := by
  rw [live, ← calls]
  exact step_elsewhere session

/-- Each turn of the queue is a run of moments; a stop is never under way between turns. -/
theorem turn_eq_lives {r : Rig Config Command TagValue} (free : ¬ r.IsStopping) :
    ∃ ms, r.turn = r.lives ms := by
  have elsewhere : ∀ r' : Rig Config Command TagValue, r'.session = r.session →
      r'.calls = r.calls → ∃ ms, r' = r.lives ms :=
    fun r' session calls => ⟨[.elsewhere r' Task.timer], (live_elsewhere session calls).symm⟩
  -- whoever has to wait leaves the queue, which happens elsewhere
  have settle : ∀ (r' : Rig Config Command TagValue) (again : Bool), (∃ ms, r' = r.lives ms) →
      ∃ ms, (if again then r' else { r' with ready := r'.ready.drop 1 }) = r.lives ms := by
    rintro r' again ⟨ms, rfl⟩
    cases again with
    | true => exact ⟨ms, rfl⟩
    | false =>
      refine ⟨ms ++ [.elsewhere { r.lives ms with ready := (r.lives ms).ready.drop 1 } Task.timer],
        ?_⟩
      rw [lives_append]
      exact (live_elsewhere rfl rfl).symm
  have actor : ∃ ms, r.stepActor.1 = r.lives ms := by
    unfold stepActor
    by_cases alive : r.alive = true
    · have free : r.IsFree := (isFree_or_isStopping alive).resolve_right free
      rw [if_pos alive]
      split
      · rename_i c rest _
        have taken : r.live (.elsewhere { r with commands := rest } Task.timer) =
            { r with commands := rest } := live_elsewhere rfl rfl
        have free' : ({ r with commands := rest } : Rig Config Command TagValue).IsFree := free
        cases c with
        | start =>
          refine ⟨[.elsewhere { r with commands := rest } Task.timer, .starts], ?_⟩
          rw [lives_cons, taken, lives_cons, live, if_pos free']
          rfl
        | stop =>
          have stop := stop_eq_lives free'
          rw [step, if_pos free'.1] at stop
          refine ⟨.elsewhere { r with commands := rest } Task.timer ::
            (.stops :: List.replicate r.tasks.length (.drops 0) ++ [.tells]), ?_⟩
          rw [lives_cons, taken]
          exact stop
      · rename_i e rest _ hr
        refine ⟨[.receives 0], ?_⟩
        rw [lives_cons, live, if_pos free]
        simp [step, alive, hr]
      · rename_i hc _
        split
        · exact ⟨[], rfl⟩
        · rename_i handle
          have abandoned : r.IsAbandoned := ⟨by simpa using handle, by rw [hc]; rfl⟩
          exact ⟨_, retire_eq_lives free abandoned⟩
    · rw [if_neg alive]
      have taken : r.live (.elsewhere { r with commands := [] } Task.timer) =
          { r with commands := [] } := live_elsewhere rfl rfl
      refine ⟨[.elsewhere { r with commands := [] } Task.timer, .forgets], ?_⟩
      rw [lives_cons, taken, lives_cons, live, if_neg alive]
      rfl
  unfold turn
  split
  · exact ⟨[], rfl⟩
  · split
    · exact settle _ _ actor
    · rename_i id _
      split
      · exact elsewhere _ rfl rfl
      · rename_i t ht
        exact settle _ _ ⟨[.works id], by rw [lives_cons, live, step, ht]; rfl⟩
    · exact elsewhere _ (session_wake _ _) (congrArg Prod.snd (ledger_wake _ _))

/-! ## What every moment keeps -/

/-- Tasks and reports of a session, whatever its actor is about. -/
structure Session.Orderly (s : Session Config Command TagValue) : Prop where
  current : ∀ t ∈ s.tasks, t.generation = s.actor.generation
  resting : s.actor.state = .closed → s.tasks = []
  past : ∀ e ∈ s.reports, e.generation ≤ s.actor.generation
  complete : ∀ e ∈ s.reports, IsComplete e

structure Session.Fit (s : Session Config Command TagValue) : Prop where
  regular : s.Regular
  orderly : s.Orderly
  sound : s.alive = true → s.actor.state ≠ .closing → s.Sound

theorem Session.Sound.orderly {s : Session Config Command TagValue} (h : s.Sound) : s.Orderly :=
  ⟨h.current, fun closed => h.resting (.inl closed), h.past, h.complete⟩

/-- Tasks that end, also with a report of their own. -/
theorem Session.Orderly.shrinks {s s' : Session Config Command TagValue} (h : s.Orderly)
    (generation : s'.actor.generation = s.actor.generation)
    (state : s'.actor.state = .closed → s.actor.state = .closed)
    (tasks : ∀ t' ∈ s'.tasks, ∃ t ∈ s.tasks, t.generation = t'.generation)
    (reports : ∀ e ∈ s'.reports, e ∈ s.reports ∨
      (∃ t ∈ s.tasks, e.generation = t.generation) ∧ IsComplete e) : s'.Orderly := by
  refine ⟨fun t' ht' => ?_, fun closed => ?_, fun e he => ?_, fun e he => ?_⟩
  · obtain ⟨t, ht, same⟩ := tasks t' ht'
    rw [← same, generation]
    exact h.current t ht
  · refine List.eq_nil_iff_forall_not_mem.2 fun t' ht' => ?_
    obtain ⟨t, ht, -⟩ := tasks t' ht'
    rw [h.resting (state closed)] at ht
    cases ht
  · rw [generation]
    rcases reports e he with he | ⟨⟨t, ht, same⟩, -⟩
    · exact h.past e he
    · exact Nat.le_of_eq (same.trans (h.current t ht))
  · rcases reports e he with he | ⟨-, complete⟩
    · exact h.complete e he
    · exact complete

theorem Session.Orderly.works {s s' : Session Config Command TagValue} (h : s.Orderly)
    {t : Task Config Command TagValue} (mem : t ∈ s.tasks) (work : TaskStep s t s') :
    s'.Orderly := by
  cases work with
  | waits => exact h
  | goesOn timer job role active begun =>
    refine h.shrinks rfl id (fun u hu => ?_) fun e he => .inl he
    obtain ⟨v, hv, rfl⟩ := List.mem_map.1 hu
    split
    · exact ⟨t, mem, rfl⟩
    · exact ⟨v, hv, rfl⟩
  | ends e generation role complete =>
    refine h.shrinks rfl id (fun u hu => ⟨u, (List.mem_filter.1 hu).1, rfl⟩) fun e' he' => ?_
    rcases List.mem_append.1 he' with he' | he'
    · exact .inl he'
    · rw [List.mem_singleton.1 he']
      exact .inr ⟨⟨t, mem, generation⟩, complete⟩

/-- A task that is gone leaves the others in order. -/
theorem Session.Regular.drop {s : Session Config Command TagValue} (h : s.Regular)
    (position : Nat) :
    ({ s with tasks := s.tasks.eraseIdx position } : Session Config Command TagValue).Regular :=
  ⟨fun t ht => h.fresh t (List.mem_of_mem_eraseIdx ht),
    fun t ht => h.active t (List.mem_of_mem_eraseIdx ht),
    fun t ht => h.begun t (List.mem_of_mem_eraseIdx ht)⟩

/-- Whoever is about a stop, or has ended, takes no care of its tasks. -/
theorem Session.Orderly.fit {s : Session Config Command TagValue} (h : s.Orderly)
    (regular : s.Regular) (busy : s.alive = false ∨ s.actor.state = .closing) : s.Fit := by
  refine ⟨regular, h, fun alive restless => ?_⟩
  rcases busy with dead | closing
  · rw [dead] at alive
    cases alive
  · exact absurd closing restless

/-- What the rig does at once, an actor that is free can do. -/
theorem Session.Fit.step {r : Rig Config Command TagValue} (h : r.session.Fit) (free : r.IsFree)
    (c : Choice Config Command TagValue) : (r.step c).session.Fit := by
  have sound := step_sound r c h.regular (h.sound free.1 free.2)
  exact ⟨step_regular r c h.regular, sound.orderly, fun _ _ => sound⟩

theorem Session.Fit.works {r : Rig Config Command TagValue} (h : r.session.Fit) (id : Nat) :
    (r.step (.work id)).session.Fit := by
  by_cases free : r.IsFree
  · exact h.step free _
  · rcases work_cases h.regular.active id with hr | ⟨t, mem, work⟩
    · rw [hr]
      exact h
    · refine (h.orderly.works mem work).fit (step_regular r _ h.regular) ?_
      rw [work.alive, work.actor]
      exact busy_of_not_isFree free

theorem Session.Fit.retimed {s : Session Config Command TagValue} (h : s.Fit)
    (timer : Task Config Command TagValue → Timer) :
    ({ s with tasks := s.tasks.map fun t => { t with timer := timer t } } :
      Session Config Command TagValue).Fit := by
  refine ⟨h.regular.mapTasks (fun _ _ => rfl) h.regular.active h.regular.begun, ?_,
    fun alive restless => (h.sound alive restless).mapTasks (fun _ _ => rfl) (fun _ _ => rfl)
      fun _ _ => rfl⟩
  refine h.orderly.shrinks rfl id (fun u hu => ?_) fun e he => .inl he
  obtain ⟨t, ht, rfl⟩ := List.mem_map.1 hu
  exact ⟨t, ht, rfl⟩

theorem Session.Fit.drops {r : Rig Config Command TagValue} (h : r.session.Fit)
    (busy : ¬ r.IsFree) (position : Nat) : (r.dropTask position).session.Fit := by
  unfold dropTask
  split
  · have orderly : ({ r.session with tasks := r.session.tasks.eraseIdx position } :
        Session Config Command TagValue).Orderly :=
      h.orderly.shrinks rfl id (fun t ht => ⟨t, List.mem_of_mem_eraseIdx ht, rfl⟩)
        fun e he => .inl he
    exact orderly.fit (h.regular.drop position) (busy_of_not_isFree busy)
  · exact h

/-- The driver is told when nobody is left. -/
theorem Session.Fit.tells {r : Rig Config Command TagValue} (h : r.session.Fit)
    (stopping : r.IsStopping) (alone : r.tasks = []) : r.tellDriver.session.Fit := by
  have sound : r.tellDriver.session.Sound := by
    unfold tellDriver
    split
    · exact rest_sound alone (.inr stopping.2) h.orderly.past h.orderly.complete
    · exact rest_sound alone (.inl rfl) h.orderly.past h.orderly.complete
  refine ⟨regular_nil ?_, sound.orderly, fun _ _ => sound⟩
  unfold tellDriver
  split
  · exact alone
  · exact alone

/-- An actor that turns from its tasks leaves them as they are. -/
theorem Session.Fit.turns {s s' : Session Config Command TagValue} (h : s.Fit)
    (tasks : s'.tasks = s.tasks) (next : s'.nextTask = s.nextTask)
    (generation : s'.actor.generation = s.actor.generation)
    (state : s'.actor.state = .closed → s.actor.state = .closed)
    (reports : ∀ e ∈ s'.reports, e ∈ s.reports)
    (busy : s'.alive = false ∨ s'.actor.state = .closing) : s'.Fit := by
  have orderly : s'.Orderly := h.orderly.shrinks generation state
    (fun t ht => ⟨t, tasks ▸ ht, rfl⟩) fun e he => .inl (reports e he)
  refine orderly.fit ⟨?_, ?_, ?_⟩ busy
  · rw [tasks, next]; exact h.regular.fresh
  · rw [tasks]; exact h.regular.active
  · rw [tasks]; exact h.regular.begun

theorem live_fit {r : Rig Config Command TagValue} (h : r.session.Fit)
    (m : Moment Config Command TagValue) : (r.live m).session.Fit := by
  have within : ∀ {P : Prop} [Decidable P] {r' : Rig Config Command TagValue},
      (P → r'.session.Fit) → (if P then r' else r).session.Fit := by
    intro P _ r' h'
    split
    · rename_i p; exact h' p
    · exact h
  cases m with
  | starts =>
    refine within fun free => ?_
    have next := h.step free (.instruct .start)
    rwa [step, if_pos free.1] at next
  | receives position => exact within fun free => h.step free (.receive position)
  | stops =>
    refine within fun free => ?_
    unfold beginStop
    rcases beginStop_free free with ⟨-, stop⟩ | ⟨-, stop⟩
    · rw [stop]
      exact h
    · rw [stop]
      exact h.turns rfl rfl rfl (fun closed => by cases closed) (fun e he => he) (.inr rfl)
  | drops position =>
    simp only [live]
    split
    · exact h
    · rename_i busy; exact h.drops busy position
  | tells => exact within fun told => h.tells told.1 told.2
  | retires => exact within fun _ => h.turns rfl rfl rfl id (fun e he => he) (.inl rfl)
  | forgets =>
    simp only [live]
    split
    · exact h
    · rename_i dead
      have ended : r.alive = false := by simpa using dead
      exact h.turns rfl rfl rfl id (fun e he => by cases he) (.inl ended)
  | works id => exact h.works id
  | elsewhere world timer => exact h.retimed timer

theorem initial_fit (driver : Driver Config Command TagValue) (settings : SessionSettings)
    (identity : Identity) (pipeline : Pipeline) :
    (initial driver settings identity pipeline).session.Fit :=
  have sound := initial_sound driver settings identity pipeline
  ⟨regular_nil rfl, sound.orderly, fun _ _ => sound⟩

theorem lives_fit {r : Rig Config Command TagValue} (h : r.session.Fit)
    (ms : List (Moment Config Command TagValue)) : (r.lives ms).session.Fit :=
  lives_induction (P := fun r => r.session.Fit) (fun _ m h => live_fit h m) ms h

/-! ## What a moment shows -/

/-- How often the driver was told to stop. -/
def told (r : Rig Config Command TagValue) : Nat := r.calls.countP Invocation.isStop

structure Standing where
  state : SessionState
  alive : Bool
  told  : Nat

def standing (r : Rig Config Command TagValue) : Standing := ⟨r.actor.state, r.alive, r.told⟩

/-- All that one moment can make of a standing. -/
inductive Shift (r : Rig Config Command TagValue) :
    Moment Config Command TagValue → Standing → Prop
  | stays (m : Moment Config Command TagValue) : Shift r m r.standing
  | starts (free : r.IsFree) (closed : r.actor.state = .closed) :
      Shift r .starts ⟨.connecting, true, r.told⟩
  | serves {position : Nat} (free : r.IsFree)
      (opening : r.actor.state = .connecting ∨ r.actor.state = .reconnecting) :
      Shift r (.receives position) ⟨.running, true, r.told⟩
  | reconnects {position : Nat} (free : r.IsFree) (running : r.actor.state = .running) :
      Shift r (.receives position) ⟨.reconnecting, true, r.told⟩
  | stops (free : r.IsFree) (restless : r.actor.state ≠ .closed) :
      Shift r .stops ⟨.closing, true, r.told⟩
  | ends (stopping : r.IsStopping) (alone : r.tasks = [])
      (returns : r.driver.stop.isPanicked = false) : Shift r .tells ⟨.closed, true, r.told + 1⟩
  | breaks (stopping : r.IsStopping) (alone : r.tasks = [])
      (panics : r.driver.stop.isPanicked = true) : Shift r .tells ⟨.closing, false, r.told + 1⟩
  | retires (free : r.IsFree) (abandoned : r.IsAbandoned) :
      Shift r .retires ⟨r.actor.state, false, r.told⟩

theorem standing_eq {r r' : Rig Config Command TagValue} {s : Session Config Command TagValue}
    (session : r'.session = s) (calls : r'.calls = r.calls) :
    r'.standing = ⟨s.actor.state, s.alive, r.told⟩ := by
  rw [← session, told, ← calls]
  rfl

/-- Commands are no stops. -/
theorem told_work (r : Rig Config Command TagValue) (id : Nat) :
    (r.step (.work id)).told = r.told := by
  have same : ∀ {r' : Rig Config Command TagValue}, r'.calls = r.calls → r'.told = r.told :=
    fun calls => by rw [told, calls, told]
  rcases work_effect r id with hr | ⟨t, -, effect⟩
  · rw [hr]
  · cases effect with
    | keeps ledger => exact same (congrArg Prod.snd ledger)
    | answers m stream q work job isOver ledger tasks => exact same (congrArg Prod.snd ledger)
    | begins m stream q job ledger =>
      have calls : (r.step (.work id)).calls = _ := congrArg Prod.snd ledger
      rw [told, calls, told, List.countP_append]
      cases (Handling.begin r.driver m q).call with
      | none => simp
      | some call => simp [Invocation.isStop]

theorem shift_work {r : Rig Config Command TagValue} (active : ∀ t ∈ r.tasks, IsActive t.job)
    (id : Nat) : (r.step (.work id)).standing = r.standing := by
  unfold standing
  rw [told_work]
  rcases work_cases active id with hr | ⟨t, mem, work⟩
  · rw [hr]
  · have actor : (r.step (.work id)).actor = r.actor := work.actor
    have alive : (r.step (.work id)).alive = r.alive := work.alive
    rw [actor, alive]

theorem shift_receive {r : Rig Config Command TagValue} (free : r.IsFree) (position : Nat) :
    Shift r (.receives position) (r.step (.receive position)).standing := by
  cases queued : r.reports[position]? with
  | none =>
    have same : r.step (.receive position) = r := by simp [step, queued]
    rw [same]
    exact .stays _
  | some e =>
    let taken : Rig Config Command TagValue :=
      { r with reports := r.reports.eraseIdx position }
    have next : r.step (.receive position) = taken.receive e := by
      simp [step, free.1, queued, taken]
    have calls : (taken.receive e).calls = r.calls := congrArg Prod.snd (ledger_receive taken e)
    rw [next]
    by_cases awaited : Awaits r.actor e
    · by_cases failure : endedRole e = .connect
      · cases e with
        | opened g streams =>
          rw [standing_eq (session_receive_opened (r := taken) awaited) calls]
          have serves : Shift r (.receives position) ⟨.running, true, r.told⟩ :=
            .serves free awaited.2
          rwa [← free.1] at serves
        | healthFailed g reason => cases failure
        | streamClosed g m => cases failure
      · rw [standing_eq (session_receive_failure (r := taken) awaited failure) calls]
        have running : r.actor.state = .running := by
          cases e with
          | opened g streams => exact absurd rfl failure
          | healthFailed g reason => exact awaited.2
          | streamClosed g m => exact awaited.2
        have reconnects : Shift r (.receives position) ⟨.reconnecting, true, r.told⟩ :=
          .reconnects free running
        rwa [← free.1] at reconnects
    · rw [standing_eq (session_receive_stale (r := taken) awaited) calls]
      exact .stays _

theorem shift_start {r : Rig Config Command TagValue} (free : r.IsFree) :
    Shift r .starts (r.command .start).standing := by
  have calls : (r.command .start).calls = r.calls := congrArg Prod.snd (ledger_obey r _)
  rw [standing_eq (session_start r) calls]
  split
  · rename_i closed
    have starts := Shift.starts free closed
    rwa [← free.1] at starts
  · exact .stays _

theorem shift_stop {r : Rig Config Command TagValue} (free : r.IsFree) :
    Shift r .stops r.beginStop.standing := by
  unfold beginStop
  rcases beginStop_free free with ⟨-, stop⟩ | ⟨restless, stop⟩
  · rw [stop]
    exact .stays _
  · rw [stop]
    have stops := Shift.stops free restless
    rwa [← free.1] at stops

/-- The end of a stop, by the way in which its callback ends. -/
theorem standing_tells {r : Rig Config Command TagValue} (stopping : r.IsStopping)
    (alone : r.tasks = []) : (r.live .tells).standing =
      if r.driver.stop.isPanicked then ⟨.closing, false, r.told + 1⟩
      else ⟨.closed, true, r.told + 1⟩ := by
  have once : (Invocation.stop :: r.calls).countP Invocation.isStop = r.told + 1 :=
    List.countP_cons_of_pos rfl
  rw [live, if_pos ⟨stopping, alone⟩, tellDriver, standing, told]
  cases r.driver.stop with
  | panicked message => simp [Outcome.isPanicked, once, stopping.2]
  | done value => simp [Outcome.isPanicked, once, stopping.1, Actor.endStop]
  | failed e => simp [Outcome.isPanicked, once, stopping.1, Actor.endStop]

theorem shift_tell {r : Rig Config Command TagValue} (stopping : r.IsStopping)
    (alone : r.tasks = []) : Shift r .tells (r.live .tells).standing := by
  rw [standing_tells stopping alone]
  cases panics : r.driver.stop.isPanicked with
  | true => exact .breaks stopping alone panics
  | false => exact .ends stopping alone panics

theorem live_shift {r : Rig Config Command TagValue} (active : ∀ t ∈ r.tasks, IsActive t.job)
    (m : Moment Config Command TagValue) : Shift r m (r.live m).standing := by
  have within : ∀ {P : Prop} [Decidable P] {r' : Rig Config Command TagValue},
      (P → Shift r m r'.standing) → Shift r m (if P then r' else r).standing := by
    intro P _ r' h'
    split
    · rename_i p; exact h' p
    · exact .stays m
  cases m with
  | starts => exact within shift_start
  | receives position => exact within fun free => shift_receive free position
  | stops => exact within shift_stop
  | drops position =>
    simp only [live, dropTask]
    split
    · exact .stays _
    · split
      · exact .stays _
      · exact .stays _
  | tells =>
    by_cases told : r.IsStopping ∧ r.tasks = []
    · exact shift_tell told.1 told.2
    · rw [live, if_neg told]
      exact .stays _
  | retires => exact within fun h => .retires h.1 h.2
  | forgets =>
    simp only [live]
    split
    · exact .stays _
    · exact .stays _
  | works id =>
    rw [live, shift_work active id]
    exact .stays _
  | elsewhere world timer => exact .stays _

end Rig
end Bench
end DeviceLink
