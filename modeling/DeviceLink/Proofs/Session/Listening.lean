import DeviceLink.Bench.Demo
import DeviceLink.Proofs.Session.Answers
import DeviceLink.Proofs.Session.Loading
/-!
# The listeners of a session

A listener of the rig is a task, which others can drop. What happens to it in a step is an event of
its own (`event`), and what is left of it after the step is what the event leaves (`step_holds`):
whoever else moves, it stays where it is, or it is dropped with all others (`step_keeps`,
`step_drops`). So along any schedule its deeds are those of a listener that serves (`run_serves`),
and they are done: what it takes, writes and reports comes out of its stream, goes into it, and
goes into the queue of the actor (`Performed`, `run_answers`).
-/
namespace DeviceLink.Bench.Rig

variable {Config Command TagValue : Type}

instance (t : Task Config Command TagValue) (work : Handling Config Command TagValue) :
    Decidable (IsOver t work) :=
  inferInstanceAs (Decidable (_ ∨ _ ∧ _))

/-- What happens to a listener when it makes its next step. -/
def nextEvent (r : Rig Config Command TagValue) (t : Task Config Command TagValue) :
    Option Listener.Event :=
  match t.job with
  | .listen _ i .waiting _ => (r.platform.take i).1.map fun item => .told (.arrived item)
  | .listen _ _ (.handling _) (some work) =>
    if IsOver t work then some (.told (.handled work.envelope.bytes)) else none
  | .listen _ i (.sending a) _ => (r.platform.write i a).1.map .told
  | .listen _ _ .closed _ | .listen _ _ .cancelled _ => some .leaves
  | _ => none

/-- What happens to a task in a step, whoever makes it. -/
def event (r : Rig Config Command TagValue) (id : Nat) (c : Choice Config Command TagValue) :
    Option Listener.Event :=
  match c with
  | .work other => if other = id then (r.find? id).bind r.nextEvent else none
  | c => if ((r.step c).find? id).isNone then some .dropped else none

def listener? (r : Rig Config Command TagValue) (id : Nat) : Option Listener :=
  match r.find? id with
  | some ⟨_, _, _, .listen _ _ l _⟩ => some l
  | _ => none

/-- What a listener does in a step. -/
def deeds (r : Rig Config Command TagValue) (id : Nat) (closing : Report Nat)
    (c : Choice Config Command TagValue) : List Deed :=
  (Listener.undergo? closing (r.listener? id) (r.event id c)).2

/-- What a listener does in a run. -/
def history (r : Rig Config Command TagValue) (id : Nat) (closing : Report Nat) :
    List (Choice Config Command TagValue) → List Deed
  | [] => []
  | c :: cs => r.deeds id closing c ++ (r.step c).history id closing cs

/-- The listener with this number serves this stream of its generation, or is gone. -/
def Holds (r : Rig Config Command TagValue) (id g : Nat) (m : Method) (i : Nat) :
    Option Listener → Prop
  | some l => ∃ timer work, r.find? id = some ⟨id, g, timer, .listen m i l work⟩
  | none => r.find? id = none

/-- What a listener does in a step of its own is done to its stream and to the queue of the actor,
and nothing else is. -/
structure Performed (r r' : Rig Config Command TagValue) (m : Method) (i : Nat) (ds : List Deed) :
    Prop where
  takes : ∀ item, .took item ∈ ds → r.platform.take i = (some item, r'.platform)
  handles : ∀ q payload, .handled q payload ∈ ds →
    ∃ d, payload = (Handling.begin d m q : Handling Config Command TagValue).envelope.bytes
  writes : ∀ a, .wrote a ∈ ds → r.platform.write i a = (some .written, r'.platform)
  refuses : ∀ a, .refused a ∈ ds → r.platform.write i a = (some .unwritten, r'.platform)
  reports : r'.reports = r.reports ++ Deed.posts ds
  rests : ds = [] → r'.platform = r.platform

/-- All that a step of a listener can do. -/
inductive ListenStep (r : Rig Config Command TagValue) (t : Task Config Command TagValue)
    (m : Method) (i : Nat) : Listener → Option Listener.Event → Rig Config Command TagValue → Prop
  | waits {l : Listener} {r' : Rig Config Command TagValue} (timer : Timer)
      (work : Option (Handling Config Command TagValue))
      (found : r'.find? t.id = some ⟨t.id, t.generation, timer, .listen m i l work⟩)
      (platform : r'.platform = r.platform) (reports : r'.reports = r.reports) :
      ListenStep r t m i l none r'
  | told {l : Listener} {input : ListenerInput} {r' : Rig Config Command TagValue}
      (uncancelled : input ≠ .cancelled)
      (found : r'.find? t.id =
        some ⟨t.id, t.generation, .idle, .listen m i (l.step input) none⟩)
      (performed : Performed r r' m i (l.deeds input)) :
      ListenStep r t m i l (some (.told input)) r'
  | leaves {r' : Rig Config Command TagValue} (found : r'.find? t.id = none)
      (reports : r'.reports = r.reports ++ [.streamClosed t.generation m]) :
      ListenStep r t m i .closed (some .leaves) r'

theorem find?_remove (r : Rig Config Command TagValue) (id : Nat) :
    (r.remove id).find? id = none := by
  unfold find? remove
  rw [List.find?_eq_none]
  intro t ht
  simpa using (List.mem_filter.1 ht).2

theorem find?_report (r : Rig Config Command TagValue) (e : Report Nat) (id : Nat) :
    (r.report e).find? id = r.find? id :=
  congrArg (fun s => s.tasks.find? fun t => t.id == id) (session_report r e)

/-- A pause leaves everything but the timer as it is. -/
theorem pause_waits (r : Rig Config Command TagValue) {t : Task Config Command TagValue}
    {m : Method} {i : Nat} {l : Listener} {work : Option (Handling Config Command TagValue)}
    (found : r.find? t.id = some t) (hj : t.job = .listen m i l work) (millis : Nat) :
    ListenStep r t m i l none (r.pause t millis).1 := by
  obtain ⟨id, g, timer, job⟩ := t
  cases hj
  unfold pause
  split
  · exact .waits .elapsed work (find?_put found rfl) rfl rfl
  · exact .waits (.pending (r.now + millis) r.nextTimer) work (find?_put found rfl) rfl rfl

theorem stepListen_step {r : Rig Config Command TagValue} {t : Task Config Command TagValue}
    {m : Method} {i : Nat} {l : Listener} {work : Option (Handling Config Command TagValue)}
    (found : r.find? t.id = some t) (hj : t.job = .listen m i l work) (active : IsActive t.job)
    (begun : IsBegun t.job) :
    ListenStep r t m i l (r.nextEvent t) (r.stepListen t m i l work).1 := by
  have stays : r.find? t.id = some ⟨t.id, t.generation, t.timer, .listen m i l work⟩ := by
    rw [found, ← hj]
  cases l with
  | waiting =>
    simp only [nextEvent, hj, stepListen]
    rcases htake : r.platform.take i with ⟨_ | item, platform⟩
    · exact .waits t.timer work stays rfl rfl
    · refine .told (by simp) (find?_put found rfl) ⟨?_, ?_, ?_, ?_, ?_, ?_⟩ <;>
        simp [Listener.deeds, Deed.posts, proceed, put, htake]
  | handling q =>
    cases work with
    | none =>
      simp only [nextEvent, hj, stepListen]
      exact .waits .idle _ (find?_put found rfl) rfl rfl
    | some work =>
      simp only [nextEvent, hj]
      by_cases isOver : IsOver t work
      · rw [if_pos isOver, stepListen_over r isOver]
        have hbegun : ∃ d, work = Handling.begin d m q := by
          rw [hj] at begun
          exact begun
        refine .told (by simp) (find?_put found rfl) ⟨?_, ?_, ?_, ?_, ?_, ?_⟩ <;>
          simp [Listener.deeds, Deed.posts, put]
        obtain ⟨d, rfl⟩ := hbegun
        exact ⟨d, rfl⟩
      · rw [if_neg isOver]
        simp only [stepListen]
        split
        · rename_i ht
          rw [if_neg fun hd => isOver (.inr ⟨ht, hd⟩)]
          exact pause_waits r found hj work.delay
        · rename_i ht
          exact absurd (.inl ht) isOver
        · exact .waits t.timer _ stays rfl rfl
  | sending a =>
    simp only [nextEvent, hj, stepListen]
    rcases hwrite : r.platform.write i a with ⟨_ | input, platform⟩
    · exact .waits t.timer work stays rfl rfl
    · rcases write_input (congrArg Prod.fst hwrite) with rfl | rfl <;>
        refine .told (by simp) (find?_put found rfl) ⟨?_, ?_, ?_, ?_, ?_, ?_⟩ <;>
        simp [Listener.deeds, Deed.posts, proceed, put, hwrite]
  | closed =>
    simp only [nextEvent, hj, stepListen]
    refine .leaves ?_ ?_
    · rw [find?_report]
      exact find?_remove _ _
    · exact congrArg Session.reports (session_report ((r.abandonAll [i]).remove t.id) _)
  | cancelled =>
    rw [hj] at active
    exact absurd rfl active

/-! ## What becomes of a task while others move -/

/-- The steps that drop all tasks. -/
def Drops (r : Rig Config Command TagValue) : Choice Config Command TagValue → Prop
  | .instruct .start => r.alive = true ∧ r.actor.state = .closed
  | .instruct .stop => r.alive = true ∧ r.actor.state.canBecome .closing = true
  | .receive position => r.alive = true ∧
      ∃ e, r.reports[position]? = some e ∧ Awaits r.actor e ∧ endedRole e ≠ .connect
  | _ => False

namespace Session

def find? (s : Session Config Command TagValue) (id : Nat) :
    Option (Task Config Command TagValue) :=
  s.tasks.find? fun t => t.id == id

theorem find?_spawnAll {s : Session Config Command TagValue} {id : Nat} (old : id < s.nextTask)
    (jobs : List (Job Config Command TagValue)) : (s.spawnAll jobs).find? id = s.find? id := by
  have new : (s.started s.nextTask jobs).find? (fun t => t.id == id) = none := by
    rw [List.find?_eq_none]
    intro t ht
    have := (mem_started ht).1
    simp only [beq_iff_eq]
    omega
  simp [find?, spawnAll, List.find?_append, new]

theorem find?_reconnect {s : Session Config Command TagValue} {id : Nat} (old : id < s.nextTask)
    (a : Actor) : (s.reconnect a).find? id = none :=
  find?_spawnAll (s := { s with actor := a, tasks := [] }) old _

/-- A task that moves leaves the others where they are. -/
theorem find?_other {s s' : Session Config Command TagValue} {t : Task Config Command TagValue}
    (work : TaskStep s t s') {id : Nat} (other : t.id ≠ id) : s'.find? id = s.find? id := by
  cases work with
  | waits => rfl
  | goesOn timer job role active begun =>
    have hid : ∀ u : Task Config Command TagValue,
        ((if u.id = t.id then { t with timer := timer, job := job } else u).id == id) =
          (u.id == id) := by
      intro u
      split
      · rename_i h; rw [h]
      · rfl
    simp only [find?, put, List.find?_map, Function.comp_def, hid]
    cases hu : s.tasks.find? fun u => u.id == id with
    | none => rfl
    | some u =>
      have hne : u.id ≠ t.id := by
        have : u.id = id := by simpa using List.find?_some hu
        exact fun h => other (h.symm.trans this)
      simp only [Option.map_some, if_neg hne]
  | ends e generation role complete =>
    simp only [find?, remove, report, List.find?_filter]
    congr 1
    funext u
    by_cases h : u.id = id
    · simp [h, other.symm]
    · simp [h]

end Session

theorem step_drops {r : Rig Config Command TagValue} {id : Nat} (old : id < r.nextTask)
    {c : Choice Config Command TagValue} (drops : Drops r c) : (r.step c).find? id = none := by
  show (r.step c).session.find? id = none
  cases c with
  | instruct i =>
    cases i with
    | start =>
      obtain ⟨alive, closed⟩ := drops
      rw [step, if_pos alive, session_start, if_pos closed]
      exact Session.find?_reconnect (s := r.session) old _
    | stop =>
      obtain ⟨alive, canStop⟩ := drops
      rw [step, if_pos alive, command]
      rcases stopSession_cases r with ⟨cannot, -⟩ | ⟨-, state, alive', -, hr⟩
      · rw [cannot] at canStop
        cases canStop
      · rw [hr]
        rfl
  | receive position =>
    obtain ⟨alive, e, queued, awaited, failure⟩ := drops
    have hstep : r.step (.receive position) =
        { r with reports := r.reports.eraseIdx position }.receive e := by
      simp only [step, alive, queued]
    rw [hstep, session_receive_failure (r := { r with reports := r.reports.eraseIdx position })
      awaited failure]
    exact Session.find?_reconnect
      (s := ({ r with reports := r.reports.eraseIdx position } :
        Rig Config Command TagValue).session) old _
  | work j => exact drops.elim
  | elsewhere world timer => exact drops.elim

/-- Nobody but the task itself, and who drops all tasks, changes more of it than its timer. -/
theorem step_keeps {r : Rig Config Command TagValue} {id : Nat} (old : id < r.nextTask)
    {c : Choice Config Command TagValue} (keeps : ¬ Drops r c) (idle : ∀ j, c ≠ .work j) :
    ∃ timer : Task Config Command TagValue → Timer,
      (r.step c).find? id = (r.find? id).map fun t => { t with timer := timer t } := by
  have same : ∀ r' : Rig Config Command TagValue, r'.session.find? id = r.session.find? id →
      ∃ timer : Task Config Command TagValue → Timer,
        r'.find? id = (r.find? id).map fun t => { t with timer := timer t } := by
    intro r' h
    refine ⟨Task.timer, ?_⟩
    rw [show r'.find? id = r.find? id from h]
    cases r.find? id <;> rfl
  cases c with
  | instruct i =>
    refine same _ ?_
    rw [step]
    split
    · rename_i alive
      cases i with
      | start => rw [session_start, if_neg fun closed => keeps ⟨alive, closed⟩]
      | stop =>
        rcases stopSession_cases r with ⟨-, hr⟩ | ⟨canStop, -⟩
        · rw [command, hr]
        · exact absurd ⟨alive, canStop⟩ keeps
    · rfl
  | receive position =>
    refine same _ ?_
    simp only [step]
    split
    · rename_i e alive queued
      by_cases awaited : Awaits r.actor e
      · cases e with
        | opened g streams =>
          rw [session_receive_opened (r := { r with reports := r.reports.eraseIdx position })
            awaited]
          exact Session.find?_spawnAll (s := ⟨{ r.actor with state := .running }, r.alive,
            r.tasks, r.reports.eraseIdx position, r.nextTask⟩) old _
        | healthFailed g reason =>
          exact absurd ⟨alive, _, queued, awaited, by simp [endedRole]⟩ keeps
        | streamClosed g m => exact absurd ⟨alive, _, queued, awaited, by simp [endedRole]⟩ keeps
      · rw [session_receive_stale (r := { r with reports := r.reports.eraseIdx position })
          awaited]
        rfl
    · rfl
  | work j => exact absurd rfl (idle j)
  | elsewhere world timer =>
    refine ⟨timer, ?_⟩
    show (r.tasks.map _).find? _ = _
    rw [List.find?_map]
    rfl

/-! ## Runs -/

theorem listener?_of_holds {r : Rig Config Command TagValue} {id g i : Nat} {m : Method}
    {l? : Option Listener} (h : Holds r id g m i l?) : r.listener? id = l? := by
  cases l? with
  | none =>
    have h : r.find? id = none := h
    simp only [listener?, h]
  | some l =>
    obtain ⟨timer, work, h⟩ := h
    simp only [listener?, h]

theorem own_step {r : Rig Config Command TagValue} (regular : r.session.Regular) {id g i : Nat}
    {m : Method} {timer : Timer} {l : Listener}
    {work : Option (Handling Config Command TagValue)}
    (found : r.find? id = some ⟨id, g, timer, .listen m i l work⟩) :
    ListenStep r ⟨id, g, timer, .listen m i l work⟩ m i l (r.event id (.work id))
      (r.step (.work id)) := by
  have mem := (find?_mem found).1
  have hstep := stepListen_step (t := ⟨id, g, timer, .listen m i l work⟩) found rfl
    (regular.active _ mem) (regular.begun _ mem)
  simpa only [event, step, found, if_true, Option.bind_some, stepTask] using hstep

theorem event_idle (r : Rig Config Command TagValue) (id : Nat)
    {c : Choice Config Command TagValue} (idle : ∀ j, c ≠ .work j) :
    r.event id c = if ((r.step c).find? id).isNone then some .dropped else none := by
  cases c with
  | work j => exact absurd rfl (idle j)
  | instruct i => rfl
  | receive position => rfl
  | elsewhere world timer => rfl

/-- A listener, or its absence, after a step that no task makes. -/
theorem holds_idle {r : Rig Config Command TagValue} {id g i : Nat} {m : Method}
    (old : id < r.nextTask) {l? : Option Listener} (h : Holds r id g m i l?) (closing : Report Nat)
    {c : Choice Config Command TagValue} (idle : ∀ j, c ≠ .work j) :
    Holds (r.step c) id g m i (Listener.undergo? closing l? (r.event id c)).1 := by
  rw [event_idle r id idle]
  by_cases drops : Drops r c
  · have gone := step_drops old drops
    have dropped : (Listener.undergo? closing l? (some .dropped)).1 = none := by
      rcases l? with _ | _ | _ | _ | _ | _ <;> rfl
    rw [gone, Option.isNone_none, if_pos rfl, dropped]
    exact gone
  · obtain ⟨timer, hkeeps⟩ := step_keeps old drops idle
    cases l? with
    | none =>
      have gone : r.find? id = none := h
      rw [gone] at hkeeps
      exact hkeeps
    | some l =>
      obtain ⟨before, work, found⟩ := h
      rw [found] at hkeeps
      rw [hkeeps]
      exact ⟨_, work, hkeeps⟩

theorem holds_own {r : Rig Config Command TagValue} (regular : r.session.Regular) {id g i : Nat}
    {m : Method} {l? : Option Listener} (h : Holds r id g m i l?) (closing : Report Nat) :
    Holds (r.step (.work id)) id g m i
      (Listener.undergo? closing l? (r.event id (.work id))).1 := by
  cases l? with
  | none =>
    have gone : r.find? id = none := h
    simp [Listener.undergo?, Holds, step, gone]
  | some l =>
    obtain ⟨before, work, found⟩ := h
    have hstep := own_step regular found
    generalize r.event id (.work id) = event?, r.step (.work id) = r' at hstep ⊢
    cases hstep with
    | waits timer work found => exact ⟨timer, work, found⟩
    | told uncancelled found performed => exact ⟨_, _, found⟩
    | leaves found reports => exact found

/-- The step of a task leaves the others where they are. -/
theorem find?_work {r : Rig Config Command TagValue} (regular : r.session.Regular) {id j : Nat}
    (other : j ≠ id) : (r.step (.work j)).find? id = r.find? id := by
  simp only [step]
  cases ht : r.find? j with
  | none => rfl
  | some t =>
    obtain ⟨mem, rfl⟩ := find?_mem ht
    exact Session.find?_other (stepTask_cases r (regular.active t mem)) other

theorem holds_other {r : Rig Config Command TagValue} (regular : r.session.Regular) {id g i : Nat}
    {m : Method} {l? : Option Listener} (h : Holds r id g m i l?) {j : Nat} (other : j ≠ id) :
    Holds (r.step (.work j)) id g m i l? := by
  have same : (r.step (.work j)).find? id = r.find? id := find?_work regular other
  cases l? with
  | none => exact same.trans h
  | some l =>
    obtain ⟨timer, work, found⟩ := h
    exact ⟨timer, work, same.trans found⟩

/-- A listener, or its absence, after one step of anybody. -/
theorem step_holds {r : Rig Config Command TagValue} (regular : r.session.Regular)
    {id g i : Nat} {m : Method} (old : id < r.nextTask) {l? : Option Listener}
    (h : Holds r id g m i l?) (closing : Report Nat) (c : Choice Config Command TagValue) :
    Holds (r.step c) id g m i (Listener.undergo? closing l? (r.event id c)).1 := by
  by_cases idle : ∀ j, c ≠ .work j
  · exact holds_idle old h closing idle
  · obtain ⟨j, rfl⟩ : ∃ j, c = .work j := by simpa using idle
    by_cases own : j = id
    · subst own
      exact holds_own regular h closing
    · have nothing : r.event id (.work j) = none := if_neg own
      rw [nothing]
      cases l? <;> exact holds_other regular h own

theorem SessionStep.nextTask_le {s s' : Session Config Command TagValue} (step : SessionStep s s') :
    s.nextTask ≤ s'.nextTask := by
  cases step with
  | worked mem work => cases work <;> exact Nat.le_refl _
  | started closed => exact Nat.le_add_right _ _
  | served queued awaited => exact Nat.le_add_right _ _
  | failed queued awaited failure => exact Nat.le_add_right _ _
  | _ => exact Nat.le_refl _

theorem step_old {r : Rig Config Command TagValue} (regular : r.session.Regular) {id : Nat}
    (old : id < r.nextTask) (c : Choice Config Command TagValue) : id < (r.step c).nextTask :=
  Nat.lt_of_lt_of_le old (step_cases regular.active c).nextTask_le

/-- Whatever becomes of a listener in a run, it can become of a listener. -/
theorem run_serves (closing : Report Nat) {id g i : Nat} {m : Method}
    (cs : List (Choice Config Command TagValue)) :
    ∀ {r : Rig Config Command TagValue} {l? : Option Listener} {ds : List Deed},
      r.session.Regular → id < r.nextTask → Holds r id g m i l? → Serves closing l? ds →
      ∃ l?', Holds (r.run cs) id g m i l?' ∧
        Serves closing l?' (ds ++ r.history id closing cs) := by
  induction cs with
  | nil =>
    intro r l? ds regular old holds served
    exact ⟨l?, holds, by simpa [history] using served⟩
  | cons c cs ih =>
    intro r l? ds regular old holds served
    have next := ih (step_regular r c regular) (step_old regular old c)
      (step_holds regular old holds closing c) (served.undergoes? (r.event id c))
    rw [run_cons, history, deeds, listener?_of_holds holds, ← List.append_assoc]
    exact next

/-- The deeds of a listener's own step are done. -/
theorem own_performed {r : Rig Config Command TagValue} (regular : r.session.Regular) {id g i : Nat}
    {m : Method} {timer : Timer} {l : Listener}
    {work : Option (Handling Config Command TagValue)}
    (found : r.find? id = some ⟨id, g, timer, .listen m i l work⟩) :
    Performed r (r.step (.work id)) m i (r.deeds id (.streamClosed g m) (.work id)) := by
  have hstep := own_step regular found
  have holds : Holds r id g m i (some l) := ⟨timer, work, found⟩
  rw [deeds, listener?_of_holds holds]
  generalize r.event id (.work id) = event?, r.step (.work id) = r' at hstep ⊢
  cases hstep with
  | waits timer work found platform reports =>
    refine ⟨?_, ?_, ?_, ?_, ?_, ?_⟩ <;> simp [Listener.undergo?, Deed.posts, platform, reports]
  | told uncancelled found performed => exact performed
  | leaves found reports =>
    refine ⟨?_, ?_, ?_, ?_, ?_, ?_⟩ <;>
      simp [Listener.undergo?, Listener.undergo, Deed.posts, reports]

/-- **One answer for each request**, in order. Whatever a listener is told and wherever it is
dropped, it owes nothing to its stream beyond what `OneAnswerEach` allows; one that nobody disturbs
answers everything up to the end, and reports that. Whatever a session comes to, its listeners are
such listeners, and their deeds are what they do to their streams and to the queue of the actor. -/
theorem run_answers (driver : Driver Config Command TagValue) (settings : SessionSettings)
    (identity : Identity) (pipeline : Pipeline)
    (before after : List (Choice Config Command TagValue)) {id g i : Nat} {m : Method}
    {timer : Timer} {work : Option (Handling Config Command TagValue)}
    (found : ((initial driver settings identity pipeline).run before).find? id =
      some ⟨id, g, timer, .listen m i .waiting work⟩) :
    let r := (initial driver settings identity pipeline).run before
    let closing := Report.streamClosed g m
    (∀ l? ds inbound, Serves closing l? ds → Deed.items ds <+: inbound →
      OneAnswerEach inbound closing l? ds) ∧
    (∀ (hs : List (Request × Bytes)) (item : Inbound), (∀ q, item ≠ .request q) →
      Serves closing none (hs.flatMap whole ++ [.took item, .posted closing])) ∧
    Serves closing ((r.run after).listener? id) (r.history id closing after) ∧
    ∀ l, (r.run after).listener? id = some l →
      Performed (r.run after) ((r.run after).step (.work id)) m i
        ((r.run after).deeds id closing (.work id)) := by
  intro r closing
  have regular : r.session.Regular := run_regular (regular_nil rfl) before
  have old : id < r.nextTask := regular.fresh _ (find?_mem found).1
  have waiting : Holds r id g m i (some .waiting) := ⟨timer, work, found⟩
  obtain ⟨l?, holds, served⟩ := run_serves closing after regular old waiting .begins
  rw [List.nil_append] at served
  rw [listener?_of_holds holds]
  refine ⟨fun l? ds inbound h taken => h.oneAnswerEach taken, fun hs item last => ?_, served, ?_⟩
  · simpa using Serves.begins.undisturbed last hs
  · rintro l rfl
    obtain ⟨timer, work, found⟩ := holds
    exact own_performed (run_regular regular after) found

/-! ### A session that serves -/

/-- Starts a session whose streams open at once. -/
def opening : List (Choice Config Command TagValue) :=
  .instruct .start :: List.replicate 6 (.work 0) ++ [.receive 0]

/-- The platform sends a request. -/
def sends (r : Rig Config Command TagValue) (m : Method) (q : Request) :
    Choice Config Command TagValue :=
  .elsewhere { r with platform := (r.platform.push m (.request q)).2 } Task.timer

def demo (driver : Driver DemoConfig DemoCommand Json) : Rig DemoConfig DemoCommand Json :=
  initial driver .standard ⟨"project", "driver", "name", "service"⟩ ⟨[]⟩

/-- One request to the listener for schemas, which is task 2 and has stream 1. -/
theorem run_answers_schema :
    let r := (demo DemoForm.basic.driver).run opening
    let q : Request := ⟨"schema-1", "", "", [], []⟩
    let after := r.sends .schema q :: List.replicate 4 (.work 2)
    (∃ timer work, r.find? 2 = some ⟨2, 1, timer, .listen .schema 1 .waiting work⟩) ∧
    (∃ payload, r.history 2 (.streamClosed 1 .schema) after = whole (q, payload)) ∧
    Serves (.streamClosed 1 .schema) ((r.run after).listener? 2)
      (r.history 2 (.streamClosed 1 .schema) after) := by
  intro r q after
  have found : r.find? 2 = some ⟨2, 1, .idle, .listen .schema 1 .waiting none⟩ := rfl
  exact ⟨⟨_, _, found⟩, ⟨_, rfl⟩, (run_answers _ _ _ _ opening after found).2.2.1⟩

end DeviceLink.Bench.Rig
