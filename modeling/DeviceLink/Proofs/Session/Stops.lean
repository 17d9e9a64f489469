import DeviceLink.Proofs.Session.Listening
import DeviceLink.Proofs.Session.Moments
/-!
# Stops

A stop can meet a session in any phase, and it takes its time. From the moment on in which it
begins the session is closing: tasks may still work, but no task begins any more, and the driver
is told only when the last one is gone; then the session is closed (`UnderWay`, `Over`). What is
queued meanwhile, or later, does not open it again: only a start does.

Over a whole run the driver is told exactly as often as the session is closed, and that is as often
as it was opened, or once less while it is open (`run_stops`). Where a stop callback breaks off
this ends; the accounts that every moment keeps (`Shift.accounts`) have a place for that too.
-/
namespace DeviceLink.Bench.Rig

variable {Config Command TagValue : Type}

/-! ## Stop callbacks -/

/-- The driver is told of a stop in this moment, and breaks off. -/
def stopBreaks (r : Rig Config Command TagValue) : Moment Config Command TagValue → Bool
  | .tells => decide (r.IsStopping ∧ r.tasks = []) && r.driver.stop.isPanicked
  | _ => false

/-- Whenever the driver is told of a stop in a run, its callback returns. -/
def stopReturns (r : Rig Config Command TagValue) : List (Moment Config Command TagValue) → Bool
  | [] => true
  | m :: ms => !r.stopBreaks m && (r.live m).stopReturns ms

/-! ## A stop under way -/

/-- A stop that began in `r` is not over. -/
structure UnderWay (r r' : Rig Config Command TagValue) : Prop where
  stopping : r'.IsStopping
  untold : r'.told = r.told
  nobodyNew : (r'.tasks.map Task.id).Sublist (r.tasks.map Task.id)

/-- A stop that began in `r` is over. -/
structure Over (r r' : Rig Config Command TagValue) : Prop where
  closed : r'.actor.state = .closed
  alive : r'.alive = true
  alone : r'.tasks = []
  told : r'.told = r.told + 1

theorem TaskStep.nobodyNew {s s' : Session Config Command TagValue}
    {t : Task Config Command TagValue} (h : TaskStep s t s') :
    (s'.tasks.map Task.id).Sublist (s.tasks.map Task.id) := by
  cases h with
  | waits => exact List.Sublist.refl _
  | goesOn timer job role active begun =>
    have same : (s.put { t with timer := timer, job := job }).tasks.map Task.id =
        s.tasks.map Task.id := by
      rw [Session.put, List.map_map]
      refine List.map_congr_left fun u _ => ?_
      simp only [Function.comp_def]
      split
      · rename_i own; exact own.symm
      · rfl
    rw [same]
  | ends e generation role complete => exact List.filter_sublist.map _

/-- Nobody begins to work but by a start or a report, and then for an actor that is free. -/
theorem live_nobodyNew {r : Rig Config Command TagValue}
    (active : ∀ t ∈ r.tasks, IsActive t.job) {m : Moment Config Command TagValue}
    (calm : r.IsFree → m ≠ .starts ∧ ∀ position, m ≠ .receives position) :
    ((r.live m).tasks.map Task.id).Sublist (r.tasks.map Task.id) := by
  have same : ∀ {r' : Rig Config Command TagValue}, r'.tasks = r.tasks →
      (r'.tasks.map Task.id).Sublist (r.tasks.map Task.id) := fun tasks => by rw [tasks]
  have within : ∀ {P : Prop} [Decidable P] {r' : Rig Config Command TagValue},
      (P → r'.tasks = r.tasks) →
        ((if P then r' else r).tasks.map Task.id).Sublist (r.tasks.map Task.id) := by
    intro P _ r' h
    split
    · rename_i p; exact same (h p)
    · exact same rfl
  cases m with
  | starts => exact within fun free => absurd rfl (calm free).1
  | receives position => exact within fun free => absurd rfl ((calm free).2 position)
  | stops =>
    refine within fun free => ?_
    unfold beginStop
    split <;> rfl
  | retires => exact within fun _ => rfl
  | drops position =>
    simp only [live, dropTask]
    split
    · exact same rfl
    · split
      · exact (List.eraseIdx_sublist ..).map _
      · exact same rfl
  | tells =>
    refine within fun told => ?_
    unfold tellDriver
    split <;> rfl
  | forgets =>
    simp only [live]
    split
    · exact same rfl
    · exact same rfl
  | works id =>
    rcases work_cases active id with hr | ⟨t, mem, work⟩
    · rw [live, hr]
    · exact work.nobodyNew
  | elsewhere world timer =>
    have ids : (r.live (.elsewhere world timer)).tasks.map Task.id = r.tasks.map Task.id := by
      simp [live, step, surround]
    rw [ids]

theorem UnderWay.busy {r r' : Rig Config Command TagValue} (h : UnderWay r r') : ¬ r'.IsFree :=
  fun free => free.2 h.stopping.2

/-- The next moment of a stop: it goes on, or it was the last one. -/
theorem UnderWay.live {r r' : Rig Config Command TagValue} (fit : r'.session.Fit)
    (h : UnderWay r r') (m : Moment Config Command TagValue) (returns : r'.stopBreaks m = false) :
    UnderWay r (r'.live m) ∨ m = .tells ∧ r'.tasks = [] ∧ Over r (r'.live m) := by
  have calm : r'.IsFree → m ≠ .starts ∧ ∀ position, m ≠ .receives position :=
    fun free => absurd free h.busy
  have nobodyNew := live_nobodyNew fit.regular.active calm
  have shift := live_shift fit.regular.active m
  generalize shown : (r'.live m).standing = s at shift
  have state : (r'.live m).actor.state = s.state := congrArg Standing.state shown
  have alive : (r'.live m).alive = s.alive := congrArg Standing.alive shown
  have told : (r'.live m).told = s.told := congrArg Standing.told shown
  cases shift with
  | stays m =>
    exact .inl ⟨⟨alive.trans h.stopping.1, state.trans h.stopping.2⟩, told.trans h.untold,
      nobodyNew.trans h.nobodyNew⟩
  | starts free closed => exact absurd free h.busy
  | serves free opening => exact absurd free h.busy
  | reconnects free running => exact absurd free h.busy
  | stops free restless => exact absurd free h.busy
  | retires free abandoned => exact absurd free h.busy
  | ends stopping alone returns =>
    rw [alone] at nobodyNew
    have next : (r'.live .tells).tasks = [] := List.map_eq_nil_iff.1 (List.sublist_nil.1 nobodyNew)
    exact .inr ⟨rfl, alone, state, alive, next, by rw [told, h.untold]⟩
  | breaks stopping alone panics =>
    simp [stopBreaks, stopping, alone, panics] at returns

theorem underWay_lives {r : Rig Config Command TagValue}
    (meanwhile : List (Moment Config Command TagValue)) :
    ∀ {r' : Rig Config Command TagValue}, r'.session.Fit → UnderWay r r' →
      r'.stopReturns meanwhile = true →
      UnderWay r (r'.lives meanwhile) ∨
        ∃ before after, meanwhile = before ++ .tells :: after ∧ UnderWay r (r'.lives before) ∧
          (r'.lives before).tasks = [] ∧ Over r (r'.lives (before ++ [.tells])) := by
  induction meanwhile with
  | nil => intro r' fit h returns; exact .inl h
  | cons m meanwhile ih =>
    intro r' fit h returns
    simp only [stopReturns, Bool.and_eq_true, Bool.not_eq_true'] at returns
    rcases h.live fit m returns.1 with next | ⟨rfl, alone, over'⟩
    · rcases ih (live_fit fit m) next returns.2 with last | ⟨before, after, rfl, h', alone, over'⟩
      · exact .inl last
      · exact .inr ⟨m :: before, after, rfl, h', alone, over'⟩
    · exact .inr ⟨[], meanwhile, rfl, h, alone, over'⟩

/-- A stop is over once its tasks are gone and the driver is told. -/
theorem UnderWay.ends {r r' : Rig Config Command TagValue} (h : UnderWay r r')
    (returns : r'.driver.stop.isPanicked = false) :
    Over r (r'.lives (List.replicate r'.tasks.length (.drops 0) ++ [.tells])) := by
  have stopping : r'.dropTasks.IsStopping := h.stopping
  have returns : r'.dropTasks.driver.stop.isPanicked = false := returns
  have shown := standing_tells stopping rfl
  rw [returns] at shown
  rw [lives_append, lives_drops r'.tasks rfl h.busy, lives_cons, lives_nil]
  have alone : (r'.dropTasks.live .tells).tasks = [] := by
    rw [Rig.live, if_pos ⟨stopping, rfl⟩, tellDriver]
    split <;> rfl
  have told : (r'.dropTasks.live .tells).told = r'.told + 1 := congrArg Standing.told shown
  exact ⟨congrArg Standing.state shown, congrArg Standing.alive shown, alone,
    told.trans (congrArg (· + 1) h.untold)⟩

theorem live_stops {r : Rig Config Command TagValue} (free : r.IsFree)
    (restless : r.actor.state ≠ .closed) :
    r.live .stops = { r with actor := ⟨.closing, r.actor.generation, true⟩ } := by
  rcases beginStop_free free with ⟨closed, -⟩ | ⟨-, stop⟩
  · exact absurd closed restless
  · rw [live, if_pos free, beginStop, stop]

theorem underWay_stops {r : Rig Config Command TagValue} (free : r.IsFree)
    (restless : r.actor.state ≠ .closed) : UnderWay r (r.live .stops) := by
  rw [live_stops free restless]
  exact ⟨⟨free.1, rfl⟩, rfl, List.Sublist.refl _⟩

/-! ## A closed session -/

theorem not_awaits_of_closed {a : Actor} (closed : a.state = .closed) (e : Report Nat) :
    ¬ Awaits a e := by
  rintro ⟨-, awaited⟩
  rw [closed] at awaited
  cases e with
  | opened g streams => rcases awaited with h | h <;> cases h
  | healthFailed g reason => cases awaited
  | streamClosed g m => cases awaited

/-- Only a start opens a closed session, whatever is queued. -/
theorem live_closed {r : Rig Config Command TagValue} (closed : r.actor.state = .closed)
    (alone : r.tasks = []) {m : Moment Config Command TagValue} (idle : m ≠ .starts) :
    (r.live m).actor.state = .closed ∧ (r.live m).tasks = [] ∧ (r.live m).told = r.told := by
  have active : ∀ t ∈ r.tasks, IsActive t.job := by simp [alone]
  have tasks : (r.live m).tasks = [] := by
    by_cases report : ∃ position, m = .receives position
    · obtain ⟨position, rfl⟩ := report
      simp only [live, step]
      split
      · split
        · rename_i e _ queued
          have stale := session_receive_stale
            (r := { r with reports := r.reports.eraseIdx position }) (not_awaits_of_closed closed e)
          exact (congrArg Session.tasks stale).trans alone
        · exact alone
      · exact alone
    · have nobodyNew := live_nobodyNew active fun _ => ⟨idle, not_exists.1 report⟩
      rw [alone] at nobodyNew
      exact List.map_eq_nil_iff.1 (List.sublist_nil.1 nobodyNew)
  have shift := live_shift active m
  generalize shown : (r.live m).standing = s at shift
  have state : (r.live m).actor.state = s.state := congrArg Standing.state shown
  have told : (r.live m).told = s.told := congrArg Standing.told shown
  rw [state, told]
  cases shift with
  | stays m => exact ⟨closed, tasks, rfl⟩
  | starts free closed => exact absurd rfl idle
  | serves free opening => rw [closed] at opening; rcases opening with h | h <;> cases h
  | reconnects free running => rw [closed] at running; cases running
  | stops free restless => exact absurd closed restless
  | ends stopping alone returns => have h := stopping.2; rw [closed] at h; cases h
  | breaks stopping alone panics => have h := stopping.2; rw [closed] at h; cases h
  | retires free abandoned => exact ⟨closed, tasks, rfl⟩

theorem lives_closed (later : List (Moment Config Command TagValue)) (idle : .starts ∉ later) :
    ∀ {r : Rig Config Command TagValue}, r.actor.state = .closed → r.tasks = [] →
      (r.lives later).actor.state = .closed ∧ (r.lives later).tasks = [] ∧
        (r.lives later).told = r.told := by
  induction later with
  | nil => intro r closed alone; exact ⟨closed, alone, rfl⟩
  | cons m later ih =>
    intro r closed alone
    rw [List.mem_cons, not_or] at idle
    obtain ⟨closed', alone', told'⟩ := live_closed closed alone fun h => idle.1 h.symm
    obtain ⟨closed'', alone'', told''⟩ := ih idle.2 closed' alone'
    exact ⟨closed'', alone'', told''.trans told'⟩

/-! ## Accounts -/

/-- The states before and after each moment of a run. -/
def passages (r : Rig Config Command TagValue) :
    List (Moment Config Command TagValue) → List (SessionState × SessionState)
  | [] => []
  | m :: ms => (r.actor.state, (r.live m).actor.state) :: (r.live m).passages ms

/-- How often a session becomes closed that was not. -/
def closings (ps : List (SessionState × SessionState)) : Nat :=
  ps.countP fun p => decide (p.1 ≠ .closed ∧ p.2 = .closed)

/-- How often a closed session begins to connect. -/
def openings (ps : List (SessionState × SessionState)) : Nat :=
  ps.countP fun p => decide (p.1 = .closed ∧ p.2 = .connecting)

namespace Standing

/-- A stop that is not over although the driver was told of it. -/
def broken (s : Standing) : Nat := if s.alive = false ∧ s.state = .closing then 1 else 0

/-- A session that is yet to be closed. -/
def pending (s : Standing) : Nat := if s.state = .closed then 0 else 1

end Standing

theorem closings_cons (p : SessionState × SessionState) (ps : List (SessionState × SessionState)) :
    closings (p :: ps) = closings [p] + closings ps := by
  rw [closings, ← List.singleton_append, List.countP_append, closings, closings]

theorem openings_cons (p : SessionState × SessionState) (ps : List (SessionState × SessionState)) :
    openings (p :: ps) = openings [p] + openings ps := by
  rw [openings, ← List.singleton_append, List.countP_append, openings, openings]

theorem same_passage (state : SessionState) :
    closings [(state, state)] = 0 ∧ openings [(state, state)] = 0 := by
  cases state <;> exact ⟨rfl, rfl⟩

/-- The driver is told once when a session is closed, and a session is closed once after it was
opened. -/
theorem Shift.accounts {r : Rig Config Command TagValue} {m : Moment Config Command TagValue}
    {s : Standing} (h : Shift r m s) :
    s.told + r.standing.broken = r.told + closings [(r.actor.state, s.state)] + s.broken ∧
      s.pending + closings [(r.actor.state, s.state)] =
        r.standing.pending + openings [(r.actor.state, s.state)] := by
  obtain ⟨closes, opens⟩ := same_passage r.actor.state
  cases h with
  | stays m =>
    show r.told + r.standing.broken = r.told + closings [(r.actor.state, r.actor.state)] + _ ∧
      _ + closings [(r.actor.state, r.actor.state)] = _ + openings [(r.actor.state, r.actor.state)]
    rw [closes, opens]
    exact ⟨rfl, rfl⟩
  | retires free abandoned =>
    have whole : r.standing.broken = 0 := by simp [Standing.broken, standing, free.1]
    have whole' : Standing.broken ⟨r.actor.state, false, r.told⟩ = 0 := by
      simp [Standing.broken, free.2]
    rw [closes, opens, whole, whole']
    exact ⟨rfl, rfl⟩
  | starts free closed =>
    simp [Standing.broken, Standing.pending, standing, closings, openings, closed]
  | serves free opening =>
    rcases opening with hs | hs <;>
      simp [Standing.broken, Standing.pending, standing, closings, openings, hs]
  | reconnects free running =>
    simp [Standing.broken, Standing.pending, standing, closings, openings, running]
  | stops free restless =>
    simp [Standing.broken, Standing.pending, standing, closings, openings, restless, free.1]
  | ends stopping alone returns =>
    simp [Standing.broken, Standing.pending, standing, closings, openings, stopping.1, stopping.2]
  | breaks stopping alone panics =>
    simp [Standing.broken, Standing.pending, standing, closings, openings, stopping.1, stopping.2]

theorem lives_accounts (ms : List (Moment Config Command TagValue)) :
    ∀ {r : Rig Config Command TagValue}, r.session.Fit →
      (r.lives ms).told + r.standing.broken =
          r.told + closings (r.passages ms) + (r.lives ms).standing.broken ∧
        (r.lives ms).standing.pending + closings (r.passages ms) =
          r.standing.pending + openings (r.passages ms) := by
  induction ms with
  | nil => intro r fit; exact ⟨rfl, rfl⟩
  | cons m ms ih =>
    intro r fit
    obtain ⟨told, pending⟩ := (live_shift fit.regular.active m).accounts
    obtain ⟨told', pending'⟩ := ih (live_fit fit m)
    rw [lives_cons, passages, closings_cons, openings_cons]
    have state : (r.live m).standing.state = (r.live m).actor.state := rfl
    have shown : (r.live m).standing.told = (r.live m).told := rfl
    rw [state, shown] at told
    rw [state] at pending
    omega

/-- As long as stop callbacks return, the driver knows of no stop that is not over. -/
theorem lives_whole (ms : List (Moment Config Command TagValue)) :
    ∀ {r : Rig Config Command TagValue}, r.session.Fit → r.stopReturns ms = true →
      r.standing.broken = 0 → (r.lives ms).standing.broken = 0 := by
  induction ms with
  | nil => intro r fit returns whole; exact whole
  | cons m ms ih =>
    intro r fit returns whole
    simp only [stopReturns, Bool.and_eq_true, Bool.not_eq_true'] at returns
    refine ih (live_fit fit m) returns.2 ?_
    have shift := live_shift fit.regular.active m
    generalize (r.live m).standing = s at shift
    cases shift with
    | stays m => exact whole
    | retires free abandoned => simp [Standing.broken, free.2]
    | breaks stopping alone panics => simp [stopBreaks, stopping, alone, panics] at returns
    | _ => rfl

/-! ## Every run -/

/-- What a stop comes to, whenever it meets the session. -/
structure StopsWhole (r : Rig Config Command TagValue) : Prop where
  /-- Where there is nothing to stop, nothing changes. -/
  idle : r.actor.state = .closed →
    r.tasks = [] ∧ r.live .stops = r ∧ r.step (.instruct .stop) = r
  begins : r.IsFree → r.actor.state ≠ .closed → UnderWay r (r.live .stops)
  /-- Whatever happens meanwhile, it goes on until nobody is left and the driver is told. -/
  lasts : r.IsFree → r.actor.state ≠ .closed → ∀ meanwhile,
    (r.live .stops).stopReturns meanwhile = true →
      UnderWay r ((r.live .stops).lives meanwhile) ∨
        ∃ before after, meanwhile = before ++ .tells :: after ∧
          UnderWay r ((r.live .stops).lives before) ∧
          ((r.live .stops).lives before).tasks = [] ∧
          Over r ((r.live .stops).lives (before ++ [.tells]))
  /-- It can always be brought to its end, -/
  ends : ∀ r', UnderWay r r' → r'.driver.stop.isPanicked = false →
    Over r (r'.lives (List.replicate r'.tasks.length (.drops 0) ++ [.tells]))
  /-- and the rig does so at once. -/
  atOnce : r.IsFree → r.actor.state ≠ .closed → r.driver.stop.isPanicked = false →
    Over r (r.step (.instruct .stop))
  /-- Afterwards only a start opens the session, whatever anybody has reported. -/
  rests : r.actor.state = .closed → ∀ reports later, .starts ∉ later →
    let r' := ({ r with reports := reports } : Rig Config Command TagValue).lives later
    r'.actor.state = .closed ∧ r'.tasks = [] ∧ r'.told = r.told
  restarts : r.actor.state = .closed → r.alive = true →
    (r.live .starts).actor.state = .connecting

theorem Session.Fit.stopsWhole {r : Rig Config Command TagValue} (fit : r.session.Fit) :
    r.StopsWhole := by
  constructor
  · intro closed
    have nothing : r.actor.beginStop = none := by
      rw [Actor.beginStop, closed]
      rfl
    refine ⟨fit.orderly.resting closed, ?_, ?_⟩
    · have same : r.beginStop = r := by rw [beginStop, nothing]
      rw [live, same, ite_self]
    · have same : r.command .stop = r := by rw [command, stopSession, nothing]
      rw [Rig.step, same, ite_self]
  · exact underWay_stops
  · intro free restless meanwhile returns
    exact underWay_lives meanwhile (live_fit fit .stops) (underWay_stops free restless) returns
  · intro r' h returns
    exact h.ends returns
  · intro free restless returns
    have begins := underWay_stops free restless
    rw [stop_eq_lives free, List.cons_append, lives_cons]
    rw [live_stops free restless] at begins ⊢
    exact begins.ends returns
  · intro closed reports later idle
    exact lives_closed later idle (r := { r with reports := reports }) closed
      (fit.orderly.resting closed)
  · intro closed alive
    have free : r.IsFree := ⟨alive, by rw [closed]; decide⟩
    have started := session_start r
    rw [if_pos closed] at started
    rw [live, if_pos free]
    exact congrArg (fun s => s.actor.state) started

/-- **A stop is whole**, in every order of starts, stops, reports and steps of tasks, whatever
happens while it lasts. Over a run whose stop callbacks return, the driver is told once for each
time that the session is closed, and that is once for each time it was opened, but for the last
time as long as it is open. -/
theorem run_stops (driver : Driver Config Command TagValue) (settings : SessionSettings)
    (identity : Identity) (pipeline : Pipeline) (ms : List (Moment Config Command TagValue))
    (returns : (initial driver settings identity pipeline).stopReturns ms = true) :
    let r := (initial driver settings identity pipeline).lives ms
    let ps := (initial driver settings identity pipeline).passages ms
    r.StopsWhole ∧ r.told = closings ps ∧
      openings ps = closings ps + if r.actor.state = .closed then 0 else 1 := by
  intro r ps
  have fit := initial_fit driver settings identity pipeline
  have accounts := lives_accounts ms fit
  have whole : r.standing.broken = 0 := lives_whole ms fit returns rfl
  have told : r.told + 0 = 0 + closings ps + r.standing.broken := accounts.1
  have pending : (if r.actor.state = .closed then 0 else 1) + closings ps = 0 + openings ps :=
    accounts.2
  exact ⟨(lives_fit fit ms).stopsWhole, by omega, by omega⟩

/-- A host whose stop callback always fails. -/
def failing : Rig DemoConfig DemoCommand Json := demo (DemoForm.full .fail).driver

/-- It is stopped while streams are being opened, and again while they serve. -/
def twice : List (Moment DemoConfig DemoCommand Json) :=
  [.starts, .works 0, .stops, .works 0, .tells, .drops 0, .tells] ++
    .starts :: List.replicate 6 (.works 1) ++ .receives 0 ::
    .stops :: .works 2 :: List.replicate 7 (.drops 0) ++ [.tells]

theorem run_stops_twice :
    failing.stopReturns twice = true ∧ (failing.lives twice).told = 2 ∧
      (failing.lives twice).StopsWhole ∧
      (failing.lives twice).told = closings (failing.passages twice) ∧
      openings (failing.passages twice) = closings (failing.passages twice) +
        if (failing.lives twice).actor.state = .closed then 0 else 1 := by
  have returns : failing.stopReturns twice = true := by decide +kernel
  have twoStops : (failing.lives twice).told = 2 := by decide +kernel
  exact ⟨returns, twoStops, run_stops _ _ _ _ twice returns⟩

end DeviceLink.Bench.Rig
