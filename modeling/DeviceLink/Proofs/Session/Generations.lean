import DeviceLink.Proofs.Session.Schedule
/-!
# One reconnection for each generation

Up to seven tasks of a generation can report that they failed, and reports of older generations
can still be queued behind them. Whatever is queued, by tasks or by anybody else (`Event`), and in
whatever order it is taken, the failures of one generation make the session reconnect at most once,
and they do if one of them is taken while that generation serves. A report that is not awaited
changes nothing but the queue, and no generation opens streams twice, across stops and starts
alike (`run_generations`).

What one event does is listed once (`Lawful`). Over a whole run only the generation is followed:
it never falls, it rises whenever the session reconnects, and every loop that opens streams has
one of its own.
-/
namespace DeviceLink.Bench.Rig

variable {Config Command TagValue : Type}

/-! ## Events and moves -/

/-- Somebody's choice, or a report of any generation from anywhere. -/
inductive Event (Config Command TagValue : Type)
  | chosen (c : Choice Config Command TagValue)
  | posted (e : Report Nat)

def undergo (r : Rig Config Command TagValue) :
    Event Config Command TagValue → Rig Config Command TagValue
  | .chosen c => r.step c
  | .posted e => r.report e

/-- An event, and the session before and after it. -/
structure Move (Config Command TagValue : Type) where
  before : Session Config Command TagValue
  event  : Event Config Command TagValue
  after  : Session Config Command TagValue

def move (r : Rig Config Command TagValue) (event : Event Config Command TagValue) :
    Move Config Command TagValue :=
  ⟨r.session, event, (r.undergo event).session⟩

/-- The moves of a run, the first one first. -/
def moves (r : Rig Config Command TagValue) :
    List (Event Config Command TagValue) → List (Move Config Command TagValue)
  | [] => []
  | event :: events => r.move event :: (r.undergo event).moves events

namespace Move

/-- The report that the actor takes out of its queue. -/
def processed? (m : Move Config Command TagValue) : Option (Report Nat) :=
  match m.event with
  | .chosen (.receive position) => if m.before.alive then m.before.reports[position]? else none
  | _ => none

/-- The actor learns that a task of the generation failed. -/
def fails (m : Move Config Command TagValue) (generation : Nat) : Bool :=
  match m.processed? with
  | some e => decide (e.generation = generation ∧ endedRole e ≠ .connect)
  | none => false

/-- A session that serves opens its streams again. -/
def reconnects (m : Move Config Command TagValue) : Bool :=
  decide (m.before.actor.state = .running ∧ m.after.actor.state = .reconnecting)

/-- The generations of the loops that are new. -/
def opens (m : Move Config Command TagValue) : List Nat :=
  (m.after.tasks.filter fun t =>
    decide (m.before.nextTask ≤ t.id ∧ roleOf t.job = .connect)).map Task.generation

/-- All that matters here of one event. -/
structure Lawful (m : Move Config Command TagValue) : Prop where
  /-- A report that is not awaited changes neither the state, the generation, the token nor the
  tasks. -/
  ignores : ∀ e, m.processed? = some e → ¬ Awaits m.before.actor e →
    m.after.actor = m.before.actor ∧ m.after.tasks = m.before.tasks
  blames : m.reconnects = true →
    m.fails m.before.actor.generation = true ∧
      m.after.actor.generation = m.before.actor.generation + 1
  heeds : m.fails m.before.actor.generation = true → m.before.actor.state = .running →
    m.reconnects = true
  numbers : (m.opens = [] ∧ m.after.actor.generation = m.before.actor.generation) ∨
    (m.opens = [m.after.actor.generation] ∧
      m.after.actor.generation = m.before.actor.generation + 1)

/-! ## Single moves -/

theorem fails_iff {m : Move Config Command TagValue} {generation : Nat} :
    m.fails generation = true ↔
      ∃ e, m.processed? = some e ∧ e.generation = generation ∧ endedRole e ≠ .connect := by
  unfold fails
  cases hp : m.processed? with
  | none => simp
  | some e => simp

theorem reconnects_iff {m : Move Config Command TagValue} :
    m.reconnects = true ↔ m.before.actor.state = .running ∧ m.after.actor.state = .reconnecting :=
  decide_eq_true_iff

theorem not_reconnects {m : Move Config Command TagValue} (h : m.after.actor = m.before.actor) :
    ¬ m.reconnects = true := by
  rw [reconnects_iff, h]
  rintro ⟨h1, h2⟩
  rw [h1] at h2
  cases h2

end Move

/-- Taking a report is all that a move does that takes one. -/
theorem move_processed {r : Rig Config Command TagValue} {event : Event Config Command TagValue}
    {e : Report Nat} (h : (r.move event).processed? = some e) :
    ∃ position, (r.move event).after =
      ({ r with reports := r.reports.eraseIdx position }.receive e).session := by
  unfold Move.processed? at h
  split at h
  · rename_i position hevent
    have he : event = .chosen (.receive position) := hevent
    subst he
    split at h
    · rename_i alive
      refine ⟨position, ?_⟩
      have ha : r.alive = true := alive
      have hr : r.reports[position]? = some e := h
      simp only [move, undergo, step, ha, hr]
    · cases h
  · cases h

theorem move_ignores {r : Rig Config Command TagValue} {event : Event Config Command TagValue}
    {e : Report Nat} (processed : (r.move event).processed? = some e)
    (stale : ¬ Awaits r.actor e) :
    (r.move event).after.actor = r.actor ∧ (r.move event).after.tasks = r.tasks := by
  obtain ⟨position, hafter⟩ := move_processed processed
  rw [hafter, session_receive_stale (r := { r with reports := r.reports.eraseIdx position }) stale]
  exact ⟨rfl, rfl⟩

/-- A failure that is awaited begins the next generation. -/
theorem move_heeds {r : Rig Config Command TagValue} {event : Event Config Command TagValue}
    {e : Report Nat} (processed : (r.move event).processed? = some e)
    (awaited : Awaits r.actor e) (failure : endedRole e ≠ .connect) :
    (r.move event).after.actor = ⟨.reconnecting, r.actor.generation + 1, false⟩ := by
  obtain ⟨position, hafter⟩ := move_processed processed
  rw [hafter, session_receive_failure
    (r := { r with reports := r.reports.eraseIdx position }) awaited failure]
  rfl

theorem awaits_of_fails {a : Actor} {e : Report Nat} (generation : e.generation = a.generation)
    (failure : endedRole e ≠ .connect) (running : a.state = .running) : Awaits a e := by
  refine ⟨generation, ?_⟩
  cases e with
  | opened g streams => exact absurd rfl failure
  | healthFailed g reason => exact running
  | streamClosed g m => exact running

/-- No instruction makes a session reconnect. -/
theorem command_not_reconnects (r : Rig Config Command TagValue) (i : Instruction)
    (running : r.actor.state = .running) :
    (r.command i).session.actor.state ≠ .reconnecting := by
  have same : r.session.actor.state ≠ .reconnecting := by
    show r.actor.state ≠ .reconnecting
    rw [running]
    decide
  cases i with
  | start =>
    have open' : ¬ r.actor.state = .closed := by rw [running]; decide
    rw [session_start, if_neg open']
    exact same
  | stop =>
    rcases stopSession_cases r with ⟨-, hr⟩ | ⟨-, state, alive, hstate, hr⟩
    · rw [command, hr]
      exact same
    · rw [command, hr]
      show state ≠ .reconnecting
      rcases hstate with rfl | rfl <;> decide

/-- Only a failure of the generation that serves makes the session reconnect. -/
theorem move_blames {r : Rig Config Command TagValue} {event : Event Config Command TagValue}
    (active : ∀ t ∈ r.tasks, IsActive t.job) (h : (r.move event).reconnects = true) :
    (r.move event).fails r.actor.generation = true ∧
      (r.move event).after.actor.generation = r.actor.generation + 1 := by
  obtain ⟨hbefore, hafter⟩ := Move.reconnects_iff.1 h
  have running : r.actor.state = .running := hbefore
  cases hp : (r.move event).processed? with
  | some e =>
    by_cases ha : Awaits r.actor e
    · by_cases hf : endedRole e = .connect
      · -- a session that serves does not await streams
        have hs := ha.2
        rw [hf, running] at hs
        rcases hs with hs | hs <;> cases hs
      · exact ⟨Move.fails_iff.2 ⟨e, hp, ha.1, hf⟩, by rw [move_heeds hp ha hf]⟩
    · exact absurd h (Move.not_reconnects (move_ignores hp ha).1)
  | none =>
    exfalso
    cases event with
    | posted e =>
      refine Move.not_reconnects ?_ h
      simp only [move, undergo, session_report]
      rfl
    | chosen c =>
      cases c with
      | instruct i =>
        simp only [move, undergo, step] at hafter
        split at hafter
        · exact command_not_reconnects r i running hafter
        · rw [show r.session.actor = r.actor from rfl, running] at hafter
          cases hafter
      | receive position =>
        -- there was nothing to be taken
        refine Move.not_reconnects ?_ h
        simp only [move, undergo, step]
        split
        · rename_i e alive he
          have taken : (r.move (.chosen (.receive position))).processed? = some e := by
            simp [Move.processed?, move, session, alive, he]
          rw [taken] at hp
          cases hp
        · rfl
      | work id =>
        refine Move.not_reconnects ?_ h
        simp only [move, undergo, step]
        split
        · rename_i t ht
          exact (stepTask_cases r (active t (List.mem_of_find?_eq_some ht))).actor
        · rfl
      | elsewhere world timer => exact Move.not_reconnects rfl h

/-! ## New loops -/

/-- Of tasks of old numbers, and of new ones that open no streams, no loop is new. -/
theorem opens_nil {m : Move Config Command TagValue}
    (h : ∀ t ∈ m.after.tasks, t.id < m.before.nextTask ∨ roleOf t.job ≠ .connect) :
    m.opens = [] := by
  unfold Move.opens
  rw [List.map_eq_nil_iff, List.filter_eq_nil_iff]
  intro t ht
  simp only [decide_eq_true_eq, not_and]
  rcases h t ht with h | h
  · intro hn; omega
  · exact fun _ => h

theorem opens_reconnect {m : Move Config Command TagValue}
    {s : Session Config Command TagValue} {a : Actor} (next : s.nextTask = m.before.nextTask)
    (h : m.after = s.reconnect a) : m.opens = [a.generation] := by
  unfold Move.opens
  rw [h]
  simp [Session.reconnect, Session.spawnAll, Session.started, roleOf, next]

/-- A loop is new only where a session connects anew, one generation later. -/
theorem SessionStep.loops {s s' : Session Config Command TagValue} (h : s.Regular)
    (step : SessionStep s s') :
    (s'.actor.generation = s.actor.generation ∧
      ∀ t ∈ s'.tasks, t.id < s.nextTask ∨ roleOf t.job ≠ .connect) ∨
    ∃ (base : Session Config Command TagValue) (a : Actor), base.nextTask = s.nextTask ∧
      a.generation = s.actor.generation + 1 ∧ s' = base.reconnect a := by
  have old : ∀ t ∈ s.tasks, t.id < s.nextTask ∨ roleOf t.job ≠ .connect :=
    fun t ht => .inl (h.fresh t ht)
  cases step with
  | nothing => exact .inl ⟨rfl, old⟩
  | retimed timer =>
    refine .inl ⟨rfl, fun u hu => ?_⟩
    obtain ⟨t, ht, rfl⟩ := List.mem_map.1 hu
    exact old t ht
  | @worked u _ mem work =>
    refine .inl ⟨by rw [work.actor], ?_⟩
    cases work with
    | waits => exact old
    | goesOn timer job role active begun =>
      intro v hv
      obtain ⟨t, ht, rfl⟩ := List.mem_map.1 hv
      split
      · exact .inl (h.fresh u mem)
      · exact old t ht
    | ends e generation role complete => exact fun t ht => old t (List.mem_filter.1 ht).1
  | started closed => exact .inr ⟨s, _, rfl, rfl, rfl⟩
  | stopped canStop state alive stopped =>
    refine .inl ⟨rfl, fun t ht => ?_⟩
    cases ht
  | discarded queued stale => exact .inl ⟨rfl, old⟩
  | served queued awaited =>
    refine .inl ⟨rfl, fun t ht => ?_⟩
    rcases List.mem_append.1 ht with ht | ht
    · exact old t ht
    · exact .inr (mem_serving (mem_started ht).2.2.2).1
  | @failed position e queued awaited failure =>
    exact .inr ⟨s.discard position, _, rfl, rfl, rfl⟩

theorem move_numbers {r : Rig Config Command TagValue} (h : r.session.Regular)
    (event : Event Config Command TagValue) :
    ((r.move event).opens = [] ∧
      (r.move event).after.actor.generation = r.actor.generation) ∨
    ((r.move event).opens = [(r.move event).after.actor.generation] ∧
      (r.move event).after.actor.generation = r.actor.generation + 1) := by
  cases event with
  | posted e =>
    have hafter : (r.move (.posted e)).after = r.session.report e := session_report r e
    refine .inl ⟨opens_nil ?_, by rw [hafter]; rfl⟩
    rw [hafter]
    exact fun t ht => .inl (h.fresh t ht)
  | chosen c =>
    have hstep : SessionStep r.session (r.move (.chosen c)).after := step_cases h.active c
    rcases hstep.loops h with ⟨hsame, hold⟩ | ⟨base, a, hnext, hlater, hafter⟩
    · exact .inl ⟨opens_nil hold, hsame⟩
    · refine .inr ⟨?_, by rw [hafter]; exact hlater⟩
      rw [opens_reconnect hnext hafter, hafter]
      rfl

theorem move_lawful {r : Rig Config Command TagValue} (h : r.session.Regular)
    (event : Event Config Command TagValue) : (r.move event).Lawful where
  ignores _ processed stale := move_ignores processed stale
  blames reconnects := move_blames h.active reconnects
  heeds fails running := by
    obtain ⟨e, processed, generation, failure⟩ := Move.fails_iff.1 fails
    have awaited : Awaits r.actor e := awaits_of_fails generation failure running
    refine Move.reconnects_iff.2 ⟨running, ?_⟩
    rw [move_heeds processed awaited failure]
  numbers := move_numbers h event

/-! ## Runs -/

theorem undergo_regular {r : Rig Config Command TagValue} (h : r.session.Regular)
    (event : Event Config Command TagValue) : (r.undergo event).session.Regular := by
  cases event with
  | posted e =>
    simp only [undergo, session_report]
    exact ⟨h.fresh, h.active, h.begun⟩
  | chosen c => exact step_regular r c h

theorem moves_lawful (events : List (Event Config Command TagValue)) :
    ∀ {r : Rig Config Command TagValue}, r.session.Regular →
      ∀ m ∈ r.moves events, m.Lawful := by
  induction events with
  | nil => intro r _ m hm; cases hm
  | cons event events ih =>
    intro r h m hm
    rcases List.mem_cons.1 hm with rfl | hm
    · exact move_lawful h event
    · exact ih (undergo_regular h event) m hm

/-- The generation never falls. -/
theorem Move.Lawful.generation_le {m : Move Config Command TagValue} (h : m.Lawful) :
    m.before.actor.generation ≤ m.after.actor.generation := by
  rcases h.numbers with ⟨-, h⟩ | ⟨-, h⟩ <;> omega

/-- The failures of a generation that make the session reconnect. -/
def reconnections (moves : List (Move Config Command TagValue)) (generation : Nat) : Nat :=
  moves.countP fun m => m.fails generation && m.reconnects

theorem reconnections_cons (m : Move Config Command TagValue)
    (moves : List (Move Config Command TagValue)) (generation : Nat) :
    reconnections (m :: moves) generation =
      (if (m.fails generation && m.reconnects) = true then 1 else 0) +
        reconnections moves generation := by
  unfold reconnections
  rw [List.countP_cons, Nat.add_comm]

/-- It is the current generation whose failure makes the session reconnect. -/
theorem Move.Lawful.eq_generation {m : Move Config Command TagValue} (h : m.Lawful)
    {generation : Nat} (fails : m.fails generation = true) (reconnects : m.reconnects = true) :
    m.before.actor.generation = generation := by
  obtain ⟨e, he, hg, -⟩ := Move.fails_iff.1 fails
  obtain ⟨e', he', hg', -⟩ := Move.fails_iff.1 (h.blames reconnects).1
  rw [he] at he'
  cases he'
  exact hg'.symm.trans hg

/-- Failures of a generation that is over have no effect. -/
theorem reconnections_past {generation : Nat} (events : List (Event Config Command TagValue)) :
    ∀ {r : Rig Config Command TagValue}, r.session.Regular → generation < r.actor.generation →
      reconnections (r.moves events) generation = 0 := by
  induction events with
  | nil => intro r _ _; rfl
  | cons event events ih =>
    intro r h past
    have hm := move_lawful h event
    have hle : r.actor.generation ≤ (r.undergo event).actor.generation := hm.generation_le
    have hn : ¬ ((r.move event).fails generation && (r.move event).reconnects) = true := by
      rw [Bool.and_eq_true]
      rintro ⟨fails, reconnects⟩
      have heq : r.actor.generation = generation := hm.eq_generation fails reconnects
      omega
    rw [moves, reconnections_cons, if_neg hn, Nat.zero_add]
    exact ih (undergo_regular h event) (by omega)

theorem reconnections_le_one {generation : Nat} (events : List (Event Config Command TagValue)) :
    ∀ {r : Rig Config Command TagValue}, r.session.Regular →
      reconnections (r.moves events) generation ≤ 1 := by
  induction events with
  | nil => intro r _; exact Nat.zero_le 1
  | cons event events ih =>
    intro r h
    have hm := move_lawful h event
    have hn := undergo_regular h event
    by_cases hc : ((r.move event).fails generation && (r.move event).reconnects) = true
    · -- the first one leaves the generation behind
      have hb := Bool.and_eq_true_iff.1 hc
      have heq : r.actor.generation = generation := hm.eq_generation hb.1 hb.2
      have hnext : (r.undergo event).actor.generation = r.actor.generation + 1 :=
        (hm.blames hb.2).2
      have hrest : reconnections ((r.undergo event).moves events) generation = 0 :=
        reconnections_past events hn (by omega)
      rw [moves, reconnections_cons, if_pos hc]
      omega
    · rw [moves, reconnections_cons, if_neg hc, Nat.zero_add]
      exact ih hn

/-- Every loop that opens streams has a generation of its own, later than all before. -/
theorem opens_increase (events : List (Event Config Command TagValue)) :
    ∀ {r : Rig Config Command TagValue}, r.session.Regular →
      (∀ g ∈ (r.moves events).flatMap Move.opens, r.actor.generation < g) ∧
        ((r.moves events).flatMap Move.opens).Pairwise (· < ·) := by
  induction events with
  | nil => intro r _; exact ⟨nofun, List.Pairwise.nil⟩
  | cons event events ih =>
    intro r h
    obtain ⟨later, increasing⟩ := ih (undergo_regular h event)
    have hm := move_lawful h event
    rw [moves, List.flatMap_cons]
    rcases hm.numbers with ⟨hopens, hsame⟩ | ⟨hopens, hnext⟩
    · have hg : (r.undergo event).actor.generation = r.actor.generation := hsame
      rw [hopens, List.nil_append]
      rw [hg] at later
      exact ⟨later, increasing⟩
    · have hg : (r.undergo event).actor.generation = r.actor.generation + 1 := hnext
      rw [hopens, List.singleton_append]
      constructor
      · intro g hmem
        rcases List.mem_cons.1 hmem with rfl | hmem
        · show r.actor.generation < (r.undergo event).actor.generation
          omega
        · have := later g hmem
          omega
      · exact List.pairwise_cons.2 ⟨later, increasing⟩

/-- **One reconnection for each generation**, whoever reports what and in whatever order: the
failures of a generation make the session reconnect at most once, and once if one of them is taken
while the generation serves. Only such a failure does. Reports that are not awaited leave the
actor and its tasks as they are, and loops that open streams have ever later generations. -/
theorem run_generations (driver : Driver Config Command TagValue) (settings : SessionSettings)
    (identity : Identity) (pipeline : Pipeline)
    (events : List (Event Config Command TagValue)) :
    let moves := (initial driver settings identity pipeline).moves events
    (∀ g, reconnections moves g ≤ 1) ∧
    (∀ g, (∃ m ∈ moves, m.fails g = true ∧
        m.before.actor.state = .running ∧ m.before.actor.generation = g) →
      reconnections moves g = 1) ∧
    (∀ m ∈ moves, m.reconnects = true → m.fails m.before.actor.generation = true) ∧
    (∀ m ∈ moves, ∀ e, m.processed? = some e → ¬ Awaits m.before.actor e →
      m.after.actor = m.before.actor ∧ m.after.tasks = m.before.tasks) ∧
    (∀ m ∈ moves,
      (m.opens = [] ∧ m.after.actor.generation = m.before.actor.generation) ∨
      (m.opens = [m.after.actor.generation] ∧
        m.after.actor.generation = m.before.actor.generation + 1)) ∧
    (moves.flatMap Move.opens).Pairwise (· < ·) := by
  intro moves
  have regular : (initial driver settings identity pipeline).session.Regular :=
    regular_nil rfl
  have lawful : ∀ m ∈ moves, m.Lawful := moves_lawful events regular
  have once : ∀ g, reconnections moves g ≤ 1 := fun g => reconnections_le_one events regular
  refine ⟨once, ?_, fun m hm h => ((lawful m hm).blames h).1, fun m hm => (lawful m hm).ignores,
    fun m hm => (lawful m hm).numbers, (opens_increase events regular).2⟩
  rintro g ⟨m, hm, fails, running, rfl⟩
  have reconnects : m.reconnects = true := (lawful m hm).heeds fails running
  have hpos : 0 < reconnections moves m.before.actor.generation :=
    List.countP_pos_iff.2 ⟨m, hm, Bool.and_eq_true_iff.2 ⟨fails, reconnects⟩⟩
  have := once m.before.actor.generation
  omega

end DeviceLink.Bench.Rig
