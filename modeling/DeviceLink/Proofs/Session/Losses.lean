import DeviceLink.Proofs.Session.Listening
import DeviceLink.Proofs.Session.Roles
/-!
# Requests that a reconnection abandons

A request that a listener has taken is answered before the next one is taken, as long as nobody
drops the listener. Dropped it is with all others of its generation: when the session is stopped,
but also when a stream of another method comes to its end, or a health check fails. A request in
hand at that moment stays without its answer, however healthy its own stream is
(`reconnection_abandons`). That is the only way in which one is lost (`run_loses`).
-/
namespace DeviceLink

/-! ## Nothing is lost -/

/-- The request whose callback has not ended. -/
def Listener.inCallback : Option Listener → List Request
  | some (.handling q) => [q]
  | _ => []

/-- The response that is not yet written. -/
def Listener.unsent : Option Listener → List Response
  | some (.sending a) => [a]
  | _ => []

/-- A request is in hand. -/
def Listener.IsBusy : Option Listener → Prop
  | some (.handling _) | some (.sending _) => True
  | _ => False

/-- Every request that was taken is answered, once and in its turn, but for one that is in hand. -/
structure NothingLost (l? : Option Listener) (ds : List Deed) : Prop where
  handled : Deed.requests ds =
    (Deed.handlings ds).map Prod.fst ++ Listener.inCallback l?
  answered : (Deed.handlings ds).map respond = Deed.written ds ++ Listener.unsent l?

theorem NothingLost.begins : NothingLost (some .waiting) [] := ⟨rfl, rfl⟩

/-- What is done next keeps the account in balance by itself, or it does not. -/
theorem NothingLost.append_iff {l? l?' : Option Listener} {ds ds' : List Deed}
    (h : NothingLost l? ds) :
    NothingLost l?' (ds ++ ds') ↔
      Listener.inCallback l? ++ Deed.requests ds' =
          (Deed.handlings ds').map Prod.fst ++ Listener.inCallback l?' ∧
        Listener.unsent l? ++ (Deed.handlings ds').map respond =
          Deed.written ds' ++ Listener.unsent l?' := by
  have requests : Deed.requests (ds ++ ds') = Deed.requests ds ++ Deed.requests ds' :=
    List.filterMap_append
  have handlings : Deed.handlings (ds ++ ds') = Deed.handlings ds ++ Deed.handlings ds' :=
    List.filterMap_append
  have written : Deed.written (ds ++ ds') = Deed.written ds ++ Deed.written ds' :=
    List.filterMap_append
  constructor
  · rintro ⟨handled, answered⟩
    rw [requests, handlings, h.handled, List.map_append, List.append_assoc, List.append_assoc,
      List.append_cancel_left_eq] at handled
    rw [handlings, written, List.map_append, h.answered, List.append_assoc, List.append_assoc,
      List.append_cancel_left_eq] at answered
    exact ⟨handled, answered⟩
  · rintro ⟨handled, answered⟩
    constructor
    · rw [requests, handlings, h.handled, List.map_append, List.append_assoc, handled,
        List.append_assoc]
    · rw [handlings, written, List.map_append, h.answered, List.append_assoc, answered,
        List.append_assoc]

theorem NothingLost.told {l : Listener} {ds : List Deed} (h : NothingLost (some l) ds)
    {input : ListenerInput} (uncancelled : input ≠ .cancelled)
    (accepted : Deed.refusals (l.deeds input) = []) :
    NothingLost (some (l.step input)) (ds ++ l.deeds input) := by
  rw [h.append_iff]
  cases input with
  | arrived item =>
    cases l with
    | waiting => cases item <;> exact ⟨rfl, rfl⟩
    | _ => exact ⟨rfl, rfl⟩
  | unwritten =>
    cases l with
    | sending a => cases accepted
    | _ => exact ⟨rfl, rfl⟩
  | cancelled => exact absurd rfl uncancelled
  | handled payload => cases l <;> exact ⟨rfl, rfl⟩
  | written => cases l <;> exact ⟨rfl, rfl⟩

theorem NothingLost.leaves {closing : Report Nat} {l : Listener} {ds : List Deed}
    (h : NothingLost (some l) ds) :
    NothingLost (l.undergo closing .leaves).1 (ds ++ (l.undergo closing .leaves).2) := by
  rw [h.append_iff]
  cases l <;> exact ⟨rfl, rfl⟩

/-- What is in hand of a listener that is dropped is lost, and nothing else is. -/
theorem NothingLost.dropped {closing : Report Nat} {l : Listener} {ds : List Deed}
    (h : NothingLost (some l) ds) :
    NothingLost none (ds ++ (l.undergo closing .dropped).2) ↔ ¬ Listener.IsBusy (some l) := by
  rw [h.append_iff]
  cases l with
  | handling q => exact ⟨fun h => (by cases h.1), fun idle => absurd trivial idle⟩
  | sending a => exact ⟨fun h => (by cases h.2), fun idle => absurd trivial idle⟩
  | _ => exact ⟨fun _ busy => busy, fun _ => ⟨rfl, rfl⟩⟩

/-! ## Runs -/

namespace Bench.Rig

variable {Config Command TagValue : Type}

/-- The step drops all tasks, while the listener has a request in hand. -/
def Interrupts (r : Rig Config Command TagValue) (id : Nat) (c : Choice Config Command TagValue) :
    Prop :=
  Drops r c ∧ Listener.IsBusy (r.listener? id)

/-- Some step of the run does. -/
def Interrupted (r : Rig Config Command TagValue) (id : Nat)
    (cs : List (Choice Config Command TagValue)) : Prop :=
  ∃ before c rest, cs = before ++ c :: rest ∧ Interrupts (r.run before) id c

theorem not_interrupted_nil (r : Rig Config Command TagValue) (id : Nat) :
    ¬ Interrupted r id [] := by
  rintro ⟨before, c, rest, heq, -⟩
  cases before <;> cases heq

theorem interrupted_cons {r : Rig Config Command TagValue} {id : Nat}
    {c : Choice Config Command TagValue} {cs : List (Choice Config Command TagValue)} :
    Interrupted r id (c :: cs) ↔ Interrupts r id c ∨ Interrupted (r.step c) id cs := by
  constructor
  · rintro ⟨_ | ⟨c', before⟩, d, rest, heq, h⟩
    · cases heq
      exact .inl h
    · cases heq
      exact .inr ⟨before, d, rest, rfl, h⟩
  · rintro (h | ⟨before, d, rest, rfl, h⟩)
    · exact ⟨[], c, cs, rfl, h⟩
    · exact ⟨c :: before, d, rest, rfl, h⟩

/-- Nobody has a request in hand, or does anything, once the listener is gone. -/
theorem gone_stays {id g i : Nat} {m : Method} (closing : Report Nat)
    (cs : List (Choice Config Command TagValue)) :
    ∀ {r : Rig Config Command TagValue}, r.session.Regular → id < r.nextTask →
      Holds r id g m i none →
      Holds (r.run cs) id g m i none ∧ r.history id closing cs = [] ∧ ¬ Interrupted r id cs := by
  induction cs with
  | nil =>
    intro r regular old gone
    exact ⟨gone, rfl, not_interrupted_nil r id⟩
  | cons c cs ih =>
    intro r regular old gone
    have hstep : Holds (r.step c) id g m i none := step_holds regular old gone closing c
    obtain ⟨gone', nothing, uninterrupted⟩ :=
      ih (step_regular r c regular) (step_old regular old c) hstep
    have absent : r.listener? id = none := listener?_of_holds gone
    refine ⟨gone', ?_, ?_⟩
    · rw [history, deeds, absent, nothing]
      rfl
    · rw [interrupted_cons]
      rintro (⟨-, busy⟩ | h)
      · rw [absent] at busy
        exact busy
      · exact uninterrupted h

/-- Whoever drops all tasks drops the listener; in the rig it is never merely told to end. -/
theorem event_cases {r : Rig Config Command TagValue} (regular : r.session.Regular)
    {id g i : Nat} {m : Method} (old : id < r.nextTask) {l : Listener}
    (holds : Holds r id g m i (some l)) (c : Choice Config Command TagValue) :
    (Drops r c ∧ r.event id c = some .dropped) ∨
    (¬ Drops r c ∧ (r.event id c = none ∨ r.event id c = some .leaves ∨
      ∃ input, input ≠ .cancelled ∧ r.event id c = some (.told input))) := by
  obtain ⟨timer, work, found⟩ := holds
  by_cases idle : ∀ j, c ≠ .work j
  · rw [event_idle r id idle]
    by_cases drops : Drops r c
    · rw [step_drops old drops]
      exact .inl ⟨drops, rfl⟩
    · obtain ⟨timer, hkeeps⟩ := step_keeps old drops idle
      rw [hkeeps, found]
      exact .inr ⟨drops, .inl rfl⟩
  · obtain ⟨j, rfl⟩ : ∃ j, c = .work j := by simpa using idle
    refine .inr ⟨fun drops => drops, ?_⟩
    by_cases own : j = id
    · subst own
      have hstep := own_step regular found
      generalize r.event j (.work j) = event? at hstep ⊢
      cases hstep with
      | waits timer work found => exact .inl rfl
      | told uncancelled found performed => exact .inr (.inr ⟨_, uncancelled, rfl⟩)
      | leaves found reports => exact .inr (.inl rfl)
    · exact .inl (if_neg own)

/-- Either the step interrupts a listener, and it is gone with what it had in hand; or nothing is
lost. -/
theorem step_loses {r : Rig Config Command TagValue} (regular : r.session.Regular)
    {id g i : Nat} {m : Method} (old : id < r.nextTask) {l : Listener} {ds : List Deed}
    (holds : Holds r id g m i (some l)) (kept : NothingLost (some l) ds) (closing : Report Nat)
    {c : Choice Config Command TagValue}
    (accepted : Deed.refusals (r.deeds id closing c) = []) :
    (Interrupts r id c ∧ Holds (r.step c) id g m i none ∧
      ¬ NothingLost none (ds ++ r.deeds id closing c)) ∨
    (¬ Interrupts r id c ∧
      ∃ l?, Holds (r.step c) id g m i l? ∧ NothingLost l? (ds ++ r.deeds id closing c)) := by
  have present : r.listener? id = some l := listener?_of_holds holds
  have hstep := step_holds regular old holds closing c
  rw [deeds, present] at accepted ⊢
  rw [Interrupts, present]
  rcases event_cases regular old holds c with
    ⟨drops, hevent⟩ | ⟨keeps, hevent | hevent | ⟨input, uncancelled, hevent⟩⟩
  · have gone : (l.undergo closing .dropped).1 = none := by cases l <;> rfl
    simp only [hevent, Listener.undergo?, gone] at hstep ⊢
    by_cases busy : Listener.IsBusy (some l)
    · exact .inl ⟨⟨drops, busy⟩, hstep, fun h => kept.dropped.1 h busy⟩
    · exact .inr ⟨fun h => busy h.2, none, hstep, kept.dropped.2 busy⟩
  · simp only [hevent, Listener.undergo?, List.append_nil] at hstep ⊢
    exact .inr ⟨fun h => keeps h.1, _, hstep, kept⟩
  · simp only [hevent, Listener.undergo?] at hstep ⊢
    exact .inr ⟨fun h => keeps h.1, _, hstep, kept.leaves⟩
  · simp only [hevent, Listener.undergo?] at hstep accepted ⊢
    exact .inr ⟨fun h => keeps h.1, _, hstep, kept.told uncancelled accepted⟩

theorem refusals_append (ds ds' : List Deed) :
    Deed.refusals (ds ++ ds') = Deed.refusals ds ++ Deed.refusals ds' :=
  List.filterMap_append

/-- Nothing is lost in a run that never interrupts the listener, and something is in every
other. -/
theorem history_loses {id g i : Nat} {m : Method} (closing : Report Nat)
    (cs : List (Choice Config Command TagValue)) :
    ∀ {r : Rig Config Command TagValue} {l? : Option Listener} {ds : List Deed},
      r.session.Regular → id < r.nextTask → Holds r id g m i l? → NothingLost l? ds →
      Deed.refusals (r.history id closing cs) = [] →
      (NothingLost ((r.run cs).listener? id) (ds ++ r.history id closing cs) ↔
        ¬ Interrupted r id cs) := by
  induction cs with
  | nil =>
    intro r l? ds regular old holds kept accepted
    rw [run_nil, listener?_of_holds holds, history, List.append_nil]
    exact ⟨fun _ => not_interrupted_nil r id, fun _ => kept⟩
  | cons c cs ih =>
    intro r l? ds regular old holds kept accepted
    cases l? with
    | none =>
      obtain ⟨gone, nothing, spared⟩ := gone_stays closing (c :: cs) regular old holds
      rw [listener?_of_holds gone, nothing, List.append_nil]
      exact ⟨fun _ => spared, fun _ => kept⟩
    | some l =>
      rw [history, refusals_append, List.append_eq_nil_iff] at accepted
      have regular' := step_regular r c regular
      have old' := step_old regular old c
      rw [run_cons, history, ← List.append_assoc, interrupted_cons]
      rcases step_loses regular old holds kept closing accepted.1 with
        ⟨interrupts, gone, lost⟩ | ⟨spared, l?, holds', kept'⟩
      · -- nothing is done any more that could make up for it
        obtain ⟨gone', nothing, -⟩ := gone_stays closing cs regular' old' gone
        rw [listener?_of_holds gone', nothing, List.append_nil]
        exact ⟨fun kept => absurd kept lost, fun h => absurd (.inl interrupts) h⟩
      · rw [ih regular' old' holds' kept' accepted.2]
        simp only [spared, false_or]

/-! ## Who interrupts -/

/-- A session that works is interrupted by a stop, or by the failure of something else: another
stream, or a health check. -/
theorem interrupts_cases {r : Rig Config Command TagValue} (sound : r.session.Sound)
    {id g i : Nat} {m : Method} {l? : Option Listener} (holds : Holds r id g m i l?)
    {c : Choice Config Command TagValue} (h : Interrupts r id c) :
    c = .instruct .stop ∨ ∃ position e, c = .receive position ∧
      r.reports[position]? = some e ∧ Awaits r.actor e ∧
      endedRole e ≠ .connect ∧ endedRole e ≠ .listen m := by
  obtain ⟨drops, busy⟩ := h
  rw [listener?_of_holds holds] at busy
  obtain ⟨l, rfl⟩ : ∃ l, l? = some l := by
    cases l? with
    | none => exact busy.elim
    | some l => exact ⟨l, rfl⟩
  obtain ⟨timer, work, found⟩ := holds
  have mem := (find?_mem found).1
  cases c with
  | instruct i =>
    cases i with
    | start =>
      -- nobody works for a session that can be started
      have none : r.tasks = [] := sound.resting (.inl drops.2)
      rw [none] at mem
      cases mem
    | stop => exact .inl rfl
  | receive position =>
    obtain ⟨-, e, queued, awaited, failure⟩ := drops
    refine .inr ⟨position, e, rfl, queued, awaited, failure, fun own => ?_⟩
    have running : r.actor.state = .running := by
      have hs := awaited.2
      rwa [own] at hs
    have current : e.generation = r.session.actor.generation := awaited.1
    have once : r.session.held (.listen m) = 1 := sound.balanced.running running (.listen m)
    have itself : 0 < Session.working r.session.tasks (.listen m) :=
      List.countP_pos_iff.2 ⟨_, mem, by simp [roleOf]⟩
    have another : 0 < Session.queued r.session.reports r.session.actor.generation (.listen m) :=
      List.countP_pos_iff.2 ⟨e, List.mem_of_getElem? queued, by simp [own, current]⟩
    rw [Session.held] at once
    omega
  | work j => exact drops.elim
  | elsewhere world timer => exact drops.elim

/-- **What a reconnection abandons.** While responses are taken, a listener loses nothing exactly
if nobody drops all tasks while it has a request in hand; and that does a stop, or the failure of
another stream or of a health check, but nothing else. -/
theorem run_loses (driver : Driver Config Command TagValue) (settings : SessionSettings)
    (identity : Identity) (pipeline : Pipeline)
    (before after : List (Choice Config Command TagValue)) {id g i : Nat} {m : Method}
    {timer : Timer} {work : Option (Handling Config Command TagValue)}
    (found : ((initial driver settings identity pipeline).run before).find? id =
      some ⟨id, g, timer, .listen m i .waiting work⟩)
    (accepted : Deed.refusals (((initial driver settings identity pipeline).run before).history id
      (.streamClosed g m) after) = []) :
    let r := (initial driver settings identity pipeline).run before
    (NothingLost ((r.run after).listener? id) (r.history id (.streamClosed g m) after) ↔
      ¬ Interrupted r id after) ∧
    ∀ prior c rest, after = prior ++ c :: rest → Interrupts (r.run prior) id c →
      c = .instruct .stop ∨ ∃ position e, c = .receive position ∧
        (r.run prior).reports[position]? = some e ∧ Awaits (r.run prior).actor e ∧
        endedRole e ≠ .connect ∧ endedRole e ≠ .listen m := by
  intro r
  have regular : r.session.Regular := run_regular (regular_nil rfl) before
  have sound : r.session.Sound :=
    run_sound (regular_nil rfl) (initial_sound driver settings identity pipeline) before
  have old : id < r.nextTask := regular.fresh _ (find?_mem found).1
  have waiting : Holds r id g m i (some .waiting) := ⟨timer, work, found⟩
  constructor
  · simpa using history_loses (.streamClosed g m) after regular old waiting .begins accepted
  · intro prior c rest heq h
    obtain ⟨l?, holds, -⟩ := run_serves (.streamClosed g m) prior regular old waiting .begins
    exact interrupts_cases (run_sound regular sound prior) holds h

/-! ### A request on a healthy stream -/

/-- The stream neither failed nor closed, and its responses are taken. -/
def intact (r : Rig Config Command TagValue) (i : Nat) : Bool :=
  match r.platform.streams[i]? with
  | some s => s.atPlatform && s.requests.all fun
    | .request _ => true
    | _ => false
  | none => false

/-- The platform closes the stream of a method. -/
def closes (r : Rig Config Command TagValue) (m : Method) : Choice Config Command TagValue :=
  .elsewhere { r with platform := (r.platform.close m).2 } Task.timer

/-- A session that serves, of a driver that takes its time to tell its schema. -/
def slow : Rig DemoConfig DemoCommand Json :=
  (demo { DemoForm.basic.driver with schema := ⟨100, .done ""⟩ }).run opening

def question : Request := ⟨"schema-1", "", "", [], []⟩

/-- The listener for schemas takes a request and its callback begins; then the stream of debug
requests closes, its listener reports that, and the actor reconnects. -/
def mishap : List (Choice DemoConfig DemoCommand Json) :=
  let sent := [slow.sends .schema question, .work 2, .work 2]
  sent ++ [(slow.run sent).closes .debug, .work 6, .work 6, .receive 0]

theorem run_loses_mishap :
    (∃ timer work, slow.find? 2 = some ⟨2, 1, timer, .listen .schema 1 .waiting work⟩) ∧
    Deed.refusals (slow.history 2 (.streamClosed 1 .schema) mishap) = [] ∧
    (NothingLost ((slow.run mishap).listener? 2)
        (slow.history 2 (.streamClosed 1 .schema) mishap) ↔
      ¬ Interrupted slow 2 mishap) := by
  have found : slow.find? 2 = some ⟨2, 1, .idle, .listen .schema 1 .waiting none⟩ := rfl
  have accepted : Deed.refusals (slow.history 2 (.streamClosed 1 .schema) mishap) = [] := by
    decide +kernel
  exact ⟨⟨_, _, found⟩, accepted, (run_loses _ _ _ _ opening mishap found accepted).1⟩

/-- A stream that stays healthy, in a session that nobody stops, is not enough. -/
theorem reconnection_abandons :
    ¬ ∀ (driver : Driver DemoConfig DemoCommand Json) (settings : SessionSettings)
      (identity : Identity) (pipeline : Pipeline)
      (before after : List (Choice DemoConfig DemoCommand Json)) (id g i : Nat) (m : Method)
      (timer : Timer) (work : Option (Handling DemoConfig DemoCommand Json)),
      let r := (initial driver settings identity pipeline).run before
      r.find? id = some ⟨id, g, timer, .listen m i .waiting work⟩ →
      (∀ c ∈ before ++ after, c ≠ .instruct .stop) →
      (∀ n, intact (r.run (after.take n)) i = true) →
      NothingLost ((r.run after).listener? id) (r.history id (.streamClosed g m) after) := by
  intro claim
  have unstopped : ∀ c ∈ opening ++ mishap, c ≠ .instruct .stop := by
    simp [opening, mishap, sends, closes]
  have healthy : ∀ n, intact (slow.run (mishap.take n)) 1 = true := by
    intro n
    rcases Nat.lt_or_ge n 7 with h | h
    · have each : ∀ n < 7, intact (slow.run (mishap.take n)) 1 = true := by decide +kernel
      exact each n h
    · rw [List.take_of_length_le h]
      decide +kernel
  have taken : Deed.requests (slow.history 2 (.streamClosed 1 .schema) mishap) = [question] := by
    decide +kernel
  have unanswered : Deed.handlings (slow.history 2 (.streamClosed 1 .schema) mishap) = [] := by
    decide +kernel
  have gone : (slow.run mishap).listener? 2 = none := by decide +kernel
  have found : slow.find? 2 = some ⟨2, 1, .idle, .listen .schema 1 .waiting none⟩ := rfl
  have kept : NothingLost ((slow.run mishap).listener? 2)
      (slow.history 2 (.streamClosed 1 .schema) mishap) :=
    claim _ _ _ _ opening mishap 2 1 1 .schema .idle none found unstopped healthy
  have lost := kept.handled
  rw [taken, unanswered, gone] at lost
  cases lost

end Bench.Rig
end DeviceLink
