import DeviceLink.Proofs.Session.Tallies
/-!
# Checks up to the first failure

A loop of health checks knows nothing but what its checks come to. As long as they pass it rests and
checks again; the first one that fails is its last, and is reported once, unless the loop was told
to end or was dropped before. So its deeds are checks that passed, and a short last round
(`Watches`); `OneFailure` reads off that what was checked and what was posted. And it misses none:
whatever its checks come to, it makes them all up to the first failure (`EndsAtFailure`).
-/
namespace DeviceLink

/-! ## Deeds of a loop -/

/-- What a loop of checks does. -/
inductive HealthDeed
  | checked (k : Check)
  /-- The failure is reported. -/
  | posted (reason : String)
  /-- It was told to end, or dropped, before it had reported. -/
  | cancelled

namespace HealthDeed

def checks (ds : List HealthDeed) : List Check :=
  ds.filterMap fun | checked k => some k | _ => none

def posts (ds : List HealthDeed) : List String :=
  ds.filterMap fun | posted reason => some reason | _ => none

@[simp] theorem checks_append (ds ds' : List HealthDeed) :
    checks (ds ++ ds') = checks ds ++ checks ds' := List.filterMap_append

@[simp] theorem posts_append (ds ds' : List HealthDeed) :
    posts (ds ++ ds') = posts ds ++ posts ds' := List.filterMap_append

@[simp] theorem checks_checked (ks : List Check) : checks (ks.map checked) = ks := by
  induction ks with
  | nil => rfl
  | cons k ks ih => exact congrArg _ ih

@[simp] theorem posts_checked (ks : List Check) : posts (ks.map checked) = [] := by
  induction ks with
  | nil => rfl
  | cons k ks ih => exact ih

end HealthDeed

open HealthDeed (checks posts)

namespace HealthLoop

/-- What can happen to a loop. -/
inductive Event
  | told (timeout : Span) (now : Nat) (input : HealthInput)
  /-- It ends, if it has come to its end. -/
  | leaves
  /-- It is dropped, wherever it is. -/
  | dropped

/-- Where a loop goes when it is told something, whatever was recorded before. -/
def next (timeout : Span) (now : Nat) (loop : HealthLoop) (input : HealthInput) : HealthLoop :=
  (loop.step timeout now .initial input).1

/-- What a loop does when it is told something. -/
def deeds (timeout : Span) (now : Nat) : HealthLoop → HealthInput → List HealthDeed
  | .checking since, .result r => [.checked ⟨since, now, timeout, r⟩]
  | .resting, .cancelled | .checking _, .cancelled => [.cancelled]
  | _, _ => []

/-- Where a loop is left by a check. -/
def afterCheck (k : Check) : HealthLoop :=
  match k.failure? with
  | none => .resting
  | some reason => .failed reason

theorem next_result (timeout : Span) (now since : Nat) (r : CheckResult) :
    next timeout now (.checking since) (.result r) = afterCheck ⟨since, now, timeout, r⟩ := by
  simp only [next, step, afterCheck, Check.failure?]
  cases r.failure? timeout <;> rfl

/-- A step records the check that comes to its end with it, if there is one. -/
theorem step_eq (timeout : Span) (now : Nat) (h : HealthStatus) (loop : HealthLoop)
    (input : HealthInput) :
    loop.step timeout now h input =
      (loop.next timeout now input,
        (checks (loop.deeds timeout now input)).foldl HealthStatus.record h) := by
  cases loop with
  | checking since =>
    cases input with
    | result r =>
      have one : checks (deeds timeout now (.checking since) (.result r)) =
        [⟨since, now, timeout, r⟩] := rfl
      rw [next_result, one, List.foldl_cons, List.foldl_nil]
      simp only [step, HealthStatus.record, afterCheck, Check.failure?]
      cases r.failure? timeout <;> rfl
    | elapsed => rfl
    | cancelled => rfl
  | resting => cases input <;> rfl
  | failed reason => cases input <;> rfl
  | cancelled => cases input <;> rfl

/-- What is left of a loop, and what it does. -/
def undergo (loop : HealthLoop) : Event → Option HealthLoop × List HealthDeed
  | .told timeout now input => (some (loop.next timeout now input), loop.deeds timeout now input)
  | .leaves =>
    match loop with
    | .failed reason => (none, [.posted reason])
    | .cancelled => (none, [])
    | loop => (some loop, [])
  | .dropped =>
    match loop with
    | .cancelled => (none, [])
    | _ => (none, [.cancelled])

/-- The same, where there may be no loop any more. -/
def undergo? : Option HealthLoop → Event → Option HealthLoop × List HealthDeed
  | some loop, event => loop.undergo event
  | none, _ => (none, [])

def after (loop? : Option HealthLoop) (events : List Event) : Option HealthLoop :=
  events.foldl (fun loop? event => (undergo? loop? event).1) loop?

def history (loop? : Option HealthLoop) : List Event → List HealthDeed
  | [] => []
  | event :: events => (undergo? loop? event).2 ++ history (undergo? loop? event).1 events

theorem after_append (events later : List Event) (loop? : Option HealthLoop) :
    after loop? (events ++ later) = after (after loop? events) later := List.foldl_append

theorem history_append (events later : List Event) :
    ∀ loop? : Option HealthLoop,
      history loop? (events ++ later) =
        history loop? events ++ history (after loop? events) later := by
  induction events with
  | nil => intro loop?; rfl
  | cons event events ih =>
    intro loop?
    rw [List.cons_append, history, history, ih, List.append_assoc]
    rfl

/-! ## The shape of what was done -/

/-- What a loop has done since its last check that passed. -/
inductive Round : List HealthDeed → HealthLoop → Prop
  | rests : Round [] .resting
  | checks (since : Nat) : Round [] (.checking since)
  | fails {k : Check} {reason : String} (failed : k.failure? = some reason) :
      Round [.checked k] (.failed reason)

/-- The same, once it may have left. -/
inductive LastRound : List HealthDeed → Option HealthLoop → Prop
  | stays {ds : List HealthDeed} {loop : HealthLoop} (round : Round ds loop) :
      LastRound ds (some loop)
  | posts {k : Check} {reason : String} (failed : k.failure? = some reason) :
      LastRound [.checked k, .posted reason] none
  | cancelled {ds : List HealthDeed} {loop : HealthLoop} (round : Round ds loop)
      {loop? : Option HealthLoop} (gone : loop? = none ∨ loop? = some .cancelled) :
      LastRound (ds ++ [.cancelled]) loop?

/-- What a loop has done since it began: all checks but the last one passed. -/
inductive Watches : Option HealthLoop → List HealthDeed → Prop
  | mk {ks : List Check} (passed : ∀ k ∈ ks, k.failure? = none) {loop? : Option HealthLoop}
      {last : List HealthDeed} (h : LastRound last loop?) :
      Watches loop? (ks.map .checked ++ last)

theorem watches_resting : Watches (some .resting) [] :=
  @Watches.mk [] nofun _ _ (.stays .rests)

/-- A loop that was told to end does nothing more. -/
theorem undergo_cancelled (event : Event) :
    (undergo .cancelled event).2 = [] ∧
      ((undergo .cancelled event).1 = none ∨ (undergo .cancelled event).1 = some .cancelled) := by
  cases event with
  | told timeout now input => cases input <;> exact ⟨rfl, .inr rfl⟩
  | leaves => exact ⟨rfl, .inl rfl⟩
  | dropped => exact ⟨rfl, .inl rfl⟩

/-- A check that passes completes the round; anything else goes on with it or ends it. -/
theorem Round.told {ds : List HealthDeed} {loop : HealthLoop} (h : Round ds loop) (timeout : Span)
    (now : Nat) (input : HealthInput) :
    (∃ k : Check, k.failure? = none ∧ ds ++ loop.deeds timeout now input = [.checked k] ∧
        loop.next timeout now input = .resting) ∨
      LastRound (ds ++ loop.deeds timeout now input) (some (loop.next timeout now input)) := by
  cases h with
  | rests =>
    cases input with
    | elapsed => exact .inr (.stays (.checks now))
    | cancelled => exact .inr (.cancelled .rests (.inr rfl))
    | result r => exact .inr (.stays .rests)
  | checks since =>
    cases input with
    | elapsed => exact .inr (.stays (.checks since))
    | cancelled => exact .inr (.cancelled (.checks since) (.inr rfl))
    | result r =>
      rw [next_result, afterCheck]
      cases failure : (⟨since, now, timeout, r⟩ : Check).failure? with
      | none => exact .inl ⟨_, failure, rfl, rfl⟩
      | some reason => exact .inr (.stays (.fails failure))
  | fails failed => cases input <;> exact .inr (.stays (.fails failed))

theorem Watches.undergoes {loop : HealthLoop} {ds : List HealthDeed}
    (h : Watches (some loop) ds) (event : Event) :
    Watches (loop.undergo event).1 (ds ++ (loop.undergo event).2) := by
  obtain ⟨passed, last⟩ := h
  rename_i ks last'
  rw [List.append_assoc]
  cases last with
  | cancelled round gone =>
    obtain rfl : loop = .cancelled := by simpa using gone
    obtain ⟨nothing, gone⟩ := undergo_cancelled event
    rw [nothing, List.append_nil]
    exact .mk passed (.cancelled round gone)
  | stays round =>
    cases event with
    | told timeout now input =>
      rcases round.told timeout now input with ⟨k, passes, done, rests⟩ | last
      · have all : ∀ k' ∈ ks ++ [k], k'.failure? = none :=
          List.forall_mem_append.2 ⟨passed, List.forall_mem_singleton.2 passes⟩
        have anew : Watches (some .resting) ((ks ++ [k]).map .checked ++ []) :=
          .mk all (.stays .rests)
        simpa [undergo, done, rests] using anew
      · exact .mk passed last
    | leaves =>
      cases round with
      | rests => exact .mk passed (.stays .rests)
      | checks since => exact .mk passed (.stays (.checks since))
      | fails failed => exact .mk passed (.posts failed)
    | dropped =>
      refine .mk passed ?_
      cases round with
      | rests => exact .cancelled .rests (.inl rfl)
      | checks since => exact .cancelled (.checks since) (.inl rfl)
      | fails failed => exact .cancelled (.fails failed) (.inl rfl)

theorem Watches.run (events : List Event) :
    ∀ {loop? : Option HealthLoop} {ds : List HealthDeed}, Watches loop? ds →
      Watches (after loop? events) (ds ++ history loop? events) := by
  induction events with
  | nil =>
    intro loop? ds h
    rwa [history, List.append_nil]
  | cons event events ih =>
    intro loop? ds h
    have next : Watches (undergo? loop? event).1 (ds ++ (undergo? loop? event).2) := by
      cases loop? with
      | none => rwa [undergo?, List.append_nil]
      | some loop => exact h.undergoes event
    rw [history, ← List.append_assoc]
    exact ih next

/-! ## What that means for checks and reports -/

/-- What a loop may do up to its first failure, and what it owes then. -/
structure OneFailure (loop? : Option HealthLoop) (ds : List HealthDeed) : Prop where
  /-- No check follows one that failed. -/
  last    : upToFailure (checks ds) = checks ds
  goesOn  : loop? = some .resting ∨ (∃ since, loop? = some (.checking since)) →
    reasons (checks ds) = []
  works   : loop? ≠ none → posts ds = []
  reports : loop? = none → .cancelled ∉ ds →
    ∃ reason, reasons (checks ds) = [reason] ∧ posts ds = [reason]
  cancels : .cancelled ∈ ds → posts ds = []

/-- A round has one check at most, and nothing is reported in it. -/
theorem Round.unreported {loop : HealthLoop} {ds : List HealthDeed} (h : Round ds loop) :
    upToFailure (HealthDeed.checks ds) = HealthDeed.checks ds ∧ posts ds = [] := by
  cases h with
  | rests => exact ⟨rfl, rfl⟩
  | checks since => exact ⟨rfl, rfl⟩
  | fails failed => exact ⟨upToFailure_single _, rfl⟩

theorem LastRound.oneFailure {loop? : Option HealthLoop} {ds : List HealthDeed}
    (h : LastRound ds loop?) : OneFailure loop? ds := by
  cases h with
  | @stays ds loop round =>
    obtain ⟨last, unposted⟩ := round.unreported
    have stands : some loop ≠ none := Option.some_ne_none loop
    refine ⟨last, ?_, fun _ => unposted, fun gone => absurd gone stands, fun _ => unposted⟩
    intro goes
    cases round with
    | rests => rfl
    | checks since => rfl
    | fails failed => simp at goes
  | @posts k reason failed =>
    have blamed : reasons [k] = [reason] := List.filterMap_cons_some failed
    refine ⟨upToFailure_single k, by simp, fun stays => absurd rfl stays, fun _ _ => ?_, by simp⟩
    exact ⟨reason, blamed, rfl⟩
  | @cancelled ds loop round _ gone =>
    obtain ⟨last, unposted⟩ := round.unreported
    have ended : checks (ds ++ [.cancelled]) = checks ds := by simp [checks]
    have silent : HealthDeed.posts (ds ++ [.cancelled]) = [] := by
      rw [HealthDeed.posts_append, unposted]
      rfl
    refine ⟨by rwa [ended], ?_, fun _ => silent, fun _ uncancelled => ?_, fun _ => silent⟩
    · rcases gone with rfl | rfl <;> simp
    · exact absurd (by simp) uncancelled

/-- Checks that passed before make no difference. -/
theorem OneFailure.after_passed {ks : List Check} (passed : ∀ k ∈ ks, k.failure? = none)
    {loop? : Option HealthLoop} {ds : List HealthDeed} (h : OneFailure loop? ds) :
    OneFailure loop? (ks.map .checked ++ ds) := by
  have checked : checks (ks.map .checked ++ ds) = ks ++ checks ds := by
    rw [HealthDeed.checks_append, HealthDeed.checks_checked]
  have posted : posts (ks.map .checked ++ ds) = posts ds := by
    rw [HealthDeed.posts_append, HealthDeed.posts_checked, List.nil_append]
  have blamed : reasons (ks ++ checks ds) = reasons (checks ds) := by
    rw [reasons, List.filterMap_append]
    exact congrArg (· ++ reasons (checks ds)) (reasons_of_passed passed)
  have cancelled : .cancelled ∈ ks.map .checked ++ ds ↔ HealthDeed.cancelled ∈ ds := by simp
  constructor
  · rw [checked, upToFailure_append passed, h.last]
  · rw [checked, blamed]
    exact h.goesOn
  · rw [posted]
    exact h.works
  · rw [checked, blamed, posted, cancelled]
    exact h.reports
  · rw [posted, cancelled]
    exact h.cancels

theorem Watches.oneFailure {loop? : Option HealthLoop} {ds : List HealthDeed}
    (h : Watches loop? ds) : OneFailure loop? ds := by
  obtain ⟨passed, last⟩ := h
  exact last.oneFailure.after_passed passed

theorem history_oneFailure (events : List Event) :
    OneFailure (after (some .resting) events) (history (some .resting) events) :=
  (watches_resting.run events).oneFailure

/-! ## Cancellation -/

/-- A loop is told to end, or dropped. -/
inductive IsEnd : Event → Prop
  | told (timeout : Span) (now : Nat) : IsEnd (.told timeout now .cancelled)
  | dropped : IsEnd .dropped

theorem history_gone (events : List Event) : history none events = [] := by
  induction events with
  | nil => rfl
  | cons event events ih => exact ih

theorem history_cancelled (events : List Event) : history (some .cancelled) events = [] := by
  induction events with
  | nil => rfl
  | cons event events ih =>
    obtain ⟨nothing, gone | stays⟩ := undergo_cancelled event
    · rw [history, undergo?, nothing, gone, history_gone, List.append_nil]
    · rw [history, undergo?, nothing, stays, ih, List.append_nil]

/-- A loop none of whose checks has failed does nothing after its end. -/
theorem Watches.ends {loop? : Option HealthLoop} {ds : List HealthDeed} (h : Watches loop? ds)
    (passed : reasons (checks ds) = []) {event : Event} (ends : IsEnd event)
    (later : List Event) :
    history loop? (event :: later) = [] ∨ history loop? (event :: later) = [.cancelled] := by
  have active : ∀ loop : HealthLoop, (loop = .resting ∨ ∃ since, loop = .checking since) →
      history (some loop) (event :: later) = [.cancelled] := by
    rintro loop (rfl | ⟨since, rfl⟩)
    all_goals
      cases ends with
      | told timeout now => exact congrArg (List.cons _) (history_cancelled later)
      | dropped => exact congrArg (List.cons _) (history_gone later)
  obtain ⟨_, last⟩ := h
  cases last with
  | stays round =>
    cases round with
    | rests => exact .inr (active _ (.inl rfl))
    | checks since => exact .inr (active _ (.inr ⟨since, rfl⟩))
    | fails failed => simp [reasons, checks, failed] at passed
  | posts failed => exact .inl (history_gone _)
  | cancelled round gone =>
    rcases gone with rfl | rfl
    · exact .inl (history_gone _)
    · exact .inl (history_cancelled _)

/-- Whoever has reported has seen a failure. -/
theorem OneFailure.unposted {loop? : Option HealthLoop} {ds : List HealthDeed}
    (h : OneFailure loop? ds) (passed : reasons (checks ds) = []) : posts ds = [] := by
  by_cases gone : loop? = none
  · by_cases cancelled : .cancelled ∈ ds
    · exact h.cancels cancelled
    · obtain ⟨reason, failed, -⟩ := h.reports gone cancelled
      rw [passed] at failed
      cases failed
  · exact h.works gone

theorem history_ends {events : List Event}
    (passed : reasons (checks (history (some .resting) events)) = []) {event : Event}
    (ends : IsEnd event) (later : List Event) :
    checks (history (some .resting) (events ++ event :: later)) =
        checks (history (some .resting) events) ∧
      posts (history (some .resting) (events ++ event :: later)) = [] := by
  have unposted := (history_oneFailure events).unposted passed
  rw [history_append, HealthDeed.checks_append, HealthDeed.posts_append, unposted]
  rcases (watches_resting.run events).ends passed ends later with none | one
  · rw [none]
    exact ⟨List.append_nil _, rfl⟩
  · rw [one]
    exact ⟨List.append_nil _, rfl⟩

/-! ## All results -/

/-- An interval, and a check after it that comes to its end as it may. -/
def interval (k : Check) : List Event :=
  [.told k.timeout k.began .elapsed, .told k.timeout k.ended (.result k.result)]

def rounds (ks : List Check) : List Event := ks.flatMap interval

theorem rounds_cons (k : Check) (ks : List Check) : rounds (k :: ks) = interval k ++ rounds ks :=
  rfl

theorem interval_passed {k : Check} (passed : k.failure? = none) :
    after (some .resting) (interval k) = some .resting ∧
      history (some .resting) (interval k) = [.checked k] := by
  have rests : next k.timeout k.ended (.checking k.began) (.result k.result) = .resting := by
    simp only [next_result, afterCheck, passed]
  exact ⟨congrArg some rests, rfl⟩

theorem interval_failed {k : Check} {reason : String} (failed : k.failure? = some reason) :
    after (some .resting) (interval k) = some (.failed reason) ∧
      history (some .resting) (interval k) = [.checked k] := by
  have ended : next k.timeout k.ended (.checking k.began) (.result k.result) = .failed reason := by
    simp only [next_result, afterCheck, failed]
  exact ⟨congrArg some ended, rfl⟩

theorem rounds_passed {ks : List Check} (passed : ∀ k ∈ ks, k.failure? = none) :
    after (some .resting) (rounds ks) = some .resting ∧
      history (some .resting) (rounds ks) = ks.map .checked := by
  induction ks with
  | nil => exact ⟨rfl, rfl⟩
  | cons k ks ih =>
    rw [List.forall_mem_cons] at passed
    obtain ⟨rests, once⟩ := interval_passed passed.1
    obtain ⟨stands, done⟩ := ih passed.2
    rw [rounds_cons, after_append, history_append, rests, once, stands, done]
    exact ⟨rfl, rfl⟩

theorem rounds_failed (reason : String) (ks : List Check) :
    after (some (.failed reason)) (rounds ks) = some (.failed reason) ∧
      history (some (.failed reason)) (rounds ks) = [] := by
  induction ks with
  | nil => exact ⟨rfl, rfl⟩
  | cons k ks ih => exact ih

/-- A loop that nobody disturbs makes all checks up to the first that fails, and reports that. -/
theorem history_rounds (ks : List Check) :
    history (some .resting) (rounds ks ++ [.leaves]) =
        (upToFailure ks).map .checked ++ ((reasons ks).take 1).map .posted ∧
      (after (some .resting) (rounds ks ++ [.leaves]) = none ↔ reasons ks ≠ []) := by
  rw [history_append, after_append]
  rcases split_at_failure ks with all | ⟨passed, k, reason, later, rfl, all, failed⟩
  · have every : upToFailure ks = ks := by
      simpa [upToFailure] using upToFailure_append all []
    obtain ⟨stands, done⟩ := rounds_passed all
    rw [stands, done, every, reasons_of_passed all]
    exact ⟨rfl, by simp [after, undergo?, undergo]⟩
  · obtain ⟨stands, done⟩ := rounds_passed all
    obtain ⟨ends, once⟩ := interval_failed failed
    obtain ⟨waits, nothing⟩ := rounds_failed reason later
    have split : rounds (passed ++ k :: later) = rounds passed ++ (interval k ++ rounds later) := by
      rw [rounds, List.flatMap_append]
      rfl
    have first : upToFailure (passed ++ k :: later) = passed ++ [k] := by
      rw [upToFailure_append all, upToFailure, failed, if_neg (Option.some_ne_none reason)]
    have blamed : reasons (passed ++ k :: later) = reason :: reasons later := by
      rw [reasons, List.filterMap_append, List.filterMap_cons_some failed]
      exact congrArg (· ++ _) (reasons_of_passed all)
    rw [split, after_append, after_append, history_append, history_append, stands, done, ends, once,
      waits, nothing, first, blamed]
    exact ⟨by simp [history, undergo?, undergo], by simp [after, undergo?, undergo]⟩

/-- A loop checks up to the first failure, whatever happens to it, and reports it if nobody ends it
before; and it misses no check up to there. -/
structure EndsAtFailure : Prop where
  oneFailure : ∀ events : List Event,
    OneFailure (after (some .resting) events) (history (some .resting) events)
  attends : ∀ ks : List Check,
    history (some .resting) (rounds ks ++ [.leaves]) =
        (upToFailure ks).map .checked ++ ((reasons ks).take 1).map .posted ∧
      (after (some .resting) (rounds ks ++ [.leaves]) = none ↔ reasons ks ≠ [])
  cancels : ∀ (events later : List Event) (event : Event),
    reasons (checks (history (some .resting) events)) = [] → IsEnd event →
      checks (history (some .resting) (events ++ event :: later)) =
          checks (history (some .resting) events) ∧
        posts (history (some .resting) (events ++ event :: later)) = []

theorem endsAtFailure : EndsAtFailure where
  oneFailure := history_oneFailure
  attends := history_rounds
  cancels _ later _ passed ends := history_ends passed ends later

end HealthLoop
end DeviceLink
