import DeviceLink.Proofs.Session.Checks
import DeviceLink.Proofs.Session.Connecting
/-!
# How a session watches its health

The loop of health checks of a session is a task, which others can drop. What happens to it in a
step is an event of the loop that it runs (`healthEvent?`), so along any schedule it is that loop
(`run_guards`), and its deeds are done: its checks are asked of the platform and recorded, and its
failure goes into the queue of the actor (`Recorded`).
-/
namespace DeviceLink.Bench.Rig

open HealthDeed (checks posts)

variable {Config Command TagValue : Type}

/-! ## What happens to a loop -/

/-- What happens to a loop when its task makes the next step. -/
def nextHealthEvent (r : Rig Config Command TagValue) (t : Task Config Command TagValue) :
    Option HealthLoop.Event :=
  let told (input : HealthInput) := HealthLoop.Event.told r.settings.healthTimeout r.now input
  match t.job, t.timer with
  | .health .resting, .elapsed => some (told .elapsed)
  | .health (.checking _), .idle => r.platform.check.1.map fun result => told (.result result)
  | .health (.checking _), .elapsed => some (told (.result .timedOut))
  | .health (.failed _), _ | .health .cancelled, _ => some .leaves
  | _, _ => none

/-- What happens to a loop in a step, whoever makes it. -/
def healthEvent? (r : Rig Config Command TagValue) (id : Nat)
    (c : Choice Config Command TagValue) : Option HealthLoop.Event :=
  match c with
  | .work other => if other = id then (r.find? id).bind r.nextHealthEvent else none
  | c => if ((r.step c).find? id).isNone then some .dropped else none

/-- What happens to a loop in a run. -/
def healthEvents (r : Rig Config Command TagValue) (id : Nat) :
    List (Choice Config Command TagValue) → List HealthLoop.Event
  | [] => []
  | c :: cs => (r.healthEvent? id c).toList ++ (r.step c).healthEvents id cs

/-- The task with this number runs this loop for its generation, or is gone. -/
def Guards (r : Rig Config Command TagValue) (id g : Nat) : Option HealthLoop → Prop
  | some loop => ∃ timer, r.find? id = some ⟨id, g, timer, .health loop⟩
  | none => r.find? id = none

/-- A check comes to this: the platform says so, or the time is up. -/
def Answers (p p' : Platform) (result : CheckResult) : Prop :=
  p.check = (some result, p') ∨ result = .timedOut ∧ p' = p

/-- What a loop does in a step is asked of the platform, recorded and reported, and nothing else
is. -/
structure Recorded (r r' : Rig Config Command TagValue) (g : Nat) (ds : List HealthDeed) :
    Prop where
  asks    : ∀ k, .checked k ∈ ds → k.ended = r.now ∧ k.timeout = r.settings.healthTimeout ∧
    Answers r.platform r'.platform k.result
  health  : r'.health = (checks ds).foldl HealthStatus.record r.health
  reports : r'.reports = r.reports ++ (posts ds).map (.healthFailed g)

/-- All that a step of a task that checks the health can do. -/
inductive GuardStep (r : Rig Config Command TagValue) (t : Task Config Command TagValue)
    (loop : HealthLoop) : Option HealthLoop.Event → Rig Config Command TagValue → Prop
  | waits {r' : Rig Config Command TagValue} (guards : Guards r' t.id t.generation (some loop))
      (done : Recorded r r' t.generation []) : GuardStep r t loop none r'
  | undergoes {event : HealthLoop.Event} {r' : Rig Config Command TagValue}
      (guards : Guards r' t.id t.generation (loop.undergo event).1)
      (done : Recorded r r' t.generation (loop.undergo event).2) :
      GuardStep r t loop (some event) r'

/-! ## Steps -/

@[simp] theorem health_wake (r : Rig Config Command TagValue) (t : Turn) :
    (r.wake t).health = r.health := by
  unfold wake
  split <;> rfl

@[simp] theorem health_report (r : Rig Config Command TagValue) (e : Report Nat) :
    (r.report e).health = r.health := health_wake _ _

theorem recorded_nothing {r r' : Rig Config Command TagValue} (g : Nat)
    (health : r'.health = r.health) (reports : r'.reports = r.reports) : Recorded r r' g [] where
  asks _ h := nomatch h
  health := health
  reports := reports.trans (List.append_nil _).symm

section
variable {r : Rig Config Command TagValue} {t : Task Config Command TagValue} {loop : HealthLoop}

theorem pause_guards (r' : Rig Config Command TagValue) (found : r'.find? t.id = some t)
    (hj : t.job = .health loop) (health : r'.health = r.health) (reports : r'.reports = r.reports)
    (millis : Nat) : GuardStep r t loop none (r'.pause t millis).1 := by
  obtain ⟨id, g, timer, job⟩ := t
  cases hj
  unfold pause
  split
  · exact .waits ⟨_, find?_put found rfl⟩ (recorded_nothing g health reports)
  · exact .waits ⟨_, find?_put found rfl⟩ (recorded_nothing g health reports)

/-- The loop is told something, and goes on with what its own step makes of it. -/
theorem told_guards (found : r.find? t.id = some t) {platform : Platform} {input : HealthInput}
    (answers : ∀ result, input = .result result → Answers r.platform platform result) :
    GuardStep r t loop (some (.told r.settings.healthTimeout r.now input))
      ({ r with
          platform := platform
          health := (loop.step r.settings.healthTimeout r.now r.health input).2 }.proceed t
        (.health (loop.step r.settings.healthTimeout r.now r.health input).1)).1 := by
  have asks : ∀ k, .checked k ∈ loop.deeds r.settings.healthTimeout r.now input →
      k.ended = r.now ∧ k.timeout = r.settings.healthTimeout ∧
        Answers r.platform platform k.result := by
    intro k checked
    cases loop <;> cases input <;> simp only [HealthLoop.deeds, List.mem_singleton,
      List.not_mem_nil, HealthDeed.checked.injEq, reduceCtorEq] at checked
    subst checked
    exact ⟨rfl, rfl, answers _ rfl⟩
  have unposted : posts (loop.deeds r.settings.healthTimeout r.now input) = [] := by
    cases loop <;> cases input <;> rfl
  rw [HealthLoop.step_eq]
  refine .undergoes ⟨.idle, find?_put found rfl⟩ ⟨asks, rfl, ?_⟩
  simp only [HealthLoop.undergo, unposted]
  exact (List.append_nil _).symm

/-- It has come to its end, and posts its failure if it has one. -/
theorem leaves_guards {r' : Rig Config Command TagValue} (ended : (loop.undergo .leaves).1 = none)
    (gone : r'.find? t.id = none) (health : r'.health = r.health)
    (reports : r'.reports =
      r.reports ++ (posts (loop.undergo .leaves).2).map (.healthFailed t.generation)) :
    GuardStep r t loop (some .leaves) r' := by
  refine .undergoes ?_ ⟨?_, ?_, reports⟩
  · rw [ended]
    exact gone
  · intro k checked
    cases loop <;> simp [HealthLoop.undergo] at checked
  · rw [health]
    cases loop <;> rfl

theorem stepHealth_guards (found : r.find? t.id = some t) (hj : t.job = .health loop) :
    GuardStep r t loop (r.nextHealthEvent t) (r.stepHealth t loop).1 := by
  have stays : Guards r t.id t.generation (some loop) := by
    refine ⟨t.timer, ?_⟩
    rw [found, ← hj]
  have rests : Recorded r r t.generation [] := recorded_nothing _ rfl rfl
  unfold stepHealth
  dsimp only
  -- how long the pauses are does not matter, and is not to be computed
  generalize r.settings.keepalive.ticks = interval
  generalize r.settings.healthTimeout.ticks = patience
  cases loop with
  | resting =>
    cases ht : t.timer with
    | idle => simpa only [nextHealthEvent, hj, ht] using pause_guards r found hj rfl rfl interval
    | elapsed =>
      have nobody : ∀ result, HealthInput.elapsed = .result result →
          Answers r.platform r.platform result := nofun
      simpa only [nextHealthEvent, hj, ht] using told_guards found nobody
    | pending due number =>
      simpa only [nextHealthEvent, hj, ht] using GuardStep.waits stays rests
  | checking since =>
    cases ht : t.timer with
    | idle =>
      rcases answer : r.platform.check with ⟨_ | result, platform⟩
      · simpa only [nextHealthEvent, hj, ht, answer, Option.map_none] using
          pause_guards (r := r) { r with platform := platform } found hj rfl rfl patience
      · have told : ∀ result', HealthInput.result result = .result result' →
            Answers r.platform platform result' := by
          rintro _ ⟨⟩
          exact .inl answer
        simpa only [nextHealthEvent, hj, ht, answer, Option.map_some] using told_guards found told
    | elapsed =>
      have late : ∀ result, HealthInput.result .timedOut = .result result →
          Answers r.platform r.platform result := by
        rintro _ ⟨⟩
        exact .inr ⟨rfl, rfl⟩
      simpa only [nextHealthEvent, hj, ht] using told_guards found late
    | pending due number =>
      simpa only [nextHealthEvent, hj, ht] using GuardStep.waits stays rests
  | failed reason =>
    have left : GuardStep r t (.failed reason) (some .leaves)
        ((r.remove t.id).report (.healthFailed t.generation reason)) := by
      refine leaves_guards rfl ?_ (health_report ..) (reports_report ..)
      rw [find?_report]
      exact find?_remove _ _
    simpa only [nextHealthEvent, hj] using left
  | cancelled =>
    have left : GuardStep r t .cancelled (some .leaves) (r.remove t.id) :=
      leaves_guards rfl (find?_remove _ _) rfl (List.append_nil _).symm
    simpa only [nextHealthEvent, hj] using left

end

theorem own_guards {r : Rig Config Command TagValue} {id g : Nat} {timer : Timer}
    {loop : HealthLoop} (found : r.find? id = some ⟨id, g, timer, .health loop⟩) :
    GuardStep r ⟨id, g, timer, .health loop⟩ loop (r.healthEvent? id (.work id))
      (r.step (.work id)) := by
  have hstep := stepHealth_guards (t := ⟨id, g, timer, .health loop⟩) found rfl
  simpa only [healthEvent?, step, found, if_true, Option.bind_some, stepTask] using hstep

theorem own_recorded {r : Rig Config Command TagValue} {id g : Nat} {timer : Timer}
    {loop : HealthLoop} (found : r.find? id = some ⟨id, g, timer, .health loop⟩) :
    Recorded r (r.step (.work id)) g
      (HealthLoop.history (some loop) (r.healthEvent? id (.work id)).toList) := by
  have hstep := own_guards found
  generalize r.healthEvent? id (.work id) = event?, r.step (.work id) = r' at hstep ⊢
  cases hstep with
  | waits guards done => exact done
  | undergoes guards done => simpa [HealthLoop.history, HealthLoop.undergo?] using done

/-! ## Runs -/

theorem healthEvent?_idle (r : Rig Config Command TagValue) (id : Nat)
    {c : Choice Config Command TagValue} (idle : ∀ j, c ≠ .work j) :
    r.healthEvent? id c = if ((r.step c).find? id).isNone then some .dropped else none := by
  cases c with
  | work j => exact absurd rfl (idle j)
  | instruct i => rfl
  | receive position => rfl
  | elsewhere world timer => rfl

/-- A loop, or its absence, after a step that no task makes. -/
theorem guards_idle {r : Rig Config Command TagValue} {id g : Nat} {loop? : Option HealthLoop}
    (old : id < r.nextTask) (h : Guards r id g loop?) {c : Choice Config Command TagValue}
    (idle : ∀ j, c ≠ .work j) :
    Guards (r.step c) id g (HealthLoop.after loop? (r.healthEvent? id c).toList) := by
  have left : (r.step c).find? id = none →
      Guards (r.step c) id g (HealthLoop.after loop? (r.healthEvent? id c).toList) := by
    intro gone
    have dropped : HealthLoop.after loop? [.dropped] = none := by
      rcases loop? with _ | _ | _ | _ | _ <;> rfl
    rw [healthEvent?_idle r id idle, gone, Option.isNone_none, if_pos rfl, Option.toList_some,
      dropped]
    exact gone
  by_cases drops : Drops r c
  · exact left (step_drops old drops)
  · obtain ⟨timer, kept⟩ := step_keeps old drops idle
    cases loop? with
    | none =>
      have gone : r.find? id = none := h
      rw [gone] at kept
      exact left kept
    | some loop =>
      obtain ⟨before, found⟩ := h
      rw [found] at kept
      rw [healthEvent?_idle r id idle, kept]
      exact ⟨_, kept⟩

theorem guards_own {r : Rig Config Command TagValue} {id g : Nat} {loop? : Option HealthLoop}
    (h : Guards r id g loop?) :
    Guards (r.step (.work id)) id g
      (HealthLoop.after loop? (r.healthEvent? id (.work id)).toList) := by
  cases loop? with
  | none =>
    have gone : r.find? id = none := h
    have stays : r.step (.work id) = r := by simp [step, gone]
    have nothing : r.healthEvent? id (.work id) = none := by simp [healthEvent?, gone]
    rw [stays, nothing]
    exact h
  | some loop =>
    obtain ⟨before, found⟩ := h
    have hstep := own_guards found
    generalize r.healthEvent? id (.work id) = event?, r.step (.work id) = r' at hstep ⊢
    cases hstep with
    | waits guards done => exact guards
    | undergoes guards done => exact guards

/-- A loop, or its absence, after one step of anybody. -/
theorem step_guards {r : Rig Config Command TagValue} (regular : r.session.Regular) {id g : Nat}
    {loop? : Option HealthLoop} (old : id < r.nextTask) (h : Guards r id g loop?)
    (c : Choice Config Command TagValue) :
    Guards (r.step c) id g (HealthLoop.after loop? (r.healthEvent? id c).toList) := by
  by_cases idle : ∀ j, c ≠ .work j
  · exact guards_idle old h idle
  · obtain ⟨j, rfl⟩ : ∃ j, c = .work j := by simpa using idle
    by_cases own : j = id
    · subst own
      exact guards_own h
    · have nothing : r.healthEvent? id (.work j) = none := if_neg own
      have same := find?_work regular own
      rw [nothing]
      cases loop? with
      | none => exact same.trans h
      | some loop =>
        obtain ⟨timer, found⟩ := h
        exact ⟨timer, same.trans found⟩

theorem run_guards {id g : Nat} (cs : List (Choice Config Command TagValue)) :
    ∀ {r : Rig Config Command TagValue} {loop? : Option HealthLoop}, r.session.Regular →
      id < r.nextTask → Guards r id g loop? →
      Guards (r.run cs) id g (HealthLoop.after loop? (r.healthEvents id cs)) := by
  induction cs with
  | nil =>
    intro r loop? regular old h
    exact h
  | cons c cs ih =>
    intro r loop? regular old h
    have next := ih (step_regular r c regular) (step_old regular old c)
      (step_guards regular old h c)
    rw [healthEvents, HealthLoop.after_append]
    exact next

end DeviceLink.Bench.Rig
