import DeviceLink.Proofs.Session.Roles
import DeviceLink.Proofs.Session.Watching
/-!
# All checks of a session

Whatever a session comes to, and however many loops of health checks it has had by then, nobody but
these loops records a check. So what is known of the health is what all their checks say
(`run_health`), and those of one task are what one loop checks that begins at rest (`Lived`,
`conclusions_own`): none of them follows one that failed.

A loop also gets on. If nobody moves but its task and the clock, it makes as many checks as one
likes, whatever the platform answers and whether it answers at all, up to the first that fails
(`watchesOn`).
-/
namespace DeviceLink.Bench

/-- What the next check comes to; one that is never answered comes to its timeout. -/
def Platform.outcome (p : Platform) : CheckResult := p.check.1.getD .timedOut

/-- What so many checks come to, one after the other. -/
def Platform.outcomes : Nat → Platform → List CheckResult
  | 0, _ => []
  | n + 1, p => p.outcome :: Platform.outcomes n p.check.2

namespace Rig

open HealthDeed (checks)
open HealthLoop (EndsAtFailure)

variable {Config Command TagValue : Type}

/-! ## The checks of all loops -/

/-- The loop that the task with this number runs. -/
def healthLoop? (r : Rig Config Command TagValue) (id : Nat) : Option HealthLoop :=
  match r.find? id with
  | some ⟨_, _, _, .health loop⟩ => some loop
  | _ => none

/-- The checks that come to their end in a step, and whose they are. -/
def concluded (r : Rig Config Command TagValue) :
    Choice Config Command TagValue → List (Nat × Check)
  | .work id =>
    (checks (HealthLoop.history (r.healthLoop? id) (r.healthEvent? id (.work id)).toList)).map
      (Prod.mk id)
  | _ => []

/-- The checks that come to their end in a run, in their order. -/
def conclusions (r : Rig Config Command TagValue) :
    List (Choice Config Command TagValue) → List (Nat × Check)
  | [] => []
  | c :: cs => r.concluded c ++ (r.step c).conclusions cs

/-- Those of one task. -/
def checksOf (id : Nat) (ks : List (Nat × Check)) : List Check :=
  (ks.filter fun k => k.1 = id).map Prod.snd

theorem checksOf_append (id : Nat) (ks ks' : List (Nat × Check)) :
    checksOf id (ks ++ ks') = checksOf id ks ++ checksOf id ks' := by
  rw [checksOf, List.filter_append, List.map_append]
  rfl

theorem checksOf_own (id : Nat) (ks : List Check) : checksOf id (ks.map (Prod.mk id)) = ks := by
  simp [checksOf, List.filter_map, Function.comp_def]

theorem checksOf_other {id j : Nat} (other : j ≠ id) (ks : List Check) :
    checksOf id (ks.map (Prod.mk j)) = [] := by
  simp [checksOf, List.filter_map, Function.comp_def, other]

theorem healthLoop?_of_guards {r : Rig Config Command TagValue} {id g : Nat}
    {loop? : Option HealthLoop} (h : Guards r id g loop?) : r.healthLoop? id = loop? := by
  cases loop? with
  | none =>
    have gone : r.find? id = none := h
    simp only [healthLoop?, gone]
  | some loop =>
    obtain ⟨timer, found⟩ := h
    simp only [healthLoop?, found]

theorem concluded_own {r : Rig Config Command TagValue} {id g : Nat} {loop? : Option HealthLoop}
    (h : Guards r id g loop?) (c : Choice Config Command TagValue) :
    checksOf id (r.concluded c) =
      checks (HealthLoop.history loop? (r.healthEvent? id c).toList) := by
  by_cases idle : ∀ j, c ≠ .work j
  · have unchecked : r.concluded c = [] := by
      cases c with
      | work j => exact absurd rfl (idle j)
      | _ => rfl
    have dropped : checks (HealthLoop.history loop? [.dropped]) = [] := by
      rcases loop? with _ | _ | _ | _ | _ <;> rfl
    rw [unchecked, healthEvent?_idle r id idle]
    split
    · exact dropped.symm
    · rfl
  · obtain ⟨j, rfl⟩ : ∃ j, c = .work j := by simpa using idle
    by_cases own : j = id
    · subst own
      rw [concluded, healthLoop?_of_guards h, checksOf_own]
    · have nothing : r.healthEvent? id (.work j) = none := if_neg own
      rw [concluded, checksOf_other own, nothing]
      rfl

/-- What a task has checked in a run is what its loop has checked. -/
theorem conclusions_own {id g : Nat} (cs : List (Choice Config Command TagValue)) :
    ∀ {r : Rig Config Command TagValue} {loop? : Option HealthLoop}, r.session.Regular →
      id < r.nextTask → Guards r id g loop? →
      checksOf id (r.conclusions cs) =
        checks (HealthLoop.history loop? (r.healthEvents id cs)) := by
  induction cs with
  | nil =>
    intro r loop? _ _ _
    rfl
  | cons c cs ih =>
    intro r loop? regular old h
    have later := ih (step_regular r c regular) (step_old regular old c)
      (step_guards regular old h c)
    rw [conclusions, checksOf_append, concluded_own h, later, healthEvents,
      HealthLoop.history_append, HealthDeed.checks_append]

/-! ## Where loops come from -/

/-- A task that checks the health has done so before, or begins at rest. -/
theorem SessionStep.watchers {s s' : Session Config Command TagValue} (h : SessionStep s s')
    {t' : Task Config Command TagValue} (mem' : t' ∈ s'.tasks) {loop : HealthLoop}
    (watches : t'.job = .health loop) :
    loop = .resting ∨ ∃ t ∈ s.tasks, t.id = t'.id ∧ roleOf t.job = .health := by
  have stays : ∀ u ∈ s.tasks, u.id = t'.id → roleOf u.job = roleOf t'.job →
      loop = .resting ∨ ∃ t ∈ s.tasks, t.id = t'.id ∧ roleOf t.job = .health := by
    intro u mem same role
    rw [watches] at role
    exact .inr ⟨u, mem, same, role⟩
  have opens : t'.job ≠ .connect .attempt := by
    rw [watches]
    nofun
  cases h with
  | nothing => exact stays t' mem' rfl rfl
  | retimed timer =>
    obtain ⟨u, mem, rfl⟩ := List.mem_map.1 mem'
    exact stays u mem rfl rfl
  | @worked t _ mem work =>
    cases work with
    | waits => exact stays t' mem' rfl rfl
    | goesOn timer job role active begun =>
      obtain ⟨u, before, moved⟩ := List.mem_map.1 mem'
      by_cases own : u.id = t.id
      · rw [if_pos own] at moved
        subst moved
        exact stays t mem rfl role.symm
      · rw [if_neg own] at moved
        subst moved
        exact stays u before rfl rfl
    | ends e generation role complete => exact stays t' (List.mem_filter.1 mem').1 rfl rfl
  | started closed => exact absurd (List.mem_singleton.1 (mem_started mem').2.2.2) opens
  | stopped canStop state alive stopped => cases mem'
  | discarded queued stale => exact stays t' mem' rfl rfl
  | served queued awaited =>
    rcases List.mem_append.1 mem' with before | new
    · exact stays t' before rfl rfl
    · have serves := (mem_started new).2.2.2
      rw [watches] at serves
      simp only [serving, List.mem_append, List.mem_map, reduceCtorEq, and_false, exists_false,
        false_or, List.mem_singleton, Job.health.injEq] at serves
      exact .inl serves
  | failed queued awaited failure =>
    exact absurd (List.mem_singleton.1 (mem_started mem').2.2.2) opens

theorem guards_of_healthLoop? {r : Rig Config Command TagValue} {id : Nat} {loop : HealthLoop}
    (watched : r.healthLoop? id = some loop) : ∃ g, Guards r id g (some loop) := by
  unfold healthLoop? at watched
  split at watched
  · rename_i id' g timer loop' found
    obtain ⟨-, rfl⟩ := find?_mem found
    cases watched
    exact ⟨g, timer, found⟩
  · cases watched

theorem find?_of_mem {r : Rig Config Command TagValue} (sound : r.session.Sound)
    {t : Task Config Command TagValue} (mem : t ∈ r.tasks) : r.find? t.id = some t := by
  cases found : r.find? t.id with
  | none => exact absurd (beq_self_eq_true t.id) (List.find?_eq_none.1 found t mem)
  | some u =>
    obtain ⟨present, same⟩ := find?_mem found
    rw [sound.eq_of_id mem present same]

/-- A loop that is new is at rest. -/
theorem healthLoop?_new {r : Rig Config Command TagValue} (regular : r.session.Regular)
    (sound : r.session.Sound) {id : Nat} (unwatched : r.healthLoop? id = none)
    (c : Choice Config Command TagValue) {loop : HealthLoop}
    (watched : (r.step c).healthLoop? id = some loop) : loop = .resting := by
  obtain ⟨g, timer, found⟩ := guards_of_healthLoop? watched
  rcases (step_cases regular.active c).watchers (find?_mem found).1 rfl with
    rests | ⟨t, mem, same, role⟩
  · exact rests
  · have own : t.id = id := same
    have present : r.find? id = some t := own ▸ find?_of_mem sound mem
    obtain ⟨id', g', timer', job⟩ := t
    cases job with
    | health loop' => simp [healthLoop?, present] at unwatched
    | connect loop' => cases role
    | listen m i l work => cases role

/-- What a task has checked so far is what a loop checks that begins at rest. -/
inductive Lived (r : Rig Config Command TagValue) (id : Nat) : List Check → Prop
  | unwatched (nobody : r.healthLoop? id = none) : Lived r id []
  | watched {g : Nat} (events : List HealthLoop.Event) (old : id < r.nextTask)
      (guards : Guards r id g (HealthLoop.after (some .resting) events)) :
      Lived r id (checks (HealthLoop.history (some .resting) events))

theorem Lived.history {r : Rig Config Command TagValue} {id : Nat} {ks : List Check}
    (h : Lived r id ks) : ∃ events, ks = checks (HealthLoop.history (some .resting) events) := by
  cases h with
  | unwatched nobody => exact ⟨[], rfl⟩
  | watched events old guards => exact ⟨events, rfl⟩

theorem concluded_unwatched {r : Rig Config Command TagValue} {id : Nat}
    (nobody : r.healthLoop? id = none) (c : Choice Config Command TagValue) :
    checksOf id (r.concluded c) = [] := by
  cases c with
  | work j =>
    by_cases own : j = id
    · subst own
      rw [concluded, nobody, HealthLoop.history_gone]
      rfl
    · exact checksOf_other own _
  | _ => rfl

theorem Lived.step {r : Rig Config Command TagValue} (regular : r.session.Regular)
    (sound : r.session.Sound) {id : Nat} {ks : List Check} (h : Lived r id ks)
    (c : Choice Config Command TagValue) :
    Lived (r.step c) id (ks ++ checksOf id (r.concluded c)) := by
  cases h with
  | unwatched nobody =>
    -- a loop that is new has made no check in the step that made it
    rw [concluded_unwatched nobody]
    cases watched : (r.step c).healthLoop? id with
    | none => exact .unwatched watched
    | some loop =>
      obtain rfl := healthLoop?_new regular sound nobody c watched
      obtain ⟨g, timer, found⟩ := guards_of_healthLoop? watched
      have old := (step_regular r c regular).fresh _ (find?_mem found).1
      exact .watched [] old ⟨timer, found⟩
  | watched events old guards =>
    have next := step_guards regular old guards c
    rw [← HealthLoop.after_append] at next
    rw [concluded_own guards, ← HealthDeed.checks_append, ← HealthLoop.history_append]
    exact .watched _ (step_old regular old c) next

theorem Lived.run {id : Nat} (cs : List (Choice Config Command TagValue)) :
    ∀ {r : Rig Config Command TagValue} {ks : List Check}, r.session.Regular → r.session.Sound →
      Lived r id ks → Lived (r.run cs) id (ks ++ checksOf id (r.conclusions cs)) := by
  induction cs with
  | nil =>
    intro r ks _ _ h
    rw [conclusions]
    simpa [checksOf] using h
  | cons c cs ih =>
    intro r ks regular sound h
    rw [conclusions, checksOf_append, ← List.append_assoc]
    exact ih (step_regular r c regular) (step_sound r c regular sound) (h.step regular sound c)

/-! ## Who records nothing -/

@[simp] theorem health_pause (r : Rig Config Command TagValue)
    (t : Task Config Command TagValue) (millis : Nat) :
    (r.pause t millis).1.health = r.health := by
  unfold pause
  split <;> rfl

theorem health_openNext (r : Rig Config Command TagValue) (t : Task Config Command TagValue)
    (loop : ConnectLoop Nat) (next : Method) : (r.openNext t loop next).1.health = r.health := by
  unfold openNext
  obtain ⟨outcome, platform⟩ := r.platform.openStream next r.identity
  dsimp only
  cases outcome with
  | error e =>
    dsimp only
    split
    · rw [health_report]
      rfl
    · rfl
  | ok i =>
    dsimp only
    split
    · rw [health_report]
      rfl
    · rfl

theorem health_stepConnect (r : Rig Config Command TagValue) (t : Task Config Command TagValue)
    (loop : ConnectLoop Nat) : (r.stepConnect t loop).1.health = r.health := by
  unfold stepConnect
  split
  · split
    · exact health_openNext ..
    · exact health_pause ..
  · exact health_openNext ..
  · exact health_pause ..
  · rfl
  · rfl
  · rfl

theorem health_stepListen (r : Rig Config Command TagValue) (t : Task Config Command TagValue)
    (m : Method) (stream : Nat) (l : Listener) (work : Option (Handling Config Command TagValue)) :
    (r.stepListen t m stream l work).1.health = r.health := by
  unfold stepListen
  split
  · split <;> rfl
  · rfl
  · split
    · split
      · rfl
      · exact health_pause ..
    · rfl
    · rfl
  · split <;> rfl
  · rw [health_report]
    rfl
  · rfl

theorem health_spawn_foldl (job : Method × Nat → Job Config Command TagValue)
    (streams : List (Method × Nat)) :
    ∀ r : Rig Config Command TagValue,
      (streams.foldl (fun r s => r.spawn (job s)) r).health = r.health := by
  induction streams with
  | nil => intro r; rfl
  | cons s streams ih => intro r; exact ih _

theorem health_obey (r : Rig Config Command TagValue) (decision : Actor × Order Nat) :
    (r.obey decision).health = r.health := by
  obtain ⟨a, order⟩ := decision
  cases order with
  | keep => rfl
  | connect => rfl
  | serve streams => exact health_spawn_foldl _ streams _

theorem health_receive (r : Rig Config Command TagValue) (e : Report Nat) :
    (r.receive e).health = r.health := by
  unfold receive
  split
  · rfl
  · exact health_obey ..

theorem health_command (r : Rig Config Command TagValue) (i : Instruction) :
    (r.command i).health = r.health := by
  cases i with
  | start => exact health_obey ..
  | stop =>
    show r.stopSession.health = r.health
    unfold stopSession
    split
    · rfl
    · dsimp only
      split <;> rfl

/-! ## What is known of the health -/

/-- Whatever else becomes of the world, what is known of the health stays. -/
def KeepsHealth (r : Rig Config Command TagValue) : Choice Config Command TagValue → Prop
  | .elsewhere world _ => world.health = r.health
  | _ => True

/-- Nobody from outside changes what is known of the health. -/
def Unmeddled (r : Rig Config Command TagValue) : List (Choice Config Command TagValue) → Prop
  | [] => True
  | c :: cs => r.KeepsHealth c ∧ (r.step c).Unmeddled cs

instance (r : Rig Config Command TagValue) (c : Choice Config Command TagValue) :
    Decidable (r.KeepsHealth c) :=
  match c with
  | .elsewhere world _ => inferInstanceAs (Decidable (world.health = r.health))
  | .instruct _ | .receive _ | .work _ => isTrue trivial

instance decidableUnmeddled (cs : List (Choice Config Command TagValue)) :
    ∀ r : Rig Config Command TagValue, Decidable (r.Unmeddled cs) :=
  match cs with
  | [] => fun _ => isTrue trivial
  | c :: cs => fun r =>
    have := decidableUnmeddled cs (r.step c)
    inferInstanceAs (Decidable (r.KeepsHealth c ∧ (r.step c).Unmeddled cs))

theorem concluded_work (r : Rig Config Command TagValue) (id : Nat) :
    (r.concluded (.work id)).map Prod.snd =
      checks (HealthLoop.history (r.healthLoop? id) (r.healthEvent? id (.work id)).toList) := by
  simp [concluded, Function.comp_def]

theorem health_work (r : Rig Config Command TagValue) (id : Nat) :
    (r.step (.work id)).health =
      ((r.concluded (.work id)).map Prod.snd).foldl HealthStatus.record r.health := by
  have unwatched : r.healthLoop? id = none → (r.concluded (.work id)).map Prod.snd = [] := by
    intro none
    rw [concluded_work, none, HealthLoop.history_gone]
    rfl
  cases found : r.find? id with
  | none =>
    rw [unwatched (by simp only [healthLoop?, found])]
    simp [step, found]
  | some t =>
    obtain ⟨-, rfl⟩ := find?_mem found
    obtain ⟨id, g, timer, job⟩ := t
    rw [step_work found]
    cases job with
    | connect loop =>
      rw [unwatched (by simp only [healthLoop?, found])]
      exact health_stepConnect ..
    | listen m i l work =>
      rw [unwatched (by simp only [healthLoop?, found])]
      exact health_stepListen ..
    | health loop =>
      have watched : r.healthLoop? id = some loop := healthLoop?_of_guards ⟨timer, found⟩
      rw [← step_work found, concluded_work, watched]
      exact (own_recorded found).health

theorem step_health {r : Rig Config Command TagValue} {c : Choice Config Command TagValue}
    (keeps : r.KeepsHealth c) :
    (r.step c).health =
      ((r.concluded c).map Prod.snd).foldl HealthStatus.record r.health := by
  cases c with
  | work id => exact health_work r id
  | instruct i =>
    rw [step]
    split
    · exact health_command ..
    · rfl
  | receive position =>
    simp only [step]
    split
    · exact health_receive ..
    · rfl
  | elsewhere world timer => exact keeps

/-- What is known of the health is what all checks say that were made, by whatever loop. -/
theorem run_health (cs : List (Choice Config Command TagValue)) :
    ∀ {r : Rig Config Command TagValue}, r.Unmeddled cs →
      (r.run cs).health =
        ((r.conclusions cs).map Prod.snd).foldl HealthStatus.record r.health := by
  induction cs with
  | nil =>
    intro r _
    rfl
  | cons c cs ih =>
    intro r unmeddled
    rw [run_cons, ih unmeddled.2, step_health unmeddled.1, conclusions, List.map_append,
      List.foldl_append]

/-! ## A loop that is left alone -/

theorem conclusions_append (cs cs' : List (Choice Config Command TagValue)) :
    ∀ r : Rig Config Command TagValue,
      r.conclusions (cs ++ cs') = r.conclusions cs ++ (r.run cs).conclusions cs' := by
  induction cs with
  | nil => intro r; rfl
  | cons c cs ih =>
    intro r
    rw [List.cons_append, conclusions, conclusions, ih, List.append_assoc]
    rfl

/-- What a run comes to in which only a task and the clock move, and nothing is reported. -/
structure Reaches (r : Rig Config Command TagValue) (id : Nat) (ks : List Check)
    (t : Task Config Command TagValue) (p : Platform) (cs : List (Choice Config Command TagValue)) :
    Prop where
  alone    : r.Alone id cs
  checked  : checksOf id (r.conclusions cs) = ks
  found    : (r.run cs).find? id = some t
  platform : (r.run cs).platform = p
  reports  : (r.run cs).reports = r.reports

theorem Reaches.trans {r : Rig Config Command TagValue} {id : Nat} {ks ks' : List Check}
    {t t' : Task Config Command TagValue} {p p' : Platform}
    {cs cs' : List (Choice Config Command TagValue)} (h : Reaches r id ks t p cs)
    (h' : Reaches (r.run cs) id ks' t' p' cs') :
    Reaches r id (ks ++ ks') t' p' (cs ++ cs') where
  alone := h.alone.append h'.alone
  checked := by rw [conclusions_append, checksOf_append, h.checked, h'.checked]
  found := by rw [run_append, h'.found]
  platform := by rw [run_append, h'.platform]
  reports := by rw [run_append, h'.reports, h.reports]

section
variable {r : Rig Config Command TagValue} {id g : Nat} {timer : Timer} {loop : HealthLoop}

/-- One step of the task itself. -/
theorem reaches_work (found : r.find? id = some ⟨id, g, timer, .health loop⟩)
    {event? : Option HealthLoop.Event}
    (event : r.nextHealthEvent ⟨id, g, timer, .health loop⟩ = event?)
    {r' : Rig Config Command TagValue}
    (next : (r.stepHealth ⟨id, g, timer, .health loop⟩ loop).1 = r')
    {t : Task Config Command TagValue} (found' : r'.find? id = some t)
    (reports : r'.reports = r.reports) :
    Reaches r id (checks (HealthLoop.history (some loop) event?.toList)) t r'.platform
      [.work id] := by
  have guards : Guards r id g (some loop) := ⟨timer, found⟩
  have stepped : r.run [.work id] = r' := (step_work found).trans next
  have happens : r.healthEvent? id (.work id) = event? := by
    rw [healthEvent?, if_pos rfl, found, Option.bind_some, event]
  refine ⟨alone_work r id, ?_, ?_, ?_, ?_⟩
  · rw [conclusions, conclusions, List.append_nil, concluded_own guards, happens]
  · rw [stepped, found']
  · rw [stepped]
  · rw [stepped, reports]

theorem reaches_strike {due number : Nat}
    (found : r.find? id = some ⟨id, g, .pending due number, .health loop⟩) :
    Reaches r id [] ⟨id, g, .elapsed, .health loop⟩ r.platform [r.strikes (max r.now due)] := by
  have reached : expired (max r.now due)
      (⟨id, g, .pending due number, .health loop⟩ : Task Config Command TagValue) = .elapsed :=
    if_pos (Nat.le_max_right r.now due)
  refine ⟨⟨.inr ⟨_, Nat.le_max_left _ _, rfl⟩, trivial⟩, rfl, ?_, ?_, ?_⟩
  · rw [run_cons, run_nil, find?_strikes, found, Option.map_some, reached]
  · rw [run_cons, run_nil, step_strikes]
    rfl
  · rw [run_cons, run_nil, step_strikes]
    rfl

/-- A pause of any length comes to its end. -/
theorem reaches_pause (found : r.find? id = some ⟨id, g, .idle, .health loop⟩)
    (quiet : r.nextHealthEvent ⟨id, g, .idle, .health loop⟩ = none) {p : Platform} {millis : Nat}
    (next : (r.stepHealth ⟨id, g, .idle, .health loop⟩ loop).1 =
      ({ r with platform := p }.pause ⟨id, g, .idle, .health loop⟩ millis).1) :
    ∃ cs, Reaches r id [] ⟨id, g, .elapsed, .health loop⟩ p cs := by
  have put : ∀ timer, ({ r with platform := p }.put ⟨id, g, timer, .health loop⟩).find? id =
      some ⟨id, g, timer, .health loop⟩ :=
    fun timer => find?_put (t := ⟨id, g, .idle, .health loop⟩) found rfl
  unfold pause at next
  split at next
  · exact ⟨_, reaches_work found quiet next (put .elapsed) rfl⟩
  · have waits := reaches_work found quiet next (put (.pending _ _)) rfl
    exact ⟨_, waits.trans (waits.platform ▸ reaches_strike waits.found)⟩

/-- An interval comes to its end, and a check begins. -/
theorem reaches_check (found : r.find? id = some ⟨id, g, timer, .health .resting⟩) :
    ∃ cs since, Reaches r id [] ⟨id, g, .idle, .health (.checking since)⟩ r.platform cs := by
  have begins : ∀ {r : Rig Config Command TagValue},
      r.find? id = some ⟨id, g, .elapsed, .health .resting⟩ →
      Reaches r id [] ⟨id, g, .idle, .health (.checking r.now)⟩ r.platform [.work id] := by
    intro r elapsed
    exact reaches_work elapsed rfl rfl
      (find?_put (t := ⟨id, g, .elapsed, .health .resting⟩) elapsed rfl) rfl
  cases timer with
  | elapsed => exact ⟨_, _, begins found⟩
  | pending due number =>
    have struck := reaches_strike found
    exact ⟨_, _, struck.trans (struck.platform ▸ begins struck.found)⟩
  | idle =>
    obtain ⟨cs, paused⟩ := reaches_pause found rfl rfl
    exact ⟨_, _, paused.trans (paused.platform ▸ begins paused.found)⟩

/-- A check comes to its end, and the loop goes on with what it came to. -/
theorem reaches_told {since : Nat} {result : CheckResult} {p : Platform}
    (found : r.find? id = some ⟨id, g, timer, .health (.checking since)⟩)
    (event : r.nextHealthEvent ⟨id, g, timer, .health (.checking since)⟩ =
      some (.told r.settings.healthTimeout r.now (.result result)))
    (next : (r.stepHealth ⟨id, g, timer, .health (.checking since)⟩ (.checking since)).1 =
      ({ r with
          platform := p
          health := ((HealthLoop.checking since).step r.settings.healthTimeout r.now r.health
            (.result result)).2 }.proceed ⟨id, g, timer, .health (.checking since)⟩
        (.health ((HealthLoop.checking since).step r.settings.healthTimeout r.now r.health
          (.result result)).1)).1) :
    ∃ k, k.result = result ∧
      Reaches r id [k] ⟨id, g, .idle, .health (HealthLoop.afterCheck k)⟩ p [.work id] := by
  refine ⟨⟨since, r.now, r.settings.healthTimeout, result⟩, rfl, ?_⟩
  rw [HealthLoop.step_eq, HealthLoop.next_result] at next
  exact reaches_work found event next
    (find?_put (t := ⟨id, g, timer, .health (.checking since)⟩) found rfl) rfl

theorem reaches_result {since : Nat}
    (found : r.find? id = some ⟨id, g, .idle, .health (.checking since)⟩) :
    ∃ cs k, k.result = r.platform.outcome ∧
      Reaches r id [k] ⟨id, g, .idle, .health (HealthLoop.afterCheck k)⟩ r.platform.check.2 cs := by
  rcases answer : r.platform.check with ⟨_ | result, p⟩
  · have quiet : r.nextHealthEvent ⟨id, g, .idle, .health (.checking since)⟩ = none := by
      simp only [nextHealthEvent, answer, Option.map_none]
    have waits : (r.stepHealth ⟨id, g, .idle, .health (.checking since)⟩ (.checking since)).1 =
        ({ r with platform := p }.pause ⟨id, g, .idle, .health (.checking since)⟩
          r.settings.healthTimeout.ticks).1 := by
      simp only [stepHealth, answer]
    obtain ⟨cs, paused⟩ := reaches_pause found quiet waits
    obtain ⟨k, late, ends⟩ := reaches_told (p := (r.run cs).platform) paused.found rfl rfl
    rw [paused.platform] at ends
    have silent : r.platform.outcome = .timedOut := by
      rw [Platform.outcome, answer]
      rfl
    exact ⟨_, k, late.trans silent.symm, paused.trans ends⟩
  · have told : r.nextHealthEvent ⟨id, g, .idle, .health (.checking since)⟩ =
        some (.told r.settings.healthTimeout r.now (.result result)) := by
      simp only [nextHealthEvent, answer, Option.map_some]
    obtain ⟨k, came, ends⟩ := reaches_told (p := p) found told (by simp only [stepHealth, answer])
    have outcome : r.platform.outcome = result := by
      rw [Platform.outcome, answer]
      rfl
    exact ⟨_, k, came.trans outcome.symm, ends⟩

/-- A failure is reported, and nothing is checked any more. -/
theorem reports_failure {reason : String}
    (found : r.find? id = some ⟨id, g, timer, .health (.failed reason)⟩) :
    checksOf id (r.conclusions [.work id]) = [] ∧
      (r.run [.work id]).reports = r.reports ++ [.healthFailed g reason] := by
  have guards : Guards r id g (some (.failed reason)) := ⟨timer, found⟩
  have leaves : r.healthEvent? id (.work id) = some .leaves := by
    rw [healthEvent?, if_pos rfl, found]
    rfl
  have posted := (own_recorded found).reports
  have unchecked := concluded_own guards (.work id)
  rw [leaves] at posted unchecked
  refine ⟨?_, posted⟩
  rw [conclusions, checksOf_append, unchecked]
  rfl

/-- A run in which nobody moves but the task and the clock, and the loop makes so many checks, or
those up to the first that fails, which it reports. -/
structure LeftAlone (r : Rig Config Command TagValue) (id g n : Nat)
    (cs : List (Choice Config Command TagValue)) (ks : List Check) : Prop where
  alone   : r.Alone id cs
  checked : checksOf id (r.conclusions cs) = ks
  results : ks.map Check.result <+: r.platform.outcomes n
  reports : ks.length = n ∧ reasons ks = [] ∧ (r.run cs).reports = r.reports ∨
    ∃ reason, reasons ks = [reason] ∧
      (r.run cs).reports = r.reports ++ [.healthFailed g reason]

/-- A check that passed comes before all that follows. -/
theorem LeftAlone.cons {n : Nat} {k : Check} {t : Task Config Command TagValue}
    {first later : List (Choice Config Command TagValue)} {ks : List Check}
    (once : Reaches r id [k] t r.platform.check.2 first) (came : k.result = r.platform.outcome)
    (passed : k.failure? = none) (h : LeftAlone (r.run first) id g n later ks) :
    LeftAlone r id g (n + 1) (first ++ later) (k :: ks) where
  alone := once.alone.append h.alone
  checked := by
    rw [conclusions_append, checksOf_append, once.checked, h.checked]
    rfl
  results := by
    have come := h.results
    rw [once.platform] at come
    rw [List.map_cons, Platform.outcomes, came]
    exact List.cons_prefix_cons.2 ⟨rfl, come⟩
  reports := by
    have reasoned : reasons (k :: ks) = reasons ks := List.filterMap_cons_none passed
    have reports := h.reports
    rw [once.reports] at reports
    rwa [reasoned, run_append, List.length_cons, Nat.add_right_cancel_iff]

/-- A check that failed is the last. -/
theorem leftAlone_failed (n : Nat) {k : Check} {first : List (Choice Config Command TagValue)}
    {p : Platform} {reason : String}
    (once : Reaches r id [k] ⟨id, g, timer, .health (.failed reason)⟩ p first)
    (came : k.result = r.platform.outcome) (failed : k.failure? = some reason) :
    LeftAlone r id g (n + 1) (first ++ [.work id]) [k] := by
  obtain ⟨unchecked, posted⟩ := reports_failure once.found
  refine ⟨once.alone.append (alone_work _ id), ?_, ?_,
    .inr ⟨reason, List.filterMap_cons_some failed, ?_⟩⟩
  · rw [conclusions_append, checksOf_append, once.checked, unchecked]
    rfl
  · rw [List.map_singleton, Platform.outcomes, came]
    exact List.cons_prefix_cons.2 ⟨rfl, List.nil_prefix⟩
  · rw [run_append, posted, once.reports]

end

/-- A loop that is left alone gets on. -/
theorem watchesOn (n : Nat) :
    ∀ {r : Rig Config Command TagValue} {id g : Nat} {timer : Timer},
      r.find? id = some ⟨id, g, timer, .health .resting⟩ → ∃ cs ks, LeftAlone r id g n cs ks := by
  induction n with
  | zero =>
    intro r id g timer _
    exact ⟨[], [], trivial, rfl, List.prefix_rfl, .inl ⟨rfl, rfl, rfl⟩⟩
  | succ n ih =>
    intro r id g timer found
    -- the platform is asked once, whenever the clock lets the check begin and end
    obtain ⟨cs, since, begins⟩ := reaches_check found
    obtain ⟨cs', k, came, ends⟩ := reaches_result begins.found
    rw [begins.platform] at came ends
    have once := begins.trans ends
    rw [List.nil_append] at once
    cases failure : k.failure? with
    | none =>
      simp only [HealthLoop.afterCheck, failure] at once
      obtain ⟨later, ks, alone⟩ := ih once.found
      exact ⟨_, _, .cons once came failure alone⟩
    | some reason =>
      simp only [HealthLoop.afterCheck, failure] at once
      exact ⟨_, _, leftAlone_failed n once came failure⟩

/-! ## Every run -/

/-- A loop of checks from here on, whoever else moves. -/
structure Attended (r : Rig Config Command TagValue) (id g : Nat) : Prop where
  /-- It is the loop that its events make of it. -/
  guards : ∀ cs, Guards (r.run cs) id g (HealthLoop.after (some .resting) (r.healthEvents id cs))
  /-- What it checks is what its task checks. -/
  checked : ∀ cs, checksOf id (r.conclusions cs) =
    checks (HealthLoop.history (some .resting) (r.healthEvents id cs))
  /-- What it does is done. -/
  recorded : ∀ cs timer loop,
    (r.run cs).find? id = some ⟨id, g, timer, .health loop⟩ →
      Recorded (r.run cs) ((r.run cs).step (.work id)) g
        (HealthLoop.history (some loop) ((r.run cs).healthEvent? id (.work id)).toList)
  /-- If nobody gets in its way, it checks as often as one likes, unless a check fails. -/
  goesOn : ∀ n, ∃ cs ks, LeftAlone r id g n cs ks

theorem attended {r : Rig Config Command TagValue} (regular : r.session.Regular) {id g : Nat}
    {timer : Timer} (found : r.find? id = some ⟨id, g, timer, .health .resting⟩) :
    Attended r id g := by
  have old : id < r.nextTask := regular.fresh _ (find?_mem found).1
  have guards : Guards r id g (some .resting) := ⟨timer, found⟩
  refine ⟨fun cs => ?_, fun cs => ?_, fun _ _ _ stands => own_recorded stands,
    fun n => watchesOn n found⟩
  · exact run_guards cs regular old guards
  · exact conclusions_own cs regular old guards

/-- **A health check that fails is the last of its loop, and all are counted.** Whatever its checks
come to, a loop makes them up to the first that fails, and reports that one, unless it was told to
end before. Only the word that the platform serves lets a check pass, which is one number on the
wire. Whatever a session comes to, the task that checks its health is such a loop, and no task
checks on after a failure. What is known of the health is what all these checks say, if nobody from
outside touches it. -/
theorem run_watches (driver : Driver Config Command TagValue) (settings : SessionSettings)
    (identity : Identity) (pipeline : Pipeline) :
    let r := initial driver settings identity pipeline
    EndsAtFailure ∧
    (∀ (timeout : Span) (result : CheckResult),
      result.failure? timeout = none ↔ ∃ errors, result = .answered ⟨.serving, errors⟩) ∧
    (∀ (timeout : Span) (link : Link) (who : Identity)
        (answer : Except Status Wire.HealthCheckResponse),
      (CheckResult.ofCall (Wire.checkHealth link who answer).1).failure? timeout = none ↔
        link = .reachable ∧ (∃ hs, who.tagged = .ok hs) ∧ ∃ m, answer = .ok m ∧ m.status = 1) ∧
    (∀ before id g timer, (r.run before).find? id = some ⟨id, g, timer, .health .resting⟩ →
      Attended (r.run before) id g) ∧
    (∀ cs id, upToFailure (checksOf id (r.conclusions cs)) = checksOf id (r.conclusions cs)) ∧
    ∀ cs, r.Unmeddled cs →
      let ks := (r.conclusions cs).map Prod.snd
      let h := (r.run cs).health
      HealthStatus.Tallies ks h ∧ h.consecutiveFailures ≤ h.totalErrors ∧
        (h.lastSuccess = none ↔ ∀ k ∈ ks, k.failure? ≠ none) := by
  intro r
  have regular : r.session.Regular := regular_nil rfl
  have sound : r.session.Sound := initial_sound driver settings identity pipeline
  refine ⟨HealthLoop.endsAtFailure, CheckResult.failure?_eq_none_iff, checkHealth_passes_iff,
    fun before id g timer found => attended (run_regular regular before) found, ?_, ?_⟩
  · intro cs id
    have lived : Lived r id [] := .unwatched rfl
    obtain ⟨events, same⟩ := (lived.run cs regular sound).history
    rw [List.nil_append] at same
    rw [same]
    exact (HealthLoop.history_oneFailure events).last
  · intro cs unmeddled
    have tallies := HealthStatus.tallies_foldl ((r.conclusions cs).map Prod.snd)
    have told : (r.run cs).health = _ := run_health cs unmeddled
    have first : r.health = HealthStatus.initial := rfl
    rw [first] at told
    rw [← told] at tallies
    exact ⟨tallies, tallies.consecutive_le_total, tallies.lastSuccess_eq_none_iff⟩

/-- The health checks of a session, which are task 7, come to their interval and check. -/
def inspects (r : Rig DemoConfig DemoCommand Json) (time : Nat) :
    List (Choice DemoConfig DemoCommand Json) :=
  [.work 7, (r.step (.work 7)).strikes time, .work 7, .work 7]

/-- A platform that serves although it lists an error, and then does not serve. -/
def ailing : List (Choice DemoConfig DemoCommand Json) :=
  let r := demo DemoForm.basic.driver
  let script : List HealthScript :=
    [.answer ⟨.serving, [⟨"E7", "fan is slow"⟩]⟩, .answer ⟨.notServing, []⟩]
  let s := r.run opening
  let opened := opening ++ [.elsewhere { s with platform := { s.platform with script } } Task.timer]
  let checked := opened ++ inspects (r.run opened) 10000
  checked ++ inspects (r.run checked) 20000 ++ [.work 7]

/-- The first check passes, the second is the last. -/
theorem run_watches_ailing :
    let r := demo DemoForm.basic.driver
    (∃ g timer, (r.run opening).find? 7 = some ⟨7, g, timer, .health .resting⟩ ∧
      Attended (r.run opening) 7 g) ∧
    r.Unmeddled ailing ∧
    (r.conclusions ailing).map (fun k => (k.1, k.2.ended, k.2.failure?)) =
      [(7, 10000, none), (7, 20000, some "platform status NotServing")] ∧
    HealthStatus.Tallies ((r.conclusions ailing).map Prod.snd) (r.run ailing).health := by
  intro r
  obtain ⟨-, -, -, attends, -, counts⟩ :=
    run_watches DemoForm.basic.driver .standard ⟨"project", "driver", "name", "service"⟩ ⟨[]⟩
  have watched : (r.run opening).healthLoop? 7 = some .resting := by decide +kernel
  obtain ⟨g, timer, found⟩ := guards_of_healthLoop? watched
  have unmeddled : r.Unmeddled ailing := by decide +kernel
  have came : (r.conclusions ailing).map (fun k => (k.1, k.2.ended, k.2.failure?)) =
      [(7, 10000, none), (7, 20000, some "platform status NotServing")] := by decide +kernel
  exact ⟨⟨g, timer, found, attends _ _ _ _ found⟩, unmeddled, came, (counts _ unmeddled).1⟩

end Rig
end DeviceLink.Bench
