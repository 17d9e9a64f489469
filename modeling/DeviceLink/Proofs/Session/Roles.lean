import DeviceLink.Proofs.Session.Schedule
import Mathlib.Data.List.Perm.Basic
import Mathlib.Data.List.Nodup
/-!
# One holder for each role

In whatever order the actor, its tasks and the world around them move, no role is ever held twice
and none that is needed is vacant. A role is held by a live task, or by a queued report that such
a task of the current generation has ended: while streams are being opened that is the loop that
opens them, while they serve it is a listener for every method and the health checks. So nothing
is doubled, and a session never waits for somebody who is gone (`run_settled`).

The invariant behind it (`Sound`) also numbers the tasks apart, keeps reports out of later
generations than the actor's, and says that a batch of streams is complete.
-/
namespace DeviceLink.Bench.Rig

variable {Config Command TagValue : Type}

namespace Session

/-- How many tasks are in a role. -/
def working (tasks : List (Task Config Command TagValue)) (role : Role) : Nat :=
  tasks.countP fun t => decide (roleOf t.job = role)

/-- How many reports of a generation say that a task in a role has ended. -/
def queued (reports : List (Report Nat)) (generation : Nat) (role : Role) : Nat :=
  reports.countP fun e => decide (e.generation = generation) && decide (endedRole e = role)

/-- The tasks in a role, and the reports of the current generation that one has ended. -/
def held (s : Session Config Command TagValue) (role : Role) : Nat :=
  working s.tasks role + queued s.reports s.actor.generation role

/-- How often each role is to be held. -/
structure Balanced (state : SessionState) (count : Role → Nat) : Prop where
  /-- While streams are being opened: one loop that opens them, no listener, no checks. -/
  connecting : state = .connecting ∨ state = .reconnecting →
    ∀ role, count role = if role = .connect then 1 else 0
  /-- While they serve: one listener for every method, checks once, no loop that opens them. -/
  running : state = .running → ∀ role, count role = if role = .connect then 0 else 1

/-- What holds between any two steps of a session. -/
structure Settled (s : Session Config Command TagValue) : Prop where
  current : ∀ t ∈ s.tasks, t.generation = s.actor.generation
  /-- Nobody works for a session that is closed, or in which the driver broke off a stop. -/
  resting : s.actor.state = .closed ∨ s.actor.state = .closing → s.tasks = []
  balanced : Balanced s.actor.state s.held

/-- A settled session, with what makes it stay so. -/
structure Sound (s : Session Config Command TagValue) : Prop extends Settled s where
  distinct : (s.tasks.map Task.id).Nodup
  past : ∀ e ∈ s.reports, e.generation ≤ s.actor.generation
  complete : ∀ e ∈ s.reports, IsComplete e

/-! ## Counting -/

theorem filter_id {tasks : List (Task Config Command TagValue)} (h : (tasks.map Task.id).Nodup)
    {t : Task Config Command TagValue} (ht : t ∈ tasks) :
    tasks.filter (fun u => u.id == t.id) = [t] := by
  induction tasks with
  | nil => simp at ht
  | cons u tasks ih =>
    simp only [List.map_cons, List.nodup_cons, List.mem_map, not_exists, not_and] at h
    rcases List.mem_cons.1 ht with rfl | ht
    · have hn : ∀ v ∈ tasks, ¬ (v.id == t.id) = true := fun v hv => by
        simpa using h.1 v hv
      rw [List.filter_cons_of_pos (by simp), List.filter_eq_nil_iff.2 hn]
    · have hu : ¬ (u.id == t.id) = true := by simpa using fun e => h.1 t ht e.symm
      rw [List.filter_cons, if_neg hu, ih h.2 ht]

/-- A task and the others. -/
theorem working_remove {s : Session Config Command TagValue} (h : (s.tasks.map Task.id).Nodup)
    {t : Task Config Command TagValue} (ht : t ∈ s.tasks) (role : Role) :
    working s.tasks role =
      (if roleOf t.job = role then 1 else 0) + working (s.remove t.id).tasks role := by
  unfold working
  rw [List.countP_eq_countP_filter_add s.tasks _ fun u => u.id == t.id, filter_id h ht]
  simp only [remove, List.countP_singleton, decide_eq_true_eq]
  rfl

theorem working_map {tasks : List (Task Config Command TagValue)}
    {f : Task Config Command TagValue → Task Config Command TagValue}
    (h : ∀ t ∈ tasks, roleOf (f t).job = roleOf t.job) (role : Role) :
    working (tasks.map f) role = working tasks role := by
  simp only [working, List.countP_map]
  exact List.countP_congr fun t ht => by simp [h t ht]

/-- Nobody in any role is nobody at all. -/
theorem eq_nil_of_working {tasks : List (Task Config Command TagValue)}
    (h : ∀ role, working tasks role = 0) : tasks = [] := by
  cases tasks with
  | nil => rfl
  | cons t tasks => simpa [working] using h (roleOf t.job)

theorem working_started (s : Session Config Command TagValue) (role : Role)
    (jobs : List (Job Config Command TagValue)) :
    ∀ id, working (s.started id jobs) role = jobs.countP fun job => decide (roleOf job = role) := by
  unfold working
  induction jobs with
  | nil => intro id; rfl
  | cons job jobs ih => intro id; simp only [started, List.countP_cons, ih]

/-- Complete streams and the health checks make up the roles of a running session. -/
theorem countP_serving {streams : List (Method × Nat)}
    (h : streams.map Prod.fst = Method.all) (role : Role) :
    (serving streams : List (Job Config Command TagValue)).countP
      (fun job => decide (roleOf job = role)) = if role = .connect then 0 else 1 := by
  have hm : ∀ m, streams.countP (fun s => decide (s.1 = m)) = 1 := by
    intro m
    have : (streams.map Prod.fst).countP (fun n => decide (n = m)) = 1 := by
      rw [h]; cases m <;> decide
    simpa [List.countP_map, Function.comp_def] using this
  simp only [serving, List.countP_append, List.countP_map, Function.comp_def, roleOf,
    List.countP_singleton]
  cases role with
  | connect => simp
  | health => simp
  | listen m => simpa using hm m

theorem queued_append (reports : List (Report Nat)) (e : Report Nat) (generation : Nat)
    (role : Role) :
    queued (reports ++ [e]) generation role = queued reports generation role +
      if e.generation = generation ∧ endedRole e = role then 1 else 0 := by
  simp [queued, List.countP_append, List.countP_singleton]

theorem queued_eraseIdx {reports : List (Report Nat)} {i : Nat} {e : Report Nat}
    (h : reports[i]? = some e) (generation : Nat) (role : Role) :
    queued reports generation role =
      (if e.generation = generation ∧ endedRole e = role then 1 else 0) +
        queued (reports.eraseIdx i) generation role := by
  obtain ⟨hi, rfl⟩ := List.getElem?_eq_some_iff.1 h
  unfold queued
  rw [← (List.getElem_cons_eraseIdx_perm hi).countP_eq, List.countP_cons, Nat.add_comm]
  simp

/-- A generation that has not begun has no reports. -/
theorem queued_future {reports : List (Report Nat)} {generation : Nat}
    (h : ∀ e ∈ reports, e.generation < generation) (role : Role) :
    queued reports generation role = 0 := by
  refine List.countP_eq_zero.2 fun e he => ?_
  have := h e he
  simp [Nat.ne_of_lt this]

theorem nodup_started (s : Session Config Command TagValue)
    (jobs : List (Job Config Command TagValue)) :
    ∀ id, ((s.started id jobs).map Task.id).Nodup := by
  induction jobs with
  | nil => intro id; simp [started]
  | cons job jobs ih =>
    intro id
    simp only [started, List.map_cons, List.nodup_cons, List.mem_map, not_exists, not_and]
    refine ⟨fun t ht e => ?_, ih _⟩
    have := (mem_started ht).1
    omega

/-! ## What keeps a session sound -/

theorem Sound.eq_of_id {s : Session Config Command TagValue} (h : s.Sound)
    {t u : Task Config Command TagValue} (ht : t ∈ s.tasks) (hu : u ∈ s.tasks)
    (hid : u.id = t.id) : u = t :=
  List.inj_on_of_nodup_map h.distinct hu ht hid

/-- Tasks may change in whatever leaves their numbers, generations and roles. -/
theorem Sound.mapTasks {s : Session Config Command TagValue} (h : s.Sound)
    {f : Task Config Command TagValue → Task Config Command TagValue}
    (hid : ∀ t ∈ s.tasks, (f t).id = t.id)
    (hgen : ∀ t ∈ s.tasks, (f t).generation = t.generation)
    (hrole : ∀ t ∈ s.tasks, roleOf (f t).job = roleOf t.job) :
    ({ s with tasks := s.tasks.map f } : Session Config Command TagValue).Sound := by
  have hheld : ({ s with tasks := s.tasks.map f } : Session Config Command TagValue).held =
      s.held := by
    funext role
    simp only [held, working_map hrole]
  refine ⟨⟨?_, ?_, ?_⟩, ?_, ?_, ?_⟩
  · intro u hu
    obtain ⟨t, ht, rfl⟩ := List.mem_map.1 hu
    rw [hgen t ht]; exact h.current t ht
  · intro hs; simp [h.resting hs]
  · rw [hheld]; exact h.balanced
  · have hmap : s.tasks.map (Task.id ∘ f) = s.tasks.map Task.id := List.map_congr_left hid
    rw [List.map_map, hmap]
    exact h.distinct
  · exact h.past
  · exact h.complete

theorem Sound.put {s : Session Config Command TagValue} (h : s.Sound)
    {t : Task Config Command TagValue} (ht : t ∈ s.tasks) (timer : Timer)
    {job : Job Config Command TagValue} (role : roleOf job = roleOf t.job) :
    (s.put { t with timer := timer, job := job }).Sound := by
  refine h.mapTasks (fun u hu => ?_) (fun u hu => ?_) fun u hu => ?_
  · split
    · rename_i e; exact e.symm
    · rfl
  · split
    · rename_i e; rw [h.eq_of_id ht hu e]
    · rfl
  · split
    · rename_i e; rw [h.eq_of_id ht hu e]; exact role
    · rfl

/-- A task hands its role over to its report. -/
theorem Sound.hand {s : Session Config Command TagValue} (h : s.Sound)
    {t : Task Config Command TagValue} (ht : t ∈ s.tasks) {e : Report Nat}
    (generation : e.generation = t.generation) (role : endedRole e = roleOf t.job)
    (complete : IsComplete e) : ((s.remove t.id).report e).Sound := by
  have hsub : ∀ u ∈ (s.remove t.id).tasks, u ∈ s.tasks := fun u hu => (List.mem_filter.1 hu).1
  have hcur : e.generation = s.actor.generation := generation.trans (h.current t ht)
  have hheld : ((s.remove t.id).report e).held = s.held := by
    funext r
    have hq := queued_append s.reports e s.actor.generation r
    have hw := working_remove h.distinct ht r
    simp only [hcur, role, true_and] at hq
    simp only [held, Session.report, remove] at hw hq ⊢
    omega
  refine ⟨⟨?_, ?_, ?_⟩, ?_, ?_, ?_⟩
  · exact fun u hu => h.current u (hsub u hu)
  · intro hs
    have hn := h.resting hs
    rw [hn] at ht
    simp at ht
  · rw [hheld]; exact h.balanced
  · exact h.distinct.sublist (List.filter_sublist.map _)
  · intro e' he'
    rcases List.mem_append.1 he' with he' | he'
    · exact h.past e' he'
    · rw [List.mem_singleton.1 he', hcur]; exact Nat.le_refl _
  · intro e' he'
    rcases List.mem_append.1 he' with he' | he'
    · exact h.complete e' he'
    · rw [List.mem_singleton.1 he']; exact complete

/-- A report that nobody awaits holds no role that is needed. -/
theorem Sound.discard {s : Session Config Command TagValue} (h : s.Sound) {i : Nat}
    {e : Report Nat} (he : s.reports[i]? = some e) (stale : ¬ Awaits s.actor e) :
    (s.discard i).Sound := by
  have hsub : ∀ e' ∈ s.reports.eraseIdx i, e' ∈ s.reports := fun e' => List.mem_of_mem_eraseIdx
  -- a role that is needed, or held too often, would be the report's own
  have hheld : ∀ role, ¬ (e.generation = s.actor.generation ∧ endedRole e = role) →
      (s.discard i).held role = s.held role := by
    intro role hn
    have hq := queued_eraseIdx he s.actor.generation role
    rw [if_neg hn, Nat.zero_add] at hq
    simp only [held, hq, Session.discard]
  have hone : e.generation = s.actor.generation → s.held (endedRole e) ≠ 0 := by
    intro hg
    have hq := queued_eraseIdx he s.actor.generation (endedRole e)
    rw [if_pos ⟨hg, rfl⟩] at hq
    rw [held, hq]
    omega
  refine ⟨⟨?_, ?_, ?_⟩, ?_, ?_, ?_⟩
  · exact h.current
  · exact h.resting
  · constructor
    · intro hs role
      rw [hheld role]
      · exact h.balanced.connecting hs role
      · rintro ⟨hg, rfl⟩
        have hr : endedRole e ≠ .connect := fun hr => stale ⟨hg, by rw [hr]; exact hs⟩
        exact hone hg (by rw [h.balanced.connecting hs, if_neg hr])
    · intro hs role
      rw [hheld role]
      · exact h.balanced.running hs role
      · rintro ⟨hg, rfl⟩
        cases hr : endedRole e with
        | connect => exact hone hg (by rw [h.balanced.running hs, if_pos hr])
        | listen m => exact stale ⟨hg, by rw [hr]; exact hs⟩
        | health => exact stale ⟨hg, by rw [hr]; exact hs⟩
  · exact h.distinct
  · exact fun e' he' => h.past e' (hsub e' he')
  · exact fun e' he' => h.complete e' (hsub e' he')

/-- New tasks that hold their roles, where there was none before. -/
theorem spawnAll_sound {s : Session Config Command TagValue}
    {jobs : List (Job Config Command TagValue)} (empty : s.tasks = [])
    (restless : ¬ (s.actor.state = .closed ∨ s.actor.state = .closing))
    (balanced : Balanced s.actor.state fun role =>
      jobs.countP (fun job => decide (roleOf job = role)) +
        queued s.reports s.actor.generation role)
    (past : ∀ e ∈ s.reports, e.generation ≤ s.actor.generation)
    (complete : ∀ e ∈ s.reports, IsComplete e) : (s.spawnAll jobs).Sound := by
  have htasks : (s.spawnAll jobs).tasks = s.started s.nextTask jobs := by
    simp [spawnAll, empty]
  have hheld : (s.spawnAll jobs).held = fun role =>
      jobs.countP (fun job => decide (roleOf job = role)) +
        queued s.reports s.actor.generation role := by
    funext role
    rw [held, htasks, working_started]
    rfl
  refine ⟨⟨?_, ?_, ?_⟩, ?_, ?_, ?_⟩
  · intro t ht
    rw [htasks] at ht
    exact (mem_started ht).2.2.1
  · exact fun hs => absurd hs restless
  · rw [hheld]; exact balanced
  · rw [htasks]; exact nodup_started ..
  · exact past
  · exact complete

/-- A new generation begins with its loop alone; of what is queued nothing belongs to it. -/
theorem reconnect_sound {s : Session Config Command TagValue} {state : SessionState}
    (hstate : state = .connecting ∨ state = .reconnecting)
    (past : ∀ e ∈ s.reports, e.generation ≤ s.actor.generation)
    (complete : ∀ e ∈ s.reports, IsComplete e) :
    (s.reconnect ⟨state, s.actor.generation + 1, false⟩).Sound := by
  have hpast : ∀ e ∈ s.reports, e.generation < s.actor.generation + 1 :=
    fun e he => Nat.lt_succ_of_le (past e he)
  refine spawnAll_sound rfl ?_ ⟨fun _ role => ?_, ?_⟩
    (fun e he => Nat.le_of_lt (hpast e he)) complete
  · rintro (hs | hs) <;> rcases hstate with rfl | rfl <;> cases hs
  · rw [queued_future hpast role]
    cases role <;> rfl
  · intro hs; rcases hstate with rfl | rfl <;> cases hs

/-- The streams that are awaited: the loop that opened them was the only task, and their
listeners take its place. -/
theorem Sound.serve {s : Session Config Command TagValue} (h : s.Sound) {i : Nat} {g : Nat}
    {streams : List (Method × Nat)} (he : s.reports[i]? = some (.opened g streams))
    (awaited : Awaits s.actor (.opened g streams)) :
    ({ s.discard i with actor := { s.actor with state := .running } }.spawnAll
      (serving streams)).Sound := by
  obtain ⟨hg, hs⟩ := awaited
  have hsub : ∀ e' ∈ s.reports.eraseIdx i, e' ∈ s.reports := fun e' => List.mem_of_mem_eraseIdx
  have hsplit : ∀ role, working s.tasks role = 0 ∧
      queued (s.reports.eraseIdx i) s.actor.generation role = 0 := by
    intro role
    have hold := h.balanced.connecting hs role
    have hq := queued_eraseIdx he s.actor.generation role
    by_cases hr : role = .connect
    · subst hr
      rw [if_pos ⟨hg, rfl⟩] at hq
      rw [if_pos rfl, held] at hold
      omega
    · rw [if_neg hr, held] at hold
      omega
  refine spawnAll_sound (eq_nil_of_working fun role => (hsplit role).1)
    (by rintro (hs | hs) <;> cases hs) ⟨?_, fun _ role => ?_⟩
    (fun e' he' => h.past e' (hsub e' he')) fun e' he' => h.complete e' (hsub e' he')
  · rintro (hs | hs) <;> cases hs
  · rw [countP_serving (h.complete _ (List.mem_of_getElem? he))]
    exact Nat.add_eq_left.2 (hsplit role).2

/-- Without tasks and without a session there is nothing to hold. -/
theorem rest_sound {s : Session Config Command TagValue} (empty : s.tasks = [])
    (resting : s.actor.state = .closed ∨ s.actor.state = .closing)
    (past : ∀ e ∈ s.reports, e.generation ≤ s.actor.generation)
    (complete : ∀ e ∈ s.reports, IsComplete e) : s.Sound := by
  refine ⟨⟨?_, fun _ => empty, ?_⟩, ?_, past, complete⟩
  · intro t ht; simp [empty] at ht
  · constructor
    · rintro (hs | hs) <;> rcases resting with hr | hr <;> rw [hs] at hr <;> cases hr
    · intro hs; rcases resting with hr | hr <;> rw [hs] at hr <;> cases hr
  · rw [empty]; exact List.nodup_nil

end Session

/-! ## Every run -/

theorem initial_sound (driver : Driver Config Command TagValue) (settings : SessionSettings)
    (identity : Identity) (pipeline : Pipeline) :
    (initial driver settings identity pipeline).session.Sound := by
  refine Session.rest_sound rfl (.inl rfl) ?_ ?_
  · intro e he; simp [session, initial] at he
  · intro e he; simp [session, initial] at he

theorem step_sound (r : Rig Config Command TagValue) (c : Choice Config Command TagValue)
    (regular : r.session.Regular) (h : r.session.Sound) : (r.step c).session.Sound := by
  have hsub : ∀ position, ∀ e ∈ r.reports.eraseIdx position, e ∈ r.reports :=
    fun position e => List.mem_of_mem_eraseIdx
  have hstep := step_cases regular.active c
  generalize (r.step c).session = s at hstep ⊢
  cases hstep with
  | nothing => exact h
  | retimed timer => exact h.mapTasks (fun _ _ => rfl) (fun _ _ => rfl) fun _ _ => rfl
  | worked mem work =>
    cases work with
    | waits => exact h
    | goesOn timer job role active begun => exact h.put mem timer role
    | ends e generation role complete => exact h.hand mem generation role complete
  | started closed => exact Session.reconnect_sound (.inl rfl) h.past h.complete
  | stopped canStop state alive stopped => exact Session.rest_sound rfl stopped h.past h.complete
  | discarded queued stale => exact h.discard queued stale
  | served queued awaited => exact h.serve queued awaited
  | failed queued awaited failure =>
    exact Session.reconnect_sound (s := r.session.discard _) (.inr rfl)
      (fun e he => h.past e (hsub _ e he)) fun e he => h.complete e (hsub _ e he)

theorem run_sound {r : Rig Config Command TagValue} (regular : r.session.Regular)
    (h : r.session.Sound) (cs : List (Choice Config Command TagValue)) :
    (r.run cs).session.Sound :=
  (run_induction (P := fun r => r.session.Regular ∧ r.session.Sound)
    (fun r c h => ⟨step_regular r c h.1, step_sound r c h.1 h.2⟩) cs ⟨regular, h⟩).2

/-- **One holder for each role**, in every order of instructions, reports, steps of tasks and
changes of the world; and no task lives on that was told to end. -/
theorem run_settled (driver : Driver Config Command TagValue) (settings : SessionSettings)
    (identity : Identity) (pipeline : Pipeline)
    (choices : List (Choice Config Command TagValue)) :
    let s := ((initial driver settings identity pipeline).run choices).session
    s.Settled ∧ ∀ t ∈ s.tasks, IsActive t.job := by
  have keep : ∀ (r : Rig Config Command TagValue) c, r.session.Regular ∧ r.session.Sound →
      (r.step c).session.Regular ∧ (r.step c).session.Sound :=
    fun r c h => ⟨step_regular r c h.1, step_sound r c h.1 h.2⟩
  obtain ⟨regular, sound⟩ := run_induction
    (P := fun r => r.session.Regular ∧ r.session.Sound) keep choices
    ⟨regular_nil rfl, initial_sound driver settings identity pipeline⟩
  exact ⟨sound.toSettled, regular.active⟩

end DeviceLink.Bench.Rig
