import DeviceLink.Proofs.Session.Batches
import DeviceLink.Proofs.Session.Pairing
/-!
# How a session opens its streams

A session opens its streams in a task of its own, which others can drop. What happens to it in a
step is an input of the loop that it runs (`input?`), so along any schedule it is that loop, told
these inputs (`run_connects`). Its deeds are done: the platform is called in the name of the host,
the streams of an attempt that is given up are abandoned, and the batch goes into the queue of the
actor (`CarriedOut`). And it comes to its end: on a platform that refuses so many openings and none
after them, the batch is reported after as many calls, and one more for every method, if nobody
moves but the task and the clock (`opensInTime`).
-/
namespace DeviceLink.Bench.Rig

open ConnectDeed (outcomes posts)

variable {Config Command TagValue : Type}

/-! ## Inputs -/

/-- The platform looks at an opening, or the delay before it is over. -/
def IsDue (r : Rig Config Command TagValue) (t : Task Config Command TagValue) : Prop :=
  t.timer = .elapsed ∨ t.timer = .idle ∧ r.platform.openDelay = 0

instance (r : Rig Config Command TagValue) (t : Task Config Command TagValue) :
    Decidable (r.IsDue t) :=
  inferInstanceAs (Decidable (_ ∨ _ ∧ _))

/-- What a loop is told when its task makes the next step. -/
def nextInput (r : Rig Config Command TagValue) (t : Task Config Command TagValue) :
    Option (ConnectInput Nat) :=
  match t.job with
  | .connect (.opening _ next _) =>
    if r.IsDue t then some (.answered (r.platform.openStream next r.identity).1) else none
  | .connect .pausing => if t.timer = .elapsed then some .elapsed else none
  | _ => none

/-- What a loop is told in a step, whoever makes it. -/
def input? (r : Rig Config Command TagValue) (id : Nat) (c : Choice Config Command TagValue) :
    Option (ConnectInput Nat) :=
  match c with
  | .work other => if other = id then (r.find? id).bind r.nextInput else none
  | c => if ((r.step c).find? id).isNone then some .cancelled else none

/-- What a loop is told in a run. -/
def inputs (r : Rig Config Command TagValue) (id : Nat) :
    List (Choice Config Command TagValue) → List (ConnectInput Nat)
  | [] => []
  | c :: cs => (r.input? id c).toList ++ (r.step c).inputs id cs

theorem inputs_append (id : Nat) (cs cs' : List (Choice Config Command TagValue)) :
    ∀ r : Rig Config Command TagValue,
      r.inputs id (cs ++ cs') = r.inputs id cs ++ (r.run cs).inputs id cs' := by
  induction cs with
  | nil => intro r; rfl
  | cons c cs ih =>
    intro r
    rw [List.cons_append, inputs, inputs, ih, List.append_assoc]
    rfl

/-- The task with this number runs this loop for its generation; one that has ended is gone. -/
inductive Connects (r : Rig Config Command TagValue) (id g : Nat) : ConnectLoop Nat → Prop
  | stands {loop : ConnectLoop Nat} (timer : Timer)
      (found : r.find? id = some ⟨id, g, timer, .connect loop⟩) : Connects r id g loop
  | gone (found : r.find? id = none) : Connects r id g .ended

/-- What a loop does in a step is done to the platform and to the queue of the actor, and nothing
else is. -/
structure CarriedOut (r r' : Rig Config Command TagValue) (g : Nat) (loop : ConnectLoop Nat)
    (ds : List (ConnectDeed Nat)) : Prop where
  opens : ∀ m i, .called m (.ok i) ∈ ds →
    r.platform.openStream m r.identity = (.ok i, r'.platform)
  refused : ∀ m e, .called m (.error e) ∈ ds →
    ∃ p, r.platform.openStream m r.identity = (.error e, p) ∧
      r'.platform = (loop.held.map Prod.snd).foldl Platform.abandon p
  rests : outcomes ds = [] → r'.platform = r.platform
  identity : r'.identity = r.identity
  reports : r'.reports = r.reports ++ (posts ds).map (.opened g)

/-- All that a step of a task that opens streams can do. -/
inductive ConnectStep (r : Rig Config Command TagValue) (t : Task Config Command TagValue) :
    ConnectLoop Nat → Option (ConnectInput Nat) → Rig Config Command TagValue → Prop
  | waits {loop : ConnectLoop Nat} {r' : Rig Config Command TagValue} (timer : Timer)
      (found : r'.find? t.id = some ⟨t.id, t.generation, timer, .connect loop⟩)
      (done : CarriedOut r r' t.generation loop []) : ConnectStep r t loop none r'
  | told {loop : ConnectLoop Nat} {input : ConnectInput Nat} {r' : Rig Config Command TagValue}
      (connects : Connects r' t.id t.generation (loop.step input).1)
      (done : CarriedOut r r' t.generation loop (loop.deeds input)) :
      ConnectStep r t loop (some input) r'

/-! ## Steps -/

theorem carriedOut_nothing {r r' : Rig Config Command TagValue} (g : Nat) (loop : ConnectLoop Nat)
    (platform : r'.platform = r.platform) (identity : r'.identity = r.identity)
    (reports : r'.reports = r.reports) : CarriedOut r r' g loop [] where
  opens _ _ h := nomatch h
  refused _ _ h := nomatch h
  rests _ := platform
  identity := identity
  reports := reports.trans (List.append_nil _).symm

@[simp] theorem platform_report (r : Rig Config Command TagValue) (e : Report Nat) :
    (r.report e).platform = r.platform := by
  unfold report wake
  split <;> rfl

@[simp] theorem identity_report (r : Rig Config Command TagValue) (e : Report Nat) :
    (r.report e).identity = r.identity := by
  unfold report wake
  split <;> rfl

@[simp] theorem reports_report (r : Rig Config Command TagValue) (e : Report Nat) :
    (r.report e).reports = r.reports ++ [e] :=
  congrArg Session.reports (session_report r e)

section
variable {r : Rig Config Command TagValue} {t : Task Config Command TagValue}

theorem pause_connect {loop : ConnectLoop Nat} (found : r.find? t.id = some t)
    (hj : t.job = .connect loop) (millis : Nat) :
    ConnectStep r t loop none (r.pause t millis).1 := by
  obtain ⟨id, g, timer, job⟩ := t
  cases hj
  unfold pause
  split
  · exact .waits .elapsed (find?_put found rfl) (carriedOut_nothing g loop rfl rfl rfl)
  · exact .waits (.pending (r.now + millis) r.nextTimer) (find?_put found rfl)
      (carriedOut_nothing g loop rfl rfl rfl)

/-- An opening is refused: the streams of the attempt are abandoned. -/
theorem openNext_refused {opened : List (Method × Nat)} {next : Method} (rest : List Method)
    {e : TransportError} {p : Platform}
    (called : r.platform.openStream next r.identity = (.error e, p)) :
    (r.openNext t (.opening opened next rest) next).1 =
      { r with platform := (opened.map Prod.snd).foldl Platform.abandon p }.put
        { t with timer := .idle, job := .connect .pausing } := by
  simp only [openNext, called, ConnectLoop.step_refused]
  rfl

theorem openNext_more {opened : List (Method × Nat)} {next m : Method} {rest : List Method}
    {i : Nat} {p : Platform} (called : r.platform.openStream next r.identity = (.ok i, p)) :
    (r.openNext t (.opening opened next (m :: rest)) next).1 =
      { r with platform := p }.put
        { t with timer := .idle, job := .connect (.opening (opened ++ [(next, i)]) m rest) } := by
  simp only [openNext, called]
  rfl

theorem openNext_last {opened : List (Method × Nat)} {next : Method} {i : Nat} {p : Platform}
    (called : r.platform.openStream next r.identity = (.ok i, p)) :
    (r.openNext t (.opening opened next []) next).1 =
      ({ r with platform := p }.remove t.id).report
        (.opened t.generation (opened ++ [(next, i)])) := by
  simp only [openNext, called]
  rfl

theorem openNext_connect {opened : List (Method × Nat)} {next : Method} {rest : List Method}
    (found : r.find? t.id = some t) :
    ConnectStep r t (.opening opened next rest)
      (some (.answered (r.platform.openStream next r.identity).1))
      (r.openNext t (.opening opened next rest) next).1 := by
  have stands : ∀ (p : Platform) (loop : ConnectLoop Nat),
      ({ r with platform := p }.put { t with timer := .idle, job := .connect loop }).find? t.id =
        some ⟨t.id, t.generation, .idle, .connect loop⟩ :=
    fun p loop => find?_put (show { r with platform := p }.find? t.id = some t from found) rfl
  rcases called : r.platform.openStream next r.identity with ⟨e | i, p⟩
  · rw [openNext_refused rest called]
    refine .told ?_ ⟨?_, ?_, ?_, rfl, ?_⟩
    · rw [ConnectLoop.step_refused]
      exact .stands .idle (stands _ _)
    all_goals simp [outcomes, posts, called, put, ConnectLoop.held]
  · cases rest with
    | cons m rest =>
      rw [openNext_more called]
      refine .told (.stands .idle (stands _ _)) ⟨?_, ?_, ?_, rfl, ?_⟩
      all_goals simp [ConnectLoop.deeds, ConnectLoop.step, outcomes, posts, called, put]
    | nil =>
      rw [openNext_last called]
      refine .told (.gone ?_) ⟨?_, ?_, ?_, ?_, ?_⟩
      · rw [find?_report]
        exact find?_remove _ _
      all_goals simp [ConnectLoop.deeds, ConnectLoop.step, outcomes, posts, called, remove]

theorem stepConnect_connect {loop : ConnectLoop Nat} (found : r.find? t.id = some t)
    (hj : t.job = .connect loop) (active : IsActive t.job) :
    ConnectStep r t loop (r.nextInput t) (r.stepConnect t loop).1 := by
  have stays : r.find? t.id = some ⟨t.id, t.generation, t.timer, .connect loop⟩ := by
    rw [found, ← hj]
  have rests := carriedOut_nothing (r := r) t.generation loop rfl rfl rfl
  cases loop with
  | opening opened next rest =>
    cases ht : t.timer with
    | idle =>
      by_cases instant : r.platform.openDelay = 0
      · simpa [nextInput, stepConnect, IsDue, hj, ht, instant] using openNext_connect found
      · simpa [nextInput, stepConnect, IsDue, hj, ht, instant] using pause_connect found hj _
    | elapsed => simpa [nextInput, stepConnect, IsDue, hj, ht] using openNext_connect found
    | pending due number =>
      simpa [nextInput, stepConnect, IsDue, hj, ht] using ConnectStep.waits t.timer stays rests
  | pausing =>
    cases ht : t.timer with
    | idle => simpa [nextInput, stepConnect, hj, ht] using pause_connect found hj _
    | elapsed =>
      have anew : (r.proceed t (.connect .attempt)).1.find? t.id =
          some ⟨t.id, t.generation, .idle, .connect .attempt⟩ := find?_put found rfl
      have goesOn : ConnectStep r t .pausing (some .elapsed)
          (r.proceed t (.connect .attempt)).1 :=
        .told (.stands .idle anew) (carriedOut_nothing t.generation .pausing rfl rfl rfl)
      simpa [nextInput, stepConnect, hj, ht, ConnectLoop.step] using goesOn
    | pending due number =>
      simpa [nextInput, stepConnect, hj, ht] using ConnectStep.waits t.timer stays rests
  | ended =>
    rw [hj] at active
    exact active.elim

end

theorem own_connect {r : Rig Config Command TagValue} (regular : r.session.Regular) {id g : Nat}
    {timer : Timer} {loop : ConnectLoop Nat}
    (found : r.find? id = some ⟨id, g, timer, .connect loop⟩) :
    ConnectStep r ⟨id, g, timer, .connect loop⟩ loop (r.input? id (.work id))
      (r.step (.work id)) := by
  have hstep := stepConnect_connect (t := ⟨id, g, timer, .connect loop⟩) found rfl
    (regular.active _ (find?_mem found).1)
  simpa only [input?, step, found, if_true, Option.bind_some, stepTask] using hstep

/-! ## Runs -/

theorem input?_idle (r : Rig Config Command TagValue) (id : Nat)
    {c : Choice Config Command TagValue} (idle : ∀ j, c ≠ .work j) :
    r.input? id c = if ((r.step c).find? id).isNone then some .cancelled else none := by
  cases c with
  | work j => exact absurd rfl (idle j)
  | instruct i => rfl
  | receive position => rfl
  | elsewhere world timer => rfl

/-- A loop, or its absence, after a step that no task makes. -/
theorem connects_idle {r : Rig Config Command TagValue} {id g : Nat} {loop : ConnectLoop Nat}
    (old : id < r.nextTask) (h : Connects r id g loop) {c : Choice Config Command TagValue}
    (idle : ∀ j, c ≠ .work j) :
    Connects (r.step c) id g (loop.after (r.input? id c).toList) := by
  have left : (r.step c).find? id = none →
      Connects (r.step c) id g (loop.after (r.input? id c).toList) := by
    intro gone
    rw [input?_idle r id idle, gone, Option.isNone_none, if_pos rfl, Option.toList_some,
      ConnectLoop.after, List.foldl_cons, List.foldl_nil, ConnectLoop.step_cancelled]
    exact .gone gone
  by_cases drops : Drops r c
  · exact left (step_drops old drops)
  · obtain ⟨timer, kept⟩ := step_keeps old drops idle
    cases h with
    | gone found =>
      rw [found] at kept
      exact left kept
    | stands before found =>
      rw [found] at kept
      rw [input?_idle r id idle, kept]
      exact .stands _ kept

theorem step_connects {r : Rig Config Command TagValue} (regular : r.session.Regular) {id g : Nat}
    {loop : ConnectLoop Nat} (old : id < r.nextTask) (h : Connects r id g loop)
    (c : Choice Config Command TagValue) :
    Connects (r.step c) id g (loop.after (r.input? id c).toList) := by
  by_cases idle : ∀ j, c ≠ .work j
  · exact connects_idle old h idle
  · obtain ⟨j, rfl⟩ : ∃ j, c = .work j := by simpa using idle
    by_cases own : j = id
    · subst own
      cases h with
      | gone found =>
        have nothing : r.input? j (.work j) = none := by simp [input?, found]
        rw [nothing]
        exact .gone (by simp [step, found])
      | stands timer found =>
        have hstep := own_connect regular found
        generalize r.input? j (.work j) = input?, r.step (.work j) = r' at hstep ⊢
        cases hstep with
        | waits timer found done => exact .stands timer found
        | told connects done => exact connects
    · have nothing : r.input? id (.work j) = none := if_neg own
      have same := find?_work regular own
      rw [nothing]
      cases h with
      | gone found => exact .gone (same.trans found)
      | stands timer found => exact .stands timer (same.trans found)

theorem run_connects {id g : Nat} (cs : List (Choice Config Command TagValue)) :
    ∀ {r : Rig Config Command TagValue} {loop : ConnectLoop Nat}, r.session.Regular →
      id < r.nextTask → Connects r id g loop →
      Connects (r.run cs) id g (loop.after (r.inputs id cs)) := by
  induction cs with
  | nil =>
    intro r loop regular old h
    exact h
  | cons c cs ih =>
    intro r loop regular old h
    have next := ih (step_regular r c regular) (step_old regular old c)
      (step_connects regular old h c)
    rw [inputs, ConnectLoop.after_append]
    exact next

/-- The deeds of a loop's own step are done. -/
theorem own_carriedOut {r : Rig Config Command TagValue} (regular : r.session.Regular) {id g : Nat}
    {timer : Timer} {loop : ConnectLoop Nat}
    (found : r.find? id = some ⟨id, g, timer, .connect loop⟩) :
    CarriedOut r (r.step (.work id)) g loop
      (loop.history (r.input? id (.work id)).toList) := by
  have hstep := own_connect regular found
  generalize r.input? id (.work id) = input?, r.step (.work id) = r' at hstep ⊢
  cases hstep with
  | waits timer found done => exact done
  | told connects done => simpa [ConnectLoop.history] using done

/-! ## A platform that refuses for a while -/

/-- So many calls were made in between. -/
structure Called (p p' : Platform) (calls : Nat) : Prop where
  attempts : p'.attempts = p.attempts + calls
  refusals : p'.refusals = p.refusals - calls
  refusing : p'.refusing = p.refusing

theorem called_refl (p : Platform) : Called p p 0 := ⟨rfl, rfl, rfl⟩

theorem Called.trans {p p' p'' : Platform} {n k : Nat} (h : Called p p' n) (h' : Called p' p'' k) :
    Called p p'' (n + k) where
  attempts := by rw [h'.attempts, h.attempts, Nat.add_assoc]
  refusals := by rw [h'.refusals, h.refusals, Nat.sub_sub]
  refusing := h'.refusing.trans h.refusing

theorem called_openStream (p : Platform) (m : Method) (who : Identity) :
    Called p (p.openStream m who).2 1 := by
  unfold Platform.openStream
  dsimp only
  split
  · exact ⟨rfl, rfl, rfl⟩
  · unfold Platform.stream?
    cases p.current.lookup m <;> exact ⟨rfl, rfl, rfl⟩

theorem called_abandon (streams : List Nat) :
    ∀ p : Platform, Called p (streams.foldl Platform.abandon p) 0 := by
  induction streams with
  | nil => exact called_refl
  | cons i streams ih =>
    intro p
    have one : Called p (p.abandon i) 0 := ⟨rfl, rfl, rfl⟩
    exact one.trans (ih (p.abandon i))

theorem openStream_ok {p : Platform} (refusing : p.refusing = false) (refusals : p.refusals = 0)
    (m : Method) (who : Identity) : ∃ i, (p.openStream m who).1 = .ok i := by
  simp [Platform.openStream, refusing, refusals]

theorem openStream_error {p : Platform} (refusals : p.refusals ≠ 0) (m : Method)
    (who : Identity) : ∃ e, (p.openStream m who).1 = .error e := by
  simp [Platform.openStream, refusals]

/-- The calls and the reports of a loop are those of the session. -/
structure Accounts (r r' : Rig Config Command TagValue) (g : Nat) (ds : List (ConnectDeed Nat)) :
    Prop where
  called  : Called r.platform r'.platform (outcomes ds).length
  reports : r'.reports = r.reports ++ (posts ds).map (.opened g)

theorem Accounts.append {r r' r'' : Rig Config Command TagValue} {g : Nat}
    {ds ds' : List (ConnectDeed Nat)} (h : Accounts r r' g ds) (h' : Accounts r' r'' g ds') :
    Accounts r r'' g (ds ++ ds') where
  called := by
    rw [ConnectDeed.outcomes_append, List.length_append]
    exact h.called.trans h'.called
  reports := by
    rw [h'.reports, h.reports, ConnectDeed.posts_append, List.map_append, List.append_assoc]

theorem accounts_nothing {r r' : Rig Config Command TagValue} (g : Nat)
    (platform : r'.platform = r.platform) (reports : r'.reports = r.reports) :
    Accounts r r' g [] := by
  refine ⟨?_, reports.trans (List.append_nil _).symm⟩
  rw [platform]
  exact called_refl _

theorem CarriedOut.accounts {r r' : Rig Config Command TagValue} {g : Nat}
    {loop : ConnectLoop Nat} {input : ConnectInput Nat}
    (h : CarriedOut r r' g loop (loop.deeds input)) : Accounts r r' g (loop.deeds input) := by
  refine ⟨?_, h.reports⟩
  rcases loop.outcomes_deeds input with none | ⟨m, o, one, call⟩
  · rw [h.rests none, none]
    exact called_refl _
  · have opened := called_openStream r.platform m r.identity
    rw [one]
    cases o with
    | ok i =>
      rw [h.opens m i call] at opened
      exact opened
    | error e =>
      obtain ⟨p, refused, abandoned⟩ := h.refused m e call
      rw [refused] at opened
      rw [abandoned]
      exact opened.trans (called_abandon _ p)

theorem strikes_idle (r : Rig Config Command TagValue) (time : Nat) (j : Nat) :
    r.strikes time ≠ .work j := by
  unfold strikes
  nofun

/-- So it is as long as nobody moves but the task and the clock. -/
theorem Alone.accounts {id g : Nat} (cs : List (Choice Config Command TagValue)) :
    ∀ {r : Rig Config Command TagValue} {loop : ConnectLoop Nat}, r.session.Regular →
      id < r.nextTask → Connects r id g loop → r.Alone id cs →
      Accounts r (r.run cs) g (loop.history (r.inputs id cs)) := by
  induction cs with
  | nil =>
    intro r loop _ _ _ _
    exact accounts_nothing g rfl rfl
  | cons c cs ih =>
    intro r loop regular old h alone
    have later := ih (step_regular r c regular) (step_old regular old c)
      (step_connects regular old h c) alone.2
    rw [inputs, ConnectLoop.history_append]
    refine Accounts.append ?_ later
    rcases alone.1 with rfl | ⟨time, -, rfl⟩
    · cases h with
      | gone found =>
        have nothing : r.input? id (.work id) = none := by simp [input?, found]
        rw [nothing]
        exact accounts_nothing g (by simp [step, found]) (by simp [step, found])
      | stands timer found =>
        have done := own_carriedOut regular found
        cases told : r.input? id (.work id) with
        | none =>
          rw [told] at done
          exact ⟨done.rests rfl ▸ called_refl _, done.reports⟩
        | some input =>
          rw [told] at done
          simp only [Option.toList_some, ConnectLoop.history, List.append_nil] at done ⊢
          exact done.accounts
    · -- the clock is no input, unless the loop has ended before
      have nothing : loop.history (r.input? id (r.strikes time)).toList = [] := by
        rw [input?_idle r id (r.strikes_idle time)]
        split
        · exact loop.history_cancelled [] []
        · rfl
      rw [nothing, step_strikes]
      exact accounts_nothing g rfl rfl

/-! ### The next input -/

/-- What a loop that goes on is told next. -/
inductive Fits (r : Rig Config Command TagValue) : ConnectLoop Nat → ConnectInput Nat → Prop
  | call (opened : List (Method × Nat)) (next : Method) (rest : List Method) :
      Fits r (.opening opened next rest) (.answered (r.platform.openStream next r.identity).1)
  | pause : Fits r .pausing .elapsed

theorem Fits.of_same {r r' : Rig Config Command TagValue} {loop : ConnectLoop Nat}
    {input : ConnectInput Nat} (h : Fits r' loop input) (platform : r'.platform = r.platform)
    (identity : r'.identity = r.identity) : Fits r loop input := by
  cases h with
  | call opened next rest =>
    rw [platform, identity]
    exact .call opened next rest
  | pause => exact .pause

/-- The task is told its next input, if nobody moves but itself and the clock. -/
def ComesDue (r : Rig Config Command TagValue) (id : Nat) (loop : ConnectLoop Nat) : Prop :=
  ∃ cs input, r.Alone id cs ∧ r.inputs id cs = [input] ∧ Fits r loop input

section
variable {r : Rig Config Command TagValue} {id g : Nat} {loop : ConnectLoop Nat}

/-- A step that is no input brings it nearer. -/
theorem comesDue_later {c : Choice Config Command TagValue}
    (may : c = .work id ∨ ∃ time, r.now ≤ time ∧ c = r.strikes time)
    (quiet : r.input? id c = none) (platform : (r.step c).platform = r.platform)
    (identity : (r.step c).identity = r.identity) (h : ComesDue (r.step c) id loop) :
    ComesDue r id loop := by
  obtain ⟨cs, input, alone, told, fits⟩ := h
  refine ⟨c :: cs, input, ⟨may, alone⟩, ?_, fits.of_same platform identity⟩
  rw [inputs, quiet, told]
  rfl

theorem comesDue_elapsed (active : loop ≠ .ended)
    (found : r.find? id = some ⟨id, g, .elapsed, .connect loop⟩) : ComesDue r id loop := by
  cases loop with
  | opening opened next rest =>
    refine ⟨[.work id], _, alone_work r id, ?_, .call opened next rest⟩
    simp [inputs, input?, found, nextInput, IsDue]
  | pausing =>
    refine ⟨[.work id], _, alone_work r id, ?_, .pause⟩
    simp [inputs, input?, found, nextInput]
  | ended => exact absurd rfl active

theorem comesDue_pending (active : loop ≠ .ended) {due number : Nat}
    (found : r.find? id = some ⟨id, g, .pending due number, .connect loop⟩) :
    ComesDue r id loop := by
  have struck : (r.step (r.strikes (max r.now due))).find? id =
      some ⟨id, g, .elapsed, .connect loop⟩ := by
    have reached : expired (max r.now due)
        (⟨id, g, .pending due number, .connect loop⟩ : Task Config Command TagValue) =
          .elapsed := if_pos (Nat.le_max_right r.now due)
    rw [find?_strikes, found, Option.map_some, reached]
  have quiet : r.input? id (r.strikes (max r.now due)) = none := by
    rw [input?_idle r id (r.strikes_idle _), struck]
    rfl
  refine comesDue_later (.inr ⟨_, Nat.le_max_left _ _, rfl⟩) quiet ?_ ?_
    (comesDue_elapsed active struck)
  · rw [step_strikes]
    rfl
  · rw [step_strikes]
    rfl

theorem step_work {t : Task Config Command TagValue} (found : r.find? id = some t) :
    r.step (.work id) = (r.stepTask t).1 := by
  simp only [step, found]

/-- A pause of any length comes to its end. -/
theorem comesDue_pause (active : loop ≠ .ended) {millis : Nat}
    (found : r.find? id = some ⟨id, g, .idle, .connect loop⟩)
    (quiet : r.input? id (.work id) = none)
    (pauses : r.stepTask ⟨id, g, .idle, .connect loop⟩ =
      r.pause ⟨id, g, .idle, .connect loop⟩ millis) : ComesDue r id loop := by
  have next : r.step (.work id) = (r.pause ⟨id, g, .idle, .connect loop⟩ millis).1 := by
    rw [step_work found, pauses]
  have stands : ∀ timer, (r.put ⟨id, g, timer, .connect loop⟩).find? id =
      some ⟨id, g, timer, .connect loop⟩ :=
    fun timer => find?_put (t := ⟨id, g, .idle, .connect loop⟩) found rfl
  refine comesDue_later (.inl rfl) quiet ?_ ?_ ?_
  · rw [next, pause]
    split <;> rfl
  · rw [next, pause]
    split <;> rfl
  · rw [next, pause]
    split
    · exact comesDue_elapsed active (stands .elapsed)
    · exact comesDue_pending active (stands (.pending (r.now + millis) r.nextTimer))

theorem comesDue (active : loop ≠ .ended) {timer : Timer}
    (found : r.find? id = some ⟨id, g, timer, .connect loop⟩) : ComesDue r id loop := by
  cases timer with
  | elapsed => exact comesDue_elapsed active found
  | pending due number => exact comesDue_pending active found
  | idle =>
    cases loop with
    | opening opened next rest =>
      by_cases instant : r.platform.openDelay = 0
      · refine ⟨[.work id], _, alone_work r id, ?_, .call opened next rest⟩
        simp [inputs, input?, found, nextInput, IsDue, instant]
      · refine comesDue_pause active found ?_ (if_neg instant)
        simp [input?, found, nextInput, IsDue, instant]
    | pausing =>
      refine comesDue_pause active found ?_ rfl
      simp [input?, found, nextInput]
    | ended => exact absurd rfl active

end

/-! ### The whole way -/

open ConnectLoop (answering)

section
variable {r : Rig Config Command TagValue} {id g : Nat} {timer : Timer}

/-- A loop that goes on, after it was told its next input. -/
theorem tells (regular : r.session.Regular) {loop : ConnectLoop Nat}
    (found : r.find? id = some ⟨id, g, timer, .connect loop⟩) (active : loop ≠ .ended) :
    ∃ cs input, r.Alone id cs ∧ r.inputs id cs = [input] ∧ Fits r loop input ∧
      (r.run cs).session.Regular ∧ Connects (r.run cs) id g (loop.step input).1 ∧
      Called r.platform (r.run cs).platform (outcomes (loop.deeds input)).length := by
  obtain ⟨cs, input, alone, told, fits⟩ := comesDue active found
  have old : id < r.nextTask := regular.fresh _ (find?_mem found).1
  have connects := run_connects cs regular old (.stands timer found)
  have accounts := alone.accounts cs regular old (.stands timer found)
  rw [told] at connects accounts
  refine ⟨cs, input, alone, told, fits, run_regular regular cs, connects, ?_⟩
  simpa [ConnectLoop.history] using accounts.called

/-- A platform that refuses nothing lets an attempt go through. -/
theorem opensAll (rest : List Method) :
    ∀ {r : Rig Config Command TagValue} {timer : Timer} {opened : List (Method × Nat)}
      {next : Method}, r.session.Regular →
      r.find? id = some ⟨id, g, timer, .connect (.opening opened next rest)⟩ →
      r.platform.refusing = false → r.platform.refusals = 0 →
      ∃ cs, ∃ streams : List Nat, r.Alone id cs ∧
        r.inputs id cs = answering (streams.map .ok) ∧ streams.length = rest.length + 1 := by
  induction rest with
  | nil =>
    intro r timer opened next regular found refusing refusals
    obtain ⟨cs, input, alone, told, fits, -⟩ := tells regular found nofun
    cases fits
    obtain ⟨i, opens⟩ := openStream_ok refusing refusals next r.identity
    rw [opens] at told
    exact ⟨cs, [i], alone, told, rfl⟩
  | cons m rest ih =>
    intro r timer opened next regular found refusing refusals
    obtain ⟨cs, input, alone, told, fits, regular', connects, called⟩ := tells regular found nofun
    cases fits
    obtain ⟨i, opens⟩ := openStream_ok refusing refusals next r.identity
    rw [opens] at told connects
    cases connects with
    | stands timer' found' =>
      obtain ⟨cs', streams, alone', told', length⟩ :=
        ih regular' found' (called.refusing.trans refusing)
          (by rw [called.refusals, refusals, Nat.zero_sub])
      refine ⟨cs ++ cs', i :: streams, alone.append alone', ?_, ?_⟩
      · rw [inputs_append, told, told']
        rfl
      · rw [List.length_cons, length, List.length_cons]

/-- A platform that refuses for a while makes it begin anew so many times. -/
theorem opensAtLast (refusals : Nat) :
    ∀ {r : Rig Config Command TagValue} {timer : Timer}, r.session.Regular →
      r.find? id = some ⟨id, g, timer, .connect .attempt⟩ →
      r.platform.refusing = false → r.platform.refusals = refusals →
      ∃ cs, ∃ (errors : List TransportError) (streams : List Nat), r.Alone id cs ∧
        r.inputs id cs = answering (errors.map .error ++ streams.map .ok) ∧
        errors.length = refusals ∧ streams.length = Method.all.length := by
  induction refusals with
  | zero =>
    intro r timer regular found refusing refusals
    obtain ⟨cs, streams, alone, told, length⟩ := opensAll _ regular found refusing refusals
    exact ⟨cs, [], streams, alone, told, rfl, length⟩
  | succ n ih =>
    intro r timer regular found refusing refusals
    obtain ⟨cs, input, alone, told, fits, regular', connects, called⟩ := tells regular found nofun
    cases fits
    obtain ⟨e, refused⟩ := openStream_error (p := r.platform) (by omega) .start r.identity
    rw [refused] at told connects called
    cases connects with
    | stands timer' found' =>
      obtain ⟨cs', input', alone', told', fits', regular'', connects', called'⟩ :=
        tells regular' found' nofun
      cases fits'
      cases connects' with
      | stands timer'' found'' =>
        have quiet := called.trans called'
        obtain ⟨later, errors, streams, alone'', told'', count, length⟩ :=
          ih regular'' found'' (quiet.refusing.trans refusing)
            (by rw [quiet.refusals, refusals]; rfl)
        refine ⟨cs ++ (cs' ++ later), e :: errors, streams, ?_, ?_, by simp [count], length⟩
        · exact alone.append (alone'.append (by simpa using alone''))
        · rw [inputs_append, inputs_append, told, told', told'']
          rfl

/-- It posts the batch after one call for each refusal, and one for each method. -/
theorem opensInTime (regular : r.session.Regular)
    (found : r.find? id = some ⟨id, g, timer, .connect .attempt⟩)
    (refusing : r.platform.refusing = false) :
    ∃ cs streams, r.Alone id cs ∧ streams.map Prod.fst = Method.all ∧
      (r.run cs).reports = r.reports ++ [.opened g streams] ∧
      (r.run cs).platform.attempts =
        r.platform.attempts + (r.platform.refusals + Method.all.length) := by
  obtain ⟨cs, errors, streams, alone, told, count, length⟩ :=
    opensAtLast _ regular found refusing rfl
  have old : id < r.nextTask := regular.fresh _ (find?_mem found).1
  obtain ⟨called, reports⟩ := alone.accounts cs regular old (.stands timer found)
  obtain ⟨posted, calls⟩ := ConnectLoop.history_refusals errors (Nat.le_of_eq length.symm)
  rw [told, posted] at reports
  rw [told, calls, count] at called
  refine ⟨cs, _, alone, ?_, reports, called.attempts⟩
  rw [List.take_of_length_le (Nat.le_of_eq length)]
  exact List.map_fst_zip (Nat.le_of_eq length.symm)

end

/-- **Batches of streams are all or nothing.** Whatever its calls come to, a loop calls for the
methods in their order, begins anew after a refusal, and posts once: as soon as it has opened a
stream for every method since the last refusal, and those. Whatever a session comes to, the task
that opens its streams is such a loop, and its deeds are what it does to the platform and to the
queue of the actor. A platform that refuses so many openings and none after them is called once for
each of these and once for each method, if nobody gets in the way. -/
theorem run_opens (driver : Driver Config Command TagValue) (settings : SessionSettings)
    (identity : Identity) (pipeline : Pipeline)
    (before : List (Choice Config Command TagValue)) {id g : Nat} {timer : Timer}
    (found : ((initial driver settings identity pipeline).run before).find? id =
      some ⟨id, g, timer, .connect .attempt⟩) :
    let r := (initial driver settings identity pipeline).run before
    (∀ σ, ConnectLoop.AllOrNothing σ) ∧
    (∀ after, Connects (r.run after) id g (ConnectLoop.attempt.after (r.inputs id after))) ∧
    (∀ after timer loop, (r.run after).find? id = some ⟨id, g, timer, .connect loop⟩ →
      CarriedOut (r.run after) ((r.run after).step (.work id)) g loop
        (loop.history ((r.run after).input? id (.work id)).toList)) ∧
    (r.platform.refusing = false →
      ∃ cs streams, r.Alone id cs ∧ streams.map Prod.fst = Method.all ∧
        (r.run cs).reports = r.reports ++ [.opened g streams] ∧
        (r.run cs).platform.attempts =
          r.platform.attempts + (r.platform.refusals + Method.all.length)) := by
  intro r
  have regular : r.session.Regular := run_regular (regular_nil rfl) before
  have old : id < r.nextTask := regular.fresh _ (find?_mem found).1
  refine ⟨ConnectLoop.allOrNothing, fun after => ?_, fun after timer loop stands => ?_, ?_⟩
  · exact run_connects after regular old (.stands timer found)
  · exact own_carriedOut (run_regular regular after) stands
  · exact opensInTime regular found

/-- A session on a platform that refuses three openings. -/
def reluctant : List (Choice DemoConfig DemoCommand Json) :=
  let r := demo DemoForm.basic.driver
  [.elsewhere { r with platform := { r.platform with refusals := 3 } } Task.timer, .instruct .start]

/-- Three calls for nothing, and six for the batch. -/
theorem run_opens_reluctant :
    let r := (demo DemoForm.basic.driver).run reluctant
    (∃ timer, r.find? 0 = some ⟨0, 1, timer, .connect .attempt⟩) ∧
    r.platform.refusing = false ∧
    ∃ cs streams, r.Alone 0 cs ∧ streams.map Prod.fst = Method.all ∧
      (r.run cs).reports = [.opened 1 streams] ∧ (r.run cs).platform.attempts = 9 := by
  intro r
  have found : r.find? 0 = some ⟨0, 1, .idle, .connect .attempt⟩ := rfl
  have willing : r.platform.refusing = false := rfl
  obtain ⟨cs, streams, alone, whole, reports, attempts⟩ :=
    (run_opens _ _ _ _ reluctant found).2.2.2 willing
  have queue : ∀ e, r.reports ++ [e] = [e] := fun _ => rfl
  have calls : r.platform.attempts + (r.platform.refusals + Method.all.length) = 9 := rfl
  exact ⟨⟨_, found⟩, willing, cs, streams, alone, whole,
    reports.trans (queue _), attempts.trans calls⟩

end DeviceLink.Bench.Rig
