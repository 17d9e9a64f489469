import DeviceLink.Proofs.Session.Presence
/-!
# What a call says is what it did

A call of the gateway is decided before the platform is asked: it is refused, or a sample comes to
nothing, or there is one message to send (`Plan`). Only what the caller is told of a message
depends on the platform (`perform_eq`). So whoever looks at the answer knows what happened
(`Truthful`): a refusal has touched nothing, a dropped sample has sent nothing, and any other
answer comes with just one message of the call's own kind; a platform that fails or says no is
never a reason to refuse (`perform_truthful`).
-/
namespace DeviceLink

namespace Gateway

open Bench.Rig (Post BlamesArguments blames_plan)

variable {σ : Type}

/-! ## Calls of all kinds -/

/-- What a call tells its caller. -/
inductive Answer
  | refused (e : LinkError)
  | dropped (reason : DropReason)
  | delivered (d : Delivery)

def Answer.ofOutcome : Except LinkError SampleOutcome → Answer
  | .error e => .refused e
  | .ok (.dropped reason) => .dropped reason
  | .ok (.sent _ _ d) => .delivered d

def Answer.ofDelivery : Except LinkError Delivery → Answer
  | .error e => .refused e
  | .ok d => .delivered d

def Answer.refusal? : Answer → Option LinkError
  | .refused e => some e
  | _ => none

/-- A call: its answer, and the store and the platform after it. -/
def perform (send : Sender σ) (pipeline : Pipeline) (state : SessionState) (s : Store) (p : σ) :
    Post → Answer × Store × σ
  | .sample x =>
    let (result, cache, p) := writeSample send state s.registry pipeline s.cache p x
    (.ofOutcome result, { s with cache := cache }, p)
  | .event e =>
    let (result, p) := writeEvent send state p e
    (.ofDelivery result, s, p)
  | .log table device level message time =>
    let (result, p) := writeLog send state p table device level message time
    (.ofDelivery result, s, p)
  | .update table row fields =>
    let (result, p) := updateResource send state p table row fields
    (.ofDelivery result, s, p)

/-- A platform that keeps account of what it is handed, the latest last. -/
def recording (send : Sender σ) : Sender (List Outbound × σ) := fun (sent, p) m =>
  let (reply, p) := send p m
  (reply, sent ++ [m], p)

/-- The message that a call is about. -/
inductive Carries : Post → Outbound → Prop
  | sample (s : Sample) (data : Bytes) : Carries (.sample s) (.point data)
  | event (e : DeviceLink.Event) : Carries (.event e) (.event (encode e.write))
  | log (table device : String) (level : LogLevel) (message time : String) :
      Carries (.log table device level message time)
        (.commandLog (encode (logPayload table device level message time)))
  | update (table row : String) (fields : List (String × Json)) :
      Carries (.update table row fields) (.updateTableData table row (encode (.object fields)))

/-! ## Plans -/

/-- What a call comes to before the platform is asked. -/
inductive Plan
  | refused (e : LinkError)
  | dropped (reason : DropReason)
  | send (m : Outbound)

def Plan.ofMessage : Except LinkError Outbound → Plan
  | .error e => .refused e
  | .ok m => .send m

def Plan.ofSample : SamplePlan → Plan
  | .dropped reason => .dropped reason
  | .send m _ _ => .send m

/-- The plan of a call, and the store that it leaves. -/
def plan (pipeline : Pipeline) (state : SessionState) (s : Store) : Post → Plan × Store
  | .sample x =>
    match checkSample state x with
    | .error e => (.refused e, s)
    | .ok () =>
      let (plan, cache) := planSample s.registry pipeline s.cache x
      (.ofSample plan, { s with cache := cache })
  | .event e => (.ofMessage (planEvent state e), s)
  | .log table device level message time =>
    (.ofMessage (planLog state table device level message time), s)
  | .update table row fields => (.ofMessage (planUpdate state table row fields), s)

/-- What the platform makes of a plan. -/
def conclude (send : Sender σ) (p : σ) : Plan → Answer × σ
  | .refused e => (.refused e, p)
  | .dropped reason => (.dropped reason, p)
  | .send m => (.delivered (.ofReply (send p m).1), (send p m).2)

theorem carry_eq (send : Sender σ) (p : σ) (x : Except LinkError Outbound) :
    (Answer.ofDelivery (carry send p x).1, (carry send p x).2) =
      conclude send p (.ofMessage x) := by
  cases x with
  | error e => rfl
  | ok m => rfl

/-- The plan is made first, whatever the platform is. -/
theorem perform_eq (send : Sender σ) (pipeline : Pipeline) (state : SessionState) (s : Store)
    (p : σ) (post : Post) :
    perform send pipeline state s p post =
      ((conclude send p (plan pipeline state s post).1).1, (plan pipeline state s post).2,
        (conclude send p (plan pipeline state s post).1).2) := by
  cases post with
  | sample x =>
    simp only [perform, plan, writeSample]
    cases checkSample state x with
    | error e => rfl
    | ok u =>
      dsimp only
      cases planSample s.registry pipeline s.cache x with
      | mk plan cache =>
        cases plan with
        | dropped reason => rfl
        | send m fieldsIn fieldsOut => rfl
  | event e => simp only [perform, plan, writeEvent, ← carry_eq]
  | log table device level message time => simp only [perform, plan, writeLog, ← carry_eq]
  | update table row fields => simp only [perform, plan, updateResource, ← carry_eq]

/-- Who is not let through in which state, and who is refused for the arguments. -/
def Cause (state : SessionState) (e : LinkError) : Prop :=
  state ≠ .running ∧ e = .notRunning state ∨
    state = .running ∧ ∃ reason, e = .invalidArgument reason

/-- All that a plan can be, and what was done for it. -/
inductive Planned (state : SessionState) (s : Store) (post : Post) : Plan × Store → Prop
  | refused (e : LinkError) (cause : Cause state e) : Planned state s post (.refused e, s)
  | dropped (reason : DropReason) (x : Sample) (isSample : post = .sample x)
      (running : state = .running) (cache : Cache)
      (unprocessed : reason = .unknownDevice → cache = s.cache) :
      Planned state s post (.dropped reason, { s with cache := cache })
  | ready (m : Outbound) (carries : Carries post m) (running : state = .running) (cache : Cache)
      (quiet : (∀ x, post ≠ .sample x) → cache = s.cache) :
      Planned state s post (.send m, { s with cache := cache })

theorem ensureRunning_of_ne {state : SessionState} (h : state ≠ .running) :
    ensureRunning state = .error (.notRunning state) := by
  have hb : state.isRunning = false := by
    cases state with
    | running => exact absurd rfl h
    | closed => rfl
    | connecting => rfl
    | reconnecting => rfl
    | closing => rfl
  rw [ensureRunning, hb]
  rfl

theorem eq_ok_of_bind {ε α β : Type} {x : Except ε α} {f : α → Except ε β} {b : β}
    (h : x >>= f = .ok b) : ∃ a, x = .ok a ∧ f a = .ok b := by
  cases x with
  | error e => cases h
  | ok a => exact ⟨a, rfl, h⟩

/-- All that becomes of a sample that passed its checks. -/
inductive Drafted (registry : Registry) (pipeline : Pipeline) (cache : Cache) (x : Sample) :
    SamplePlan × Cache → Prop
  | unknown (homeless : tableOf registry x = none) :
      Drafted registry pipeline cache x (.dropped .unknownDevice, cache)
  | exhausted (table : String) (found : tableOf registry x = some table)
      (nothing : (pipeline.process table (prepare registry x) cache).1.fields = []) :
      Drafted registry pipeline cache x
        (.dropped .noFieldsLeft, (pipeline.process table (prepare registry x) cache).2.1)
  | ready (table : String) (found : tableOf registry x = some table)
      (something : (pipeline.process table (prepare registry x) cache).1.fields ≠ []) :
      Drafted registry pipeline cache x
        (.send
            (.point (encode (pointPayload (pipeline.process table (prepare registry x) cache).1)))
            x.fields.length (pipeline.process table (prepare registry x) cache).1.fields.length,
          (pipeline.process table (prepare registry x) cache).2.1)

theorem drafted (registry : Registry) (pipeline : Pipeline) (cache : Cache) (x : Sample) :
    Drafted registry pipeline cache x (planSample registry pipeline cache x) := by
  unfold planSample
  cases found : tableOf registry x with
  | none => exact .unknown found
  | some table =>
    dsimp only
    by_cases empty : (pipeline.process table (prepare registry x) cache).1.fields.isEmpty = true
    · rw [if_pos empty]
      exact .exhausted table found (List.isEmpty_iff.1 empty)
    · rw [if_neg empty]
      exact .ready table found fun nothing => empty (List.isEmpty_iff.2 nothing)

/-- A sample is not sent, or it passed its checks, and what is left of it is handed over. -/
theorem writeSample_cases (send : Sender σ) (state : SessionState) (registry : Registry)
    (pipeline : Pipeline) (cache : Cache) (sent : List Outbound) (p : σ) (x : Sample) :
    let call := writeSample (recording send) state registry pipeline cache (sent, p) x
    (call.2.2.1 = sent ∧ ∀ fieldsIn fieldsOut d, call.1 ≠ .ok (.sent fieldsIn fieldsOut d)) ∨
      checkSample state x = .ok () ∧ ∃ table, tableOf registry x = some table ∧
        let processed := (pipeline.process table (prepare registry x) cache).1
        processed.fields ≠ [] ∧
        call.2.2.1 = sent ++ [.point (encode (pointPayload processed))] ∧
        ∃ d, call.1 = .ok (.sent x.fields.length processed.fields.length d) := by
  unfold writeSample
  cases checkSample state x with
  | error e => exact .inl ⟨rfl, fun _ _ _ h => nomatch h⟩
  | ok u =>
    have cases := drafted registry pipeline cache x
    generalize planSample registry pipeline cache x = drafted at cases ⊢
    cases cases with
    | unknown => exact .inl ⟨rfl, fun _ _ _ h => nomatch h⟩
    | exhausted table => exact .inl ⟨rfl, fun _ _ _ h => nomatch h⟩
    | ready table found something => exact .inr ⟨rfl, table, found, something, rfl, _, rfl⟩

/-- A message that is checked before it is made. -/
theorem planned_message {state : SessionState} {s : Store} {post : Post}
    {x : Except LinkError Outbound}
    (gate : state ≠ .running → x = .error (.notRunning state))
    (blames : state = .running → BlamesArguments x)
    (carries : ∀ m, x = .ok m → Carries post m) : Planned state s post (.ofMessage x, s) := by
  by_cases running : state = .running
  · cases x with
    | error e =>
      exact .refused e (.inr ⟨running, blames running e rfl⟩)
    | ok m => exact .ready m (carries m rfl) running s.cache fun _ => rfl
  · rw [gate running]
    exact .refused _ (.inl ⟨running, rfl⟩)

theorem planned_event (state : SessionState) (s : Store) (e : DeviceLink.Event) :
    Planned state s (.event e) (.ofMessage (planEvent state e), s) := by
  refine planned_message (fun resting => ?_) (fun running => ?_) fun m made => ?_
  · rw [planEvent, ensureRunning_of_ne resting]
    rfl
  · rw [running]
    exact blames_plan.2.1 e
  · obtain ⟨-, -, made⟩ := eq_ok_of_bind made
    obtain ⟨-, -, made⟩ := eq_ok_of_bind made
    obtain ⟨-, -, made⟩ := eq_ok_of_bind made
    obtain ⟨-, -, made⟩ := eq_ok_of_bind made
    cases made
    exact .event e

theorem planned_log (state : SessionState) (s : Store) (table device : String) (level : LogLevel)
    (message time : String) :
    Planned state s (.log table device level message time)
      (.ofMessage (planLog state table device level message time), s) := by
  refine planned_message (fun resting => ?_) (fun running => ?_) fun m made => ?_
  · rw [planLog, ensureRunning_of_ne resting]
    rfl
  · rw [running]
    exact blames_plan.2.2.1 table device level message time
  · obtain ⟨-, -, made⟩ := eq_ok_of_bind made
    obtain ⟨-, -, made⟩ := eq_ok_of_bind made
    obtain ⟨-, -, made⟩ := eq_ok_of_bind made
    cases made
    exact .log table device level message time

theorem planned_update (state : SessionState) (s : Store) (table row : String)
    (fields : List (String × Json)) :
    Planned state s (.update table row fields)
      (.ofMessage (planUpdate state table row fields), s) := by
  refine planned_message (fun resting => ?_) (fun running => ?_) fun m made => ?_
  · rw [planUpdate, ensureRunning_of_ne resting]
    rfl
  · rw [running]
    exact blames_plan.2.2.2 table row fields
  · obtain ⟨-, -, made⟩ := eq_ok_of_bind made
    obtain ⟨-, -, made⟩ := eq_ok_of_bind made
    obtain ⟨-, -, made⟩ := eq_ok_of_bind made
    by_cases empty : fields.isEmpty = true
    · rw [if_pos empty] at made
      cases made
    · rw [if_neg empty] at made
      cases made
      exact .update table row fields

theorem checkSample_of_ne {state : SessionState} (resting : state ≠ .running) (x : Sample) :
    checkSample state x = .error (.notRunning state) := by
  rw [checkSample, ensureRunning_of_ne resting]
  rfl

theorem planned_sample (pipeline : Pipeline) (state : SessionState) (s : Store) (x : Sample) :
    Planned state s (.sample x) (plan pipeline state s (.sample x)) := by
  by_cases running : state = .running
  · simp only [plan]
    cases checked : checkSample state x with
    | error e =>
      have blamed : BlamesArguments (checkSample state x) := running ▸ blames_plan.1 x
      exact .refused e (.inr ⟨running, blamed e (by rw [checked]; rfl)⟩)
    | ok u =>
      have cases := drafted s.registry pipeline s.cache x
      generalize planSample s.registry pipeline s.cache x = drafted at cases ⊢
      cases cases with
      | unknown => exact .dropped .unknownDevice x rfl running s.cache fun _ => rfl
      | exhausted table => exact .dropped .noFieldsLeft x rfl running _ nofun
      | ready table => exact .ready _ (.sample x _) running _ fun other => absurd rfl (other x)
  · simp only [plan, checkSample_of_ne running]
    exact .refused _ (.inl ⟨running, rfl⟩)

theorem planned (pipeline : Pipeline) (state : SessionState) (s : Store) (post : Post) :
    Planned state s post (plan pipeline state s post) := by
  cases post with
  | sample x => exact planned_sample pipeline state s x
  | event e => exact planned_event state s e
  | log table device level message time => exact planned_log state s table device level message time
  | update table row fields => exact planned_update state s table row fields

/-! ## Answers -/

/-- Whoever looks at the answer knows what was done. The platform was handed `sent` before. -/
structure Truthful (send : Sender σ) (pipeline : Pipeline) (state : SessionState) (s : Store)
    (sent : List Outbound) (p : σ) (post : Post) (call : Answer × Store × List Outbound × σ) :
    Prop where
  /-- It makes no difference that account is kept. -/
  unseen : perform send pipeline state s p post = (call.1, call.2.1, call.2.2.2)
  /-- The state comes first, whatever the arguments are, and says no only by itself. -/
  gated : ∀ at', call.1 = .refused (.notRunning at') ↔ state ≠ .running ∧ at' = state
  refused : ∀ e, call.1 = .refused e → call.2 = (s, sent, p)
  dropped : ∀ reason, call.1 = .dropped reason → (∃ x, post = .sample x) ∧ call.2.2 = (sent, p) ∧
    (reason = .unknownDevice → call.2.1 = s)
  delivered : ∀ d, call.1 = .delivered d → ∃ m, Carries post m ∧
    call.2.2 = (sent ++ [m], (send p m).2)
  /-- What the platform makes of a message that it was handed is what the caller is told. -/
  told : ∀ m, call.2.2.1 = sent ++ [m] →
    (∀ e, (send p m).1 = .error e → call.1 = .delivered (.failed e.message)) ∧
    (∀ r, (send p m).1 = .ok r → r.status = false →
      call.1 = .delivered (.rejected r.info r.detail)) ∧
    ∀ r, (send p m).1 = .ok r → r.status = true → call.1 = .delivered .accepted
  registry : call.2.1.registry = s.registry
  /-- Only samples have to do with the cache. -/
  quiet : (∀ x, post ≠ .sample x) → call.2.1 = s

theorem conclude_recording (send : Sender σ) (sent : List Outbound) (p : σ) (x : Plan) :
    (conclude (recording send) (sent, p) x).1 = (conclude send p x).1 ∧
      (conclude (recording send) (sent, p) x).2.2 = (conclude send p x).2 := by
  cases x with
  | refused e => exact ⟨rfl, rfl⟩
  | dropped reason => exact ⟨rfl, rfl⟩
  | send m => exact ⟨rfl, rfl⟩

theorem ofReply_of_send (send : Sender σ) (p : σ) (m : Outbound) :
    (∀ e, (send p m).1 = .error e → Delivery.ofReply (send p m).1 = .failed e.message) ∧
    (∀ r, (send p m).1 = .ok r → r.status = false →
      Delivery.ofReply (send p m).1 = .rejected r.info r.detail) ∧
    ∀ r, (send p m).1 = .ok r → r.status = true → Delivery.ofReply (send p m).1 = .accepted := by
  refine ⟨fun e failed => ?_, fun r replied no => ?_, fun r replied yes => ?_⟩
  · rw [failed]
    rfl
  · rw [replied, Delivery.ofReply, no]
    rfl
  · rw [replied, Delivery.ofReply, yes]
    rfl

theorem Cause.notRunning_iff {state at' : SessionState} {e : LinkError} (cause : Cause state e) :
    e = .notRunning at' ↔ state ≠ .running ∧ at' = state := by
  rcases cause with ⟨resting, rfl⟩ | ⟨running, reason, rfl⟩
  · constructor
    · intro h
      cases h
      exact ⟨resting, rfl⟩
    · rintro ⟨-, rfl⟩
      rfl
  · constructor
    · intro h
      cases h
    · rintro ⟨resting, -⟩
      exact absurd running resting

/-- A plan that is carried out by a platform that keeps account. -/
theorem truthful_of_planned {send : Sender σ} {pipeline : Pipeline} {state : SessionState}
    {s s' : Store} {post : Post} {x : Plan} (made : plan pipeline state s post = (x, s'))
    (h : Planned state s post (x, s')) (sent : List Outbound) (p : σ) :
    Truthful send pipeline state s sent p post
      ((conclude (recording send) (sent, p) x).1, s',
        (conclude (recording send) (sent, p) x).2) := by
  have unseen : perform send pipeline state s p post =
      ((conclude send p x).1, s', (conclude send p x).2) := by
    rw [perform_eq, made]
  obtain ⟨answer, platform⟩ := conclude_recording send sent p x
  rw [← answer, ← platform] at unseen
  have unchanged : ∀ m, sent ≠ sent ++ [m] := by
    intro m
    simp
  cases h with
  | refused e cause =>
    constructor
    case unseen => exact unseen
    case gated =>
      intro at'
      rw [← cause.notRunning_iff]
      exact ⟨Answer.refused.inj, congrArg Answer.refused⟩
    case refused => exact fun _ _ => rfl
    case dropped => exact fun _ h => nomatch h
    case delivered => exact fun _ h => nomatch h
    case told => exact fun m h => absurd h (unchanged m)
    case registry => rfl
    case quiet => exact fun _ => rfl
  | dropped reason y isSample running cache unprocessed =>
    constructor
    case unseen => exact unseen
    case gated => exact fun _ => ⟨nofun, fun h => absurd running h.1⟩
    case refused => exact fun _ h => nomatch h
    case dropped =>
      intro reason' h
      cases h
      exact ⟨⟨y, isSample⟩, rfl, fun unknown => by rw [unprocessed unknown]⟩
    case delivered => exact fun _ h => nomatch h
    case told => exact fun m h => absurd h (unchanged m)
    case registry => rfl
    case quiet => exact fun other => absurd isSample (other y)
  | ready m carries running cache quiet =>
    constructor
    case unseen => exact unseen
    case gated => exact fun _ => ⟨nofun, fun h => absurd running h.1⟩
    case refused => exact fun _ h => nomatch h
    case dropped => exact fun _ h => nomatch h
    case delivered =>
      intro d _
      exact ⟨m, carries, rfl⟩
    case told =>
      intro m' h
      have same : m = m' := by simpa [conclude, recording] using h
      subst same
      obtain ⟨failed, rejected, accepted⟩ := ofReply_of_send send p m
      exact ⟨fun e h => congrArg Answer.delivered (failed e h),
        fun r h no => congrArg Answer.delivered (rejected r h no),
        fun r h yes => congrArg Answer.delivered (accepted r h yes)⟩
    case registry => rfl
    case quiet =>
      intro other
      rw [quiet other]

theorem truthful (send : Sender σ) (pipeline : Pipeline) (state : SessionState) (s : Store)
    (sent : List Outbound) (p : σ) (post : Post) :
    Truthful send pipeline state s sent p post
      (perform (recording send) pipeline state s (sent, p) post) := by
  rw [perform_eq]
  exact truthful_of_planned rfl (planned pipeline state s post) sent p

end Gateway

namespace Bench.Rig

variable {Config Command TagValue : Type}

theorem refusal?_ofOutcome (x : Except LinkError SampleOutcome) :
    refusal? x = (Gateway.Answer.ofOutcome x).refusal? := by
  rcases x with e | (⟨fieldsIn, fieldsOut, d⟩ | reason)
  · rfl
  · rfl
  · rfl

theorem refusal?_ofDelivery (x : Except LinkError Delivery) :
    refusal? x = (Gateway.Answer.ofDelivery x).refusal? := by
  cases x with
  | error e => rfl
  | ok d => rfl

/-- The calls of the rig are these, on a platform of its own. -/
theorem post_eq (r : Rig Config Command TagValue) (p : Post) :
    let call := Gateway.perform Platform.send r.pipeline r.actor.state r.store r.platform p
    r.post p = (call.1.refusal?, { r with store := call.2.1, platform := call.2.2 }) := by
  cases p with
  | sample s => exact Prod.ext (refusal?_ofOutcome _) rfl
  | event e => exact Prod.ext (refusal?_ofDelivery _) rfl
  | log table device level message time => exact Prod.ext (refusal?_ofDelivery _) rfl
  | update table row fields => exact Prod.ext (refusal?_ofDelivery _) rfl

theorem post_refused (r : Rig Config Command TagValue) {p : Post} {e : LinkError}
    (refused : (r.post p).1 = some e) : (r.post p).2 = r := by
  have h := Gateway.truthful Platform.send r.pipeline r.actor.state r.store [] r.platform p
  rw [post_eq, h.unseen] at refused ⊢
  generalize Gateway.perform (Gateway.recording Platform.send) r.pipeline r.actor.state r.store
    ([], r.platform) p = call at h refused ⊢
  obtain ⟨answer, after⟩ := call
  cases answer with
  | refused e' =>
    have same : after = (r.store, [], r.platform) := h.refused e' rfl
    rw [same]
  | dropped reason => cases refused
  | delivered d => cases refused

/-- **What a call says is what it did.** Whatever the state of the session, the store, the stages
and the platform are, and whatever is to be sent, the answer tells which message the platform was
handed, if any, and what is left of the store; so it does on the platform of the rig, where a
refusal leaves everything as it was. -/
theorem perform_truthful {σ : Type} (send : Gateway.Sender σ) (pipeline : Pipeline)
    (state : SessionState) (s : Store) (sent : List Outbound) (platform : σ) (p : Post) :
    Gateway.Truthful send pipeline state s sent platform p
      (Gateway.perform (Gateway.recording send) pipeline state s (sent, platform) p) ∧
    ∀ (r : Rig Config Command TagValue) (e : LinkError),
      (r.post p).1 = some e → (r.post p).2 = r := by
  constructor
  · exact Gateway.truthful send pipeline state s sent platform p
  · intro r e refused
    exact r.post_refused refused

end Bench.Rig
end DeviceLink
