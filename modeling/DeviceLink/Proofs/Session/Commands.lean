import DeviceLink.Proofs.Session.Listening
/-!
# One callback for each command

A request comes to one of two things. Either its payload is not what its method needs, and it is
refused before the driver hears of it; or the callback of the method runs for what the request
says, and the way in which that ends, be it by breaking off, makes the answer (`begin_commanded`).

What a request asks for (`Asks`) and what a callback is answered with (`Answered`) are said here
method by method. In a session a listener takes up each of its requests at most once, and one that
is answered was taken up once: the driver is called for it then and at no other time
(`run_commands`).
-/
namespace DeviceLink

variable {Config Command TagValue : Type}

/-! ## What a request asks for -/

/-- A payload that reads as one of the driver's types; an empty one counts as null. -/
inductive Decoded {α : Type} (read : Source → Option α) : Bytes → α → Prop
  | nothing {a : α} (taken : read .null = some a) : Decoded read [] a
  | json {payload : Bytes} {s : Source} {a : α} (filled : payload ≠ [])
      (parsed : Source.parse payload = some s) (taken : read s = some a) : Decoded read payload a

/-- What a debug callback is shown: nothing, the value of a JSON text, or else the text itself. -/
inductive Shown : Bytes → Json → Prop
  | nothing : Shown [] .null
  | json {payload : Bytes} {s : Source} {j : Json} (filled : payload ≠ [])
      (parsed : Source.parse payload = some s) (kept : s.keep Room.text = some j) :
      Shown payload j
  | text {payload : Bytes} (filled : payload ≠ [])
      (unread : (Source.parse payload).bind (Source.keep Room.text) = none) :
      Shown payload (.string (Utf8.decodeLossy payload))

/-- The invocation that a request of a method asks for. -/
inductive Asks (d : Driver Config Command TagValue) (q : Request) :
    Method → Call Config Command TagValue → Prop
  | start {s : Source} {document : DeviceDocument} {config : Config}
      (parsed : Source.parse q.payload = some s)
      (document_read : DeviceDocument.read Room.text s = some document)
      (config_read : Decoded d.readConfig q.payload config) : Asks d q .start (.start config)
  | schema : Asks d q .schema .schema
  | run {command : Command} (decoded : Decoded d.readCommand q.payload command) :
      Asks d q .run (.run ⟨q.id, q.serial, q.table, q.targets⟩ command)
  | writeTag {tag : TagValue} (decoded : Decoded d.readTag q.payload tag) :
      Asks d q .writeTag (.writeTag ⟨q.id, q.serial, q.table, q.targets⟩ tag)
  | batchRun {command : Command} (decoded : Decoded d.readCommand q.payload command) :
      Asks d q .batchRun (.batchRun ⟨q.id, q.serial, q.table, q.targets⟩ command)
  | debug {request : Json} (shown : Shown q.payload request) : Asks d q .debug (.debug request)

theorem decodePayload_eq_some_iff {α : Type} {read : Source → Option α} {payload : Bytes} {a : α} :
    decodePayload read payload = some a ↔ Decoded read payload a := by
  unfold decodePayload
  constructor
  · intro h
    by_cases filled : payload = []
    · subst filled
      exact .nothing (by simpa using h)
    · rw [if_neg filled, Option.bind_eq_some_iff] at h
      obtain ⟨s, parsed, taken⟩ := h
      exact .json filled parsed taken
  · rintro (taken | ⟨filled, parsed, taken⟩)
    · simpa using taken
    · rw [if_neg filled, parsed]
      exact taken

theorem shown_iff {payload : Bytes} {j : Json} : Shown payload j ↔ j = debugRequest payload := by
  unfold debugRequest
  constructor
  · rintro (_ | ⟨filled, parsed, kept⟩ | ⟨filled, unread⟩)
    · rfl
    · simp only [if_neg filled, parsed, Option.bind_some, kept]
    · simp only [if_neg filled, unread]
  · rintro rfl
    split
    · rename_i empty
      subst empty
      exact .nothing
    · rename_i filled
      split
      · rename_i j read
        obtain ⟨s, parsed, kept⟩ := Option.bind_eq_some_iff.1 read
        exact .json filled parsed kept
      · rename_i unread
        exact .text filled unread

/-! ## What it comes to -/

theorem dispatchPayload_iff {α : Type} {read : Source → Option α}
    {call : α → Call Config Command TagValue} {payload : Bytes}
    {invoked : Call Config Command TagValue} :
    (∃ document, dispatchPayload read call payload = .invoke invoked document) ↔
      ∃ a, Decoded read payload a ∧ invoked = call a := by
  simp only [← decodePayload_eq_some_iff]
  unfold dispatchPayload
  cases decodePayload read payload with
  | none => simp
  | some a => simp [eq_comm]

theorem dispatchStart_iff {d : Driver Config Command TagValue} {payload : Bytes}
    {call : Call Config Command TagValue} :
    (∃ document, dispatchStart d payload = .invoke call document) ↔
      ∃ s document config, Source.parse payload = some s ∧
        DeviceDocument.read Room.text s = some document ∧ Decoded d.readConfig payload config ∧
        call = .start config := by
  simp only [← decodePayload_eq_some_iff]
  unfold dispatchStart
  cases Source.parse payload with
  | none => simp
  | some s =>
    cases hd : DeviceDocument.read Room.text s with
    | none => simp [hd]
    | some document => cases decodePayload d.readConfig payload <;> simp [hd, eq_comm]

/-- What is invoked is what was asked for. -/
theorem dispatch_iff {d : Driver Config Command TagValue} {m : Method} {q : Request}
    {call : Call Config Command TagValue} :
    (∃ document, dispatch d m q = .invoke call document) ↔ Asks d q m call := by
  unfold dispatch
  cases m with
  | start =>
    rw [dispatchStart_iff]
    constructor
    · rintro ⟨s, document, config, parsed, document_read, config_read, rfl⟩
      exact .start parsed document_read config_read
    · rintro ⟨parsed, document_read, config_read⟩
      exact ⟨_, _, _, parsed, document_read, config_read, rfl⟩
  | schema =>
    constructor
    · rintro ⟨document, h⟩
      cases h
      exact .schema
    · rintro ⟨⟩
      exact ⟨none, rfl⟩
  | run =>
    rw [dispatchPayload_iff]
    constructor
    · rintro ⟨command, decoded, rfl⟩
      exact .run decoded
    · rintro ⟨⟩
      exact ⟨_, ‹_›, rfl⟩
  | writeTag =>
    rw [dispatchPayload_iff]
    constructor
    · rintro ⟨tag, decoded, rfl⟩
      exact .writeTag decoded
    · rintro ⟨⟩
      exact ⟨_, ‹_›, rfl⟩
  | batchRun =>
    rw [dispatchPayload_iff]
    constructor
    · rintro ⟨command, decoded, rfl⟩
      exact .batchRun decoded
    · rintro ⟨⟩
      exact ⟨_, ‹_›, rfl⟩
  | debug =>
    constructor
    · rintro ⟨document, h⟩
      cases h
      exact .debug (shown_iff.2 rfl)
    · intro h
      cases h with
      | debug shown => exact ⟨none, by rw [shown_iff.1 shown]⟩

/-! ## How it is answered -/

/-- The envelope of an invocation, by the way in which its callback ends. -/
inductive Answered (d : Driver Config Command TagValue) :
    Call Config Command TagValue → Envelope → Prop
  | started {config : Config} (done : (d.start config).outcome = .done ()) :
      Answered d (.start config) ⟨200, .null⟩
  | described {text : String} (done : d.schema.outcome = .done text) :
      Answered d .schema ⟨200, .string text⟩
  | ran {context : Context} {command : Command} {value : Json}
      (done : (d.run context command).outcome = .done value) :
      Answered d (.run context command) ⟨200, value⟩
  | wroteTag {context : Context} {tag : TagValue} {value : Json}
      (done : (d.writeTag context tag).outcome = .done value) :
      Answered d (.writeTag context tag) ⟨200, value⟩
  | ranBatch {context : Context} {command : Command} {value : Json}
      (done : (d.batchRun context command).outcome = .done value) :
      Answered d (.batchRun context command) ⟨200, value⟩
  | debugged {request value : Json} (done : (d.debug request).outcome = .done value) :
      Answered d (.debug request) ⟨200, value⟩
  | failed {call : Call Config Command TagValue} {e : DriverError}
      (failed : (d.perform call).outcome = .failed e) :
      Answered d call ⟨500, .string (e.kind.name ++ " error: " ++ e.message)⟩
  | panicked {call : Call Config Command TagValue} {message : Option String}
      (panicked : (d.perform call).outcome = .panicked message) :
      Answered d call ⟨500, .string ("unknown error: driver callback panicked: " ++
        message.getD "unknown panic payload")⟩

theorem Outcome.map_eq_done {α β : Type} {f : α → β} {o : Outcome α} {b : β}
    (h : o.map f = .done b) : ∃ a, o = .done a ∧ f a = b := by
  cases o with
  | done a =>
    cases h
    exact ⟨a, rfl, rfl⟩
  | failed e => cases h
  | panicked message => cases h

theorem panicError_text (message : Option String) :
    (panicError message).text = "unknown error: driver callback panicked: " ++
      message.getD "unknown panic payload" := by
  have words : DriverErrorKind.unknown.name ++ " error: " ++ "driver callback panicked: " =
      "unknown error: driver callback panicked: " := by decide
  rw [← words, String.append_assoc]
  rfl

theorem answered_perform (d : Driver Config Command TagValue)
    (call : Call Config Command TagValue) :
    Answered d call (Envelope.ofOutcome (d.perform call).outcome) := by
  cases ho : (d.perform call).outcome with
  | failed e => exact .failed ho
  | panicked message =>
    rw [Envelope.ofOutcome, Envelope.driverError, panicError_text]
    exact .panicked ho
  | done value =>
    cases call with
    | start config =>
      obtain ⟨⟨⟩, done, rfl⟩ := Outcome.map_eq_done ho
      exact .started done
    | schema =>
      obtain ⟨text, done, rfl⟩ := Outcome.map_eq_done ho
      exact .described done
    | run context command => exact .ran ho
    | writeTag context tag => exact .wroteTag ho
    | batchRun context command => exact .ranBatch ho
    | debug request => exact .debugged ho

/-- What a request comes to. -/
structure Commanded (d : Driver Config Command TagValue) (m : Method) (q : Request)
    (h : Handling Config Command TagValue) : Prop where
  refuses : h.envelope.code = 400 ↔ ∀ call, ¬ Asks d q m call
  /-- Any payload will do for these. -/
  accepts : m = .schema ∨ m = .debug → h.envelope.code ≠ 400
  /-- Nothing is invoked but what was asked for, which nothing but a refusal prevents. -/
  invokes : ∀ call, h.call = some call ↔ Asks d q m call
  answers : ∀ call, h.call = some call → Answered d call h.envelope

theorem Answered.code {d : Driver Config Command TagValue} {call : Call Config Command TagValue}
    {e : Envelope} (h : Answered d call e) : e.code ≠ 400 := by
  cases h <;> exact Nat.ne_of_beq_eq_false rfl

/-- A schema is asked for by any payload, and so is a debug callback. -/
theorem asks_of_accepting {m : Method} (accepting : m = .schema ∨ m = .debug)
    (d : Driver Config Command TagValue) (q : Request) : ∃ call, Asks d q m call := by
  rcases accepting with rfl | rfl
  · exact ⟨_, .schema⟩
  · exact ⟨_, .debug (shown_iff.2 rfl)⟩

theorem begin_commanded (d : Driver Config Command TagValue) (m : Method) (q : Request) :
    Commanded d m q (Handling.begin d m q) := by
  have asks : ∀ call, (∃ document, dispatch d m q = .invoke call document) ↔ Asks d q m call :=
    fun call => dispatch_iff
  unfold Handling.begin
  cases hd : dispatch d m q with
  | refused reason =>
    have unasked : ∀ call, ¬ Asks d q m call := by
      intro call h
      obtain ⟨document, invoked⟩ := (asks call).2 h
      rw [hd] at invoked
      cases invoked
    have unlike : ¬ (m = .schema ∨ m = .debug) := fun accepting =>
      (asks_of_accepting accepting d q).elim unasked
    exact ⟨⟨fun _ => unasked, fun _ => rfl⟩, fun accepting => absurd accepting unlike,
      fun call => ⟨nofun, fun h => absurd h (unasked call)⟩, nofun⟩
  | invoke call document =>
    have asked : Asks d q m call := (asks call).1 ⟨document, hd⟩
    have answered := answered_perform d call
    refine ⟨⟨fun h => absurd h answered.code, fun h => absurd asked (h call)⟩,
      fun _ => answered.code, fun other => ⟨?_, fun h => ?_⟩, ?_⟩
    · rintro ⟨⟩
      exact asked
    · obtain ⟨document', invoked⟩ := (asks other).2 h
      rw [hd] at invoked
      cases invoked
      rfl
    · rintro _ ⟨⟩
      exact answered

namespace Bench.Rig

/-! ## In a session -/

/-- The request that a task takes up next, and the driver as it is then. -/
def uptake (r : Rig Config Command TagValue) (t : Task Config Command TagValue) :
    List (Driver Config Command TagValue × Request) :=
  match t.job with
  | .listen _ _ (.handling q) none => [(r.driver, q)]
  | _ => []

theorem uptake_idle {r : Rig Config Command TagValue} {t : Task Config Command TagValue}
    (idle : ∀ m i q, t.job ≠ .listen m i (.handling q) none) : r.uptake t = [] := by
  unfold uptake
  split
  · rename_i m i q hj
    exact absurd hj (idle m i q)
  · rfl

/-- The request that a listener takes up in a step of its own. -/
def begun (r : Rig Config Command TagValue) (id : Nat) (c : Choice Config Command TagValue) :
    List (Driver Config Command TagValue × Request) :=
  match c with
  | .work other => if other = id then (r.find? id).toList.flatMap r.uptake else []
  | _ => []

/-- What the driver is called for in a step of the listener's own. -/
def invoked (r : Rig Config Command TagValue) (id : Nat) (c : Choice Config Command TagValue) :
    List (Invocation Config Command TagValue) :=
  match c with
  | .work other =>
    let calls := (r.step c).calls
    if other = id then calls.take (calls.length - r.calls.length) else []
  | _ => []

/-- The requests that a listener takes up in a run. -/
def beginnings (r : Rig Config Command TagValue) (id : Nat) :
    List (Choice Config Command TagValue) → List (Driver Config Command TagValue × Request)
  | [] => []
  | c :: cs => r.begun id c ++ (r.step c).beginnings id cs

/-- What the driver is called for by a listener in a run. -/
def invocations (r : Rig Config Command TagValue) (id : Nat) :
    List (Choice Config Command TagValue) → List (Invocation Config Command TagValue)
  | [] => []
  | c :: cs => r.invoked id c ++ (r.step c).invocations id cs

/-- What the driver is called for when a request is taken up. -/
def callsFor (m : Method) (b : Driver Config Command TagValue × Request) :
    List (Invocation Config Command TagValue) :=
  ((Handling.begin b.1 m b.2).call.map Invocation.call).toList

/-- The answer that a request gets once it has been taken up. -/
def answerTo (m : Method) (b : Driver Config Command TagValue × Request) : Request × Bytes :=
  (b.2, (Handling.begin b.1 m b.2).envelope.bytes)

/-- The request that is not yet taken up. -/
def waitingRequest : Listener → Option (Handling Config Command TagValue) → List Request
  | .handling q, none => [q]
  | _, _ => []

/-- The answer that is not yet made. -/
def pendingAnswer :
    Listener → Option (Handling Config Command TagValue) → List (Request × Bytes)
  | .handling q, some work => [(q, work.envelope.bytes)]
  | _, _ => []

/-- A listener with what it has in hand, or its absence. -/
def Engaged (r : Rig Config Command TagValue) (id g : Nat) (m : Method) (i : Nat) :
    Option (Listener × Option (Handling Config Command TagValue)) → Prop
  | some (l, work) => ∃ timer, r.find? id = some ⟨id, g, timer, .listen m i l work⟩
  | none => r.find? id = none

/-- What a listener took up is what it took and what it answered, but for what is in hand. -/
inductive Accounted (m : Method) (bs : List (Driver Config Command TagValue × Request))
    (ds : List Deed) : Option (Listener × Option (Handling Config Command TagValue)) → Prop
  | engaged {l : Listener} {work : Option (Handling Config Command TagValue)}
      (taken : Deed.requests ds = bs.map Prod.snd ++ waitingRequest l work)
      (handled : bs.map (answerTo m) = Deed.handlings ds ++ pendingAnswer l work) :
      Accounted m bs ds (some (l, work))
  | gone (taken : bs.map Prod.snd <+: Deed.requests ds)
      (handled : Deed.handlings ds <+: bs.map (answerTo m))
      (last : bs.length ≤ (Deed.handlings ds).length + 1) : Accounted m bs ds none

theorem Accounted.leaves {m : Method} {bs : List (Driver Config Command TagValue × Request)}
    {ds : List Deed} {e : Option (Listener × Option (Handling Config Command TagValue))}
    (h : Accounted m bs ds e) : Accounted m bs ds none := by
  cases h with
  | gone taken handled last => exact .gone taken handled last
  | @engaged l work taken handled =>
    refine .gone ⟨_, taken.symm⟩ ⟨_, handled.symm⟩ ?_
    have pending : (pendingAnswer l work).length ≤ 1 := by
      unfold pendingAnswer
      split <;> simp
    have hlength := congrArg List.length handled
    simp only [List.length_map, List.length_append] at hlength
    omega

/-- Nothing is in hand of a listener that handles no request. -/
theorem Accounted.idle {m : Method} {bs : List (Driver Config Command TagValue × Request)}
    {ds : List Deed} {l : Listener} {work : Option (Handling Config Command TagValue)}
    (h : Accounted m bs ds (some (l, work))) (idle : ∀ q, l ≠ .handling q)
    (work' : Option (Handling Config Command TagValue)) :
    Accounted m bs ds (some (l, work')) := by
  obtain ⟨taken, handled⟩ := h
  cases l with
  | handling q => exact absurd rfl (idle q)
  | _ => exact .engaged taken handled

/-- Deeds that neither take a request nor answer one leave the account as it is. -/
theorem Accounted.append {m : Method} {bs : List (Driver Config Command TagValue × Request)}
    {ds ds' : List Deed} {e : Option (Listener × Option (Handling Config Command TagValue))}
    (h : Accounted m bs ds e) (requests : Deed.requests ds' = [])
    (handlings : Deed.handlings ds' = []) : Accounted m bs (ds ++ ds') e := by
  have taken : Deed.requests (ds ++ ds') = Deed.requests ds := by
    simpa [requests, Deed.requests] using requests
  have handled : Deed.handlings (ds ++ ds') = Deed.handlings ds := by
    simpa [handlings, Deed.handlings] using handlings
  cases h with
  | gone ht hh last => exact .gone (taken ▸ ht) (handled ▸ hh) (handled ▸ last)
  | engaged ht hh => exact .engaged (taken ▸ ht) (handled ▸ hh)

/-- A request is taken up. -/
theorem Accounted.begins {m : Method} {bs : List (Driver Config Command TagValue × Request)}
    {ds : List Deed} {q : Request} (h : Accounted m bs ds (some (.handling q, none)))
    (d : Driver Config Command TagValue) :
    Accounted m (bs ++ [(d, q)]) ds (some (.handling q, some (Handling.begin d m q))) := by
  obtain ⟨taken, handled⟩ := h
  constructor
  · simpa [waitingRequest] using taken
  · simpa [pendingAnswer, answerTo] using handled

/-- A request that was taken up is answered. -/
theorem Accounted.answers {m : Method} {bs : List (Driver Config Command TagValue × Request)}
    {ds : List Deed} {q : Request} {work : Handling Config Command TagValue}
    (h : Accounted m bs ds (some (.handling q, some work))) (a : Response) :
    Accounted m bs (ds ++ [.handled q work.envelope.bytes]) (some (.sending a, none)) := by
  obtain ⟨taken, handled⟩ := h
  constructor
  · simpa [waitingRequest, Deed.requests] using taken
  · simpa [pendingAnswer, Deed.handlings] using handled

/-- A listener that has no request to take up or to answer goes on. -/
theorem Accounted.told {m : Method} {bs : List (Driver Config Command TagValue × Request)}
    {ds : List Deed} {l : Listener} {work : Option (Handling Config Command TagValue)}
    (h : Accounted m bs ds (some (l, work))) (idle : ∀ q, l ≠ .handling q)
    {input : ListenerInput} (uncancelled : input ≠ .cancelled) :
    Accounted m bs (ds ++ l.deeds input) (some (l.step input, none)) := by
  have requests : ∀ ds', Deed.requests (ds ++ ds') = Deed.requests ds ++ Deed.requests ds' :=
    fun ds' => List.filterMap_append
  have handlings : ∀ ds', Deed.handlings (ds ++ ds') = Deed.handlings ds ++ Deed.handlings ds' :=
    fun ds' => List.filterMap_append
  obtain ⟨taken, handled⟩ := h
  constructor
  · rw [requests, taken]
    cases l with
    | handling q => exact absurd rfl (idle q)
    | waiting =>
      cases input with
      | arrived item =>
        cases item <;> simp [Listener.deeds, Listener.step, Deed.requests, waitingRequest]
      | cancelled => exact absurd rfl uncancelled
      | _ => simp [Listener.deeds, Listener.step, Deed.requests, waitingRequest]
    | _ => cases input <;> simp [Listener.deeds, Listener.step, Deed.requests, waitingRequest]
  · rw [handlings, handled]
    cases l with
    | handling q => exact absurd rfl (idle q)
    | waiting =>
      cases input with
      | arrived item =>
        cases item <;> simp [Listener.deeds, Listener.step, Deed.handlings, pendingAnswer]
      | cancelled => exact absurd rfl uncancelled
      | _ => simp [Listener.deeds, Listener.step, Deed.handlings, pendingAnswer]
    | _ => cases input <;> simp [Listener.deeds, Listener.step, Deed.handlings, pendingAnswer]

/-- A request that is taken up is in hand from then on, and the driver is called for it. -/
theorem stepListen_begins {r : Rig Config Command TagValue} {t : Task Config Command TagValue}
    (found : r.find? t.id = some t) (m : Method) (i : Nat) (q : Request) :
    let r' := (r.stepListen t m i (.handling q) none).1
    r'.find? t.id = some ⟨t.id, t.generation, .idle,
        .listen m i (.handling q) (some (Handling.begin r.driver m q))⟩ ∧
      r'.calls = callsFor m (r.driver, q) ++ r.calls := by
  refine ⟨find?_put found rfl, ?_⟩
  simp only [stepListen, proceed, put, callsFor]
  cases (Handling.begin r.driver m q).call <;> rfl

/-- A callback that is not over goes on. -/
theorem stepListen_pending {r : Rig Config Command TagValue} {t : Task Config Command TagValue}
    {m : Method} {i : Nat} {q : Request} {work : Handling Config Command TagValue}
    (found : r.find? t.id = some t) (hj : t.job = .listen m i (.handling q) (some work))
    (pending : ¬ IsOver t work) :
    ∃ timer, (r.stepListen t m i (.handling q) (some work)).1.find? t.id =
      some ⟨t.id, t.generation, timer, .listen m i (.handling q) (some work)⟩ := by
  obtain ⟨id, g, timer, job⟩ := t
  cases hj
  cases timer with
  | idle =>
    simp only [stepListen]
    rw [if_neg fun now => pending (.inr ⟨rfl, now⟩)]
    unfold pause
    split
    · exact ⟨_, find?_put found rfl⟩
    · exact ⟨_, find?_put found rfl⟩
  | elapsed => exact absurd (.inl rfl) pending
  | pending due number => exact ⟨_, found⟩

/-- A task that takes up nothing calls for nothing. -/
theorem calls_stepTask {r : Rig Config Command TagValue} {t : Task Config Command TagValue}
    (idle : r.uptake t = []) : (r.stepTask t).1.calls = r.calls := by
  cases stepTask_effect r t with
  | keeps ledger => exact congrArg Prod.snd ledger
  | answers m stream q work job isOver ledger tasks => exact congrArg Prod.snd ledger
  | begins m stream q job ledger =>
    rw [uptake, job] at idle
    cases idle

/-- The driver is called for requests that are taken up, and for nothing else. -/
theorem invoked_eq {r : Rig Config Command TagValue} {id g i : Nat} {m : Method}
    {e : Option (Listener × Option (Handling Config Command TagValue))}
    (h : Engaged r id g m i e) (c : Choice Config Command TagValue) :
    r.invoked id c = (r.begun id c).flatMap (callsFor m) := by
  have added : ∀ {calls new : List (Invocation Config Command TagValue)}, calls = new ++ r.calls →
      calls.take (calls.length - r.calls.length) = new := by
    rintro _ new rfl
    simp
  unfold invoked begun
  cases c with
  | work other =>
    by_cases own : other = id
    · subst own
      simp only [if_true]
      cases e with
      | none =>
        have gone : r.find? other = none := h
        simp [step, gone]
      | some e =>
        obtain ⟨l, work⟩ := e
        obtain ⟨timer, found⟩ := h
        simp only [found, Option.toList_some, List.flatMap_singleton]
        apply added
        by_cases takes : ∃ q, l = .handling q ∧ work = none
        · obtain ⟨q, rfl, rfl⟩ := takes
          have begins := (stepListen_begins (t := ⟨other, g, timer, _⟩) found m i q).2
          simpa [step, found, stepTask, uptake] using begins
        · have idle : r.uptake ⟨other, g, timer, .listen m i l work⟩ = [] := by
            refine uptake_idle fun m' i' q hj => takes ⟨q, ?_⟩
            cases hj
            exact ⟨rfl, rfl⟩
          simpa [step, found, idle] using calls_stepTask idle
    · simp [own]
  | instruct i => rfl
  | receive position => rfl
  | elsewhere world timer => rfl

theorem Engaged.holds {r : Rig Config Command TagValue} {id g i : Nat} {m : Method}
    {l : Listener} {work : Option (Handling Config Command TagValue)}
    (h : Engaged r id g m i (some (l, work))) : Holds r id g m i (some l) := by
  obtain ⟨timer, found⟩ := h
  exact ⟨timer, work, found⟩

/-- The account after the step of a listener that has a request in hand. -/
theorem handling_accounted {r : Rig Config Command TagValue} {id g i : Nat} {m : Method}
    {timer : Timer} {q : Request} {work : Option (Handling Config Command TagValue)}
    (found : r.find? id = some ⟨id, g, timer, .listen m i (.handling q) work⟩)
    {bs : List (Driver Config Command TagValue × Request)} {ds : List Deed}
    (h : Accounted m bs ds (some (.handling q, work))) (closing : Report Nat) :
    ∃ e, Engaged (r.step (.work id)) id g m i e ∧
      Accounted m (bs ++ r.begun id (.work id)) (ds ++ r.deeds id closing (.work id)) e := by
  have present : r.listener? id = some (.handling q) := listener?_of_holds ⟨timer, work, found⟩
  have next : r.step (.work id) = (r.stepListen ⟨id, g, timer, .listen m i (.handling q) work⟩
      m i (.handling q) work).1 := by
    simp only [step, found, stepTask]
  rw [deeds, present, next]
  cases work with
  | none =>
    have begins :=
      stepListen_begins (t := ⟨id, g, timer, .listen m i (.handling q) none⟩) found m i q
    have takesUp : r.begun id (.work id) = [(r.driver, q)] := by simp [begun, found, uptake]
    have quiet : r.event id (.work id) = none := by simp [event, found, nextEvent]
    rw [takesUp, quiet]
    refine ⟨some (.handling q, some (Handling.begin r.driver m q)), ⟨_, begins.1⟩, ?_⟩
    simpa [Listener.undergo?] using h.begins r.driver
  | some work =>
    have nothing : r.begun id (.work id) = [] := by simp [begun, found, uptake]
    rw [nothing, List.append_nil]
    by_cases isOver : IsOver ⟨id, g, timer, .listen m i (.handling q) (some work)⟩ work
    · have answers := find?_put (r := { r with store := work.finish r.store })
        (t := ⟨id, g, timer, .listen m i (.handling q) (some work)⟩)
        (u := answered ⟨id, g, timer, .listen m i (.handling q) (some work)⟩ m i q work) found rfl
      have ends : r.event id (.work id) = some (.told (.handled work.envelope.bytes)) := by
        simp [event, found, nextEvent, isOver]
      rw [stepListen_over r isOver, ends]
      exact ⟨some (.sending ⟨q.id, work.envelope.bytes⟩, none), ⟨_, answers⟩, h.answers _⟩
    · obtain ⟨timer', pending⟩ := stepListen_pending found rfl isOver
      have quiet : r.event id (.work id) = none := by simp [event, found, nextEvent, isOver]
      rw [quiet]
      exact ⟨some (.handling q, some work), ⟨timer', pending⟩, h.append rfl rfl⟩

/-- The account after a listener's own step. -/
theorem own_accounted {r : Rig Config Command TagValue} (regular : r.session.Regular)
    {id g i : Nat} {m : Method} {timer : Timer} {l : Listener}
    {work : Option (Handling Config Command TagValue)}
    (found : r.find? id = some ⟨id, g, timer, .listen m i l work⟩)
    {bs : List (Driver Config Command TagValue × Request)} {ds : List Deed}
    (h : Accounted m bs ds (some (l, work))) (closing : Report Nat) :
    ∃ e, Engaged (r.step (.work id)) id g m i e ∧
      Accounted m (bs ++ r.begun id (.work id)) (ds ++ r.deeds id closing (.work id)) e := by
  by_cases handles : ∃ q, l = .handling q
  · obtain ⟨q, rfl⟩ := handles
    exact handling_accounted found h closing
  · have idle : ∀ q, l ≠ .handling q := by simpa using handles
    have present : r.listener? id = some l := listener?_of_holds ⟨timer, work, found⟩
    have rests : r.uptake ⟨id, g, timer, .listen m i l work⟩ = [] := by
      refine uptake_idle fun m' i' q hj => idle q ?_
      cases hj
      rfl
    have nothing : r.begun id (.work id) = [] := by simp [begun, found, rests]
    have hstep := own_step regular found
    rw [nothing, List.append_nil, deeds, present]
    generalize r.event id (.work id) = event?, r.step (.work id) = r' at hstep ⊢
    cases hstep with
    | waits timer' work' found' =>
      exact ⟨some (l, work'), ⟨timer', found'⟩, (h.idle idle work').append rfl rfl⟩
    | told uncancelled found performed =>
      exact ⟨some (_, none), ⟨_, found⟩, h.told idle uncancelled⟩
    | leaves found reports => exact ⟨none, found, (h.append rfl rfl).leaves⟩

/-- The account after anybody's step. -/
theorem step_accounted {r : Rig Config Command TagValue} (regular : r.session.Regular)
    {id g i : Nat} {m : Method} (old : id < r.nextTask)
    {e : Option (Listener × Option (Handling Config Command TagValue))}
    (engaged : Engaged r id g m i e)
    {bs : List (Driver Config Command TagValue × Request)} {ds : List Deed}
    (h : Accounted m bs ds e) (closing : Report Nat) (c : Choice Config Command TagValue) :
    ∃ e', Engaged (r.step c) id g m i e' ∧
      Accounted m (bs ++ r.begun id c) (ds ++ r.deeds id closing c) e' := by
  cases e with
  | none =>
    have gone : r.find? id = none := engaged
    have holds : Holds r id g m i none := gone
    have absent : r.listener? id = none := listener?_of_holds holds
    have stays : Holds (r.step c) id g m i none := step_holds regular old holds closing c
    refine ⟨none, stays, ?_⟩
    have nothing : r.begun id c = [] := by cases c <;> simp [begun, gone]
    rw [nothing, List.append_nil, deeds, absent]
    exact h.append rfl rfl
  | some e =>
    obtain ⟨l, work⟩ := e
    have present : r.listener? id = some l := listener?_of_holds engaged.holds
    obtain ⟨timer, found⟩ := engaged
    by_cases idle : ∀ j, c ≠ .work j
    · have nothing : r.begun id c = [] := by
        cases c with
        | work j => exact absurd rfl (idle j)
        | _ => rfl
      rw [nothing, List.append_nil, deeds, present, event_idle r id idle]
      by_cases drops : Drops r c
      · have gone : (r.step c).find? id = none := step_drops old drops
        refine ⟨none, gone, ?_⟩
        rw [gone, Option.isNone_none, if_pos rfl]
        refine (h.append ?_ ?_).leaves
        · cases l <;> rfl
        · cases l <;> rfl
      · obtain ⟨timer', keeps⟩ := step_keeps old drops idle
        rw [found] at keeps
        refine ⟨some (l, work), ⟨_, keeps⟩, ?_⟩
        rw [keeps]
        exact h.append rfl rfl
    · obtain ⟨j, rfl⟩ : ∃ j, c = .work j := by simpa using idle
      by_cases own : j = id
      · subst own
        exact own_accounted regular found h closing
      · have same := find?_work regular own
        refine ⟨some (l, work), ⟨timer, same.trans found⟩, ?_⟩
        have nothing : r.begun id (.work j) = [] := if_neg own
        have quiet : r.event id (.work j) = none := if_neg own
        rw [nothing, List.append_nil, deeds, quiet]
        exact h.append (by cases r.listener? id <;> rfl) (by cases r.listener? id <;> rfl)

/-- The account of a whole run. -/
theorem run_accounted {id g i : Nat} {m : Method} (closing : Report Nat)
    (cs : List (Choice Config Command TagValue)) :
    ∀ {r : Rig Config Command TagValue}
      {e : Option (Listener × Option (Handling Config Command TagValue))}
      {bs : List (Driver Config Command TagValue × Request)} {ds : List Deed},
      r.session.Regular → id < r.nextTask → Engaged r id g m i e → Accounted m bs ds e →
      r.invocations id cs = (r.beginnings id cs).flatMap (callsFor m) ∧
        ∃ e', Accounted m (bs ++ r.beginnings id cs) (ds ++ r.history id closing cs) e' := by
  induction cs with
  | nil =>
    intro r e bs ds regular old engaged h
    exact ⟨rfl, e, by simpa [beginnings, history] using h⟩
  | cons c cs ih =>
    intro r e bs ds regular old engaged h
    obtain ⟨e', engaged', h'⟩ := step_accounted regular old engaged h closing c
    obtain ⟨calls, e'', h''⟩ :=
      ih (step_regular r c regular) (step_old regular old c) engaged' h'
    rw [invocations, beginnings, history, List.flatMap_append, calls, invoked_eq engaged c,
      ← List.append_assoc, ← List.append_assoc]
    exact ⟨rfl, e'', h''⟩

/-- **One callback for each command.** Whatever the driver, the method and the payload are, a
request is refused or its callback runs, and the answer says which and how it ended. Whatever a
session comes to, each request of a listener is taken up at most once, and once before it is
answered; the driver is called for it then, and at no other time. -/
theorem run_commands (driver : Driver Config Command TagValue) (settings : SessionSettings)
    (identity : Identity) (pipeline : Pipeline)
    (before after : List (Choice Config Command TagValue)) {id g i : Nat} {m : Method}
    {timer : Timer} {work : Option (Handling Config Command TagValue)}
    (found : ((initial driver settings identity pipeline).run before).find? id =
      some ⟨id, g, timer, .listen m i .waiting work⟩) :
    let r := (initial driver settings identity pipeline).run before
    let taken := r.beginnings id after
    let done := r.history id (.streamClosed g m) after
    (∀ (d : Driver Config Command TagValue) m q, Commanded d m q (Handling.begin d m q)) ∧
    r.invocations id after = taken.flatMap (callsFor m) ∧
    taken.map Prod.snd <+: Deed.requests done ∧
    Deed.handlings done <+: taken.map (answerTo m) ∧
    taken.length ≤ (Deed.handlings done).length + 1 := by
  intro r taken done
  have regular : r.session.Regular := run_regular (regular_nil rfl) before
  have old : id < r.nextTask := regular.fresh _ (find?_mem found).1
  have engaged : Engaged r id g m i (some (.waiting, work)) := ⟨timer, found⟩
  have idle : Accounted m [] [] (some (.waiting, work)) := .engaged rfl rfl
  obtain ⟨calls, e, account⟩ := run_accounted (.streamClosed g m) after regular old engaged idle
  rw [List.nil_append, List.nil_append] at account
  cases account.leaves with
  | gone requests handlings last => exact ⟨begin_commanded, calls, requests, handlings, last⟩

/-- A session that serves, of a driver whose schema callback breaks off. -/
def clumsy : Rig DemoConfig DemoCommand Json :=
  (demo { DemoForm.basic.driver with schema := .now (.panicked (some "no")) }).run opening

/-- The platform asks for the schema, and the listener makes four steps. -/
def inquiry : List (Choice DemoConfig DemoCommand Json) :=
  clumsy.sends .schema ⟨"schema-1", "", "", [], []⟩ :: List.replicate 4 (.work 2)

theorem run_commands_clumsy :
    (∃ timer work, clumsy.find? 2 = some ⟨2, 1, timer, .listen .schema 1 .waiting work⟩) ∧
    (clumsy.beginnings 2 inquiry).length = 1 ∧
    clumsy.invocations 2 inquiry = (clumsy.beginnings 2 inquiry).flatMap (callsFor .schema) ∧
    Deed.handlings (clumsy.history 2 (.streamClosed 1 .schema) inquiry) <+:
      (clumsy.beginnings 2 inquiry).map (answerTo .schema) ∧
    (Deed.handlings (clumsy.history 2 (.streamClosed 1 .schema) inquiry)).map Prod.snd =
      [Envelope.bytes ⟨500, .string "unknown error: driver callback panicked: no"⟩] := by
  have found : clumsy.find? 2 = some ⟨2, 1, .idle, .listen .schema 1 .waiting none⟩ := rfl
  have answer : (Deed.handlings (clumsy.history 2 (.streamClosed 1 .schema) inquiry)).map Prod.snd =
      [Envelope.bytes ⟨500, .string "unknown error: driver callback panicked: no"⟩] := by
    decide +kernel
  obtain ⟨-, calls, -, answers, -⟩ := run_commands _ _ _ _ opening inquiry found
  exact ⟨⟨_, _, found⟩, rfl, calls, answers, answer⟩

end Bench.Rig
end DeviceLink
