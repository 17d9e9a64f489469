import DeviceLink.Session.Actor
import DeviceLink.Session.Listener
/-!
# One answer for each request

Whatever comes in on a stream, whatever the callbacks answer, wherever the listener is told to end
or is dropped, and whenever nobody takes responses any more: what it writes are the answers to the
requests it took, in their order, each with the number of its request and the payload that was made
for it. The end of the stream is reported once, unless the listener was cancelled, and then at most
one request stays without its answer (`Serves.oneAnswerEach`).

What a listener does is kept as a list of deeds, and `Serves` says which lists can come about. Each
of them is made of requests that were served from beginning to end, and of a tail that is short
(`Serves.shape`); everything else is read off that.
-/
namespace DeviceLink

/-! ## Deeds -/

/-- What a listener does. -/
inductive Deed
  | took (item : Inbound)
  /-- The callback for a request has ended with a payload. -/
  | handled (q : Request) (payload : Bytes)
  | wrote (a : Response)
  /-- A response that nobody took. -/
  | refused (a : Response)
  | posted (e : Report Nat)
  /-- It was told to end, or dropped, before it came to the end of its stream. -/
  | cancelled

namespace Deed

def items (ds : List Deed) : List Inbound :=
  ds.filterMap fun | took item => some item | _ => none

def requests (ds : List Deed) : List Request :=
  ds.filterMap fun | took (.request q) => some q | _ => none

def handlings (ds : List Deed) : List (Request × Bytes) :=
  ds.filterMap fun | handled q payload => some (q, payload) | _ => none

def written (ds : List Deed) : List Response :=
  ds.filterMap fun | wrote a => some a | _ => none

def refusals (ds : List Deed) : List Response :=
  ds.filterMap fun | refused a => some a | _ => none

def posts (ds : List Deed) : List (Report Nat) :=
  ds.filterMap fun | posted e => some e | _ => none

end Deed

/-- The requests before the first failure or the end. -/
def leading : List Inbound → List Request
  | .request q :: rest => q :: leading rest
  | _ => []

/-- The response that a request is to have. -/
def respond (h : Request × Bytes) : Response := ⟨h.1.id, h.2⟩

/-! ## Listeners -/

namespace Listener

/-- What a listener does when it is given an input. -/
def deeds : Listener → ListenerInput → List Deed
  | .waiting, .arrived item => [.took item]
  | .handling q, .handled payload => [.handled q payload]
  | .sending a, .written => [.wrote a]
  | .sending a, .unwritten => [.refused a]
  | .waiting, .cancelled | .handling _, .cancelled | .sending _, .cancelled => [.cancelled]
  | _, _ => []

/-- What can happen to a listener. -/
inductive Event
  | told (input : ListenerInput)
  /-- It ends, if it has come to its end. -/
  | leaves
  /-- It is dropped, wherever it is. -/
  | dropped

/-- What is left of a listener, and what it does; `closing` reports the end of its stream. -/
def undergo (closing : Report Nat) (l : Listener) : Event → Option Listener × List Deed
  | .told input => (some (l.step input), l.deeds input)
  | .leaves =>
    match l with
    | .closed => (none, [.posted closing])
    | .cancelled => (none, [])
    | l => (some l, [])
  | .dropped =>
    match l with
    | .cancelled => (none, [])
    | _ => (none, [.cancelled])

/-- The same, where there may be no listener, and nothing may happen. -/
def undergo? (closing : Report Nat) :
    Option Listener → Option Event → Option Listener × List Deed
  | some l, some event => l.undergo closing event
  | l?, _ => (l?, [])

end Listener

/-- A new listener can come to this state by these deeds. -/
inductive Serves (closing : Report Nat) : Option Listener → List Deed → Prop
  | begins : Serves closing (some .waiting) []
  | undergoes {l : Listener} {ds : List Deed} (served : Serves closing (some l) ds)
      (event : Listener.Event) :
      Serves closing (l.undergo closing event).1 (ds ++ (l.undergo closing event).2)

/-! ## The shape of what was done -/

/-- A request that was served from beginning to end. -/
def whole (h : Request × Bytes) : List Deed :=
  [.took (.request h.1), .handled h.1 h.2, .wrote (respond h)]

/-- What a listener has done since its last answer. -/
inductive InHand : List Deed → Listener → Prop
  | nothing : InHand [] .waiting
  | handling (q : Request) : InHand [.took (.request q)] (.handling q)
  | sending (h : Request × Bytes) :
      InHand [.took (.request h.1), .handled h.1 h.2] (.sending (respond h))
  | ended (item : Inbound) (last : ∀ q, item ≠ .request q) : InHand [.took item] .closed
  | refused (h : Request × Bytes) :
      InHand [.took (.request h.1), .handled h.1 h.2, .refused (respond h)] .closed

/-- The same, once it may have left. -/
inductive Tail (closing : Report Nat) : List Deed → Option Listener → Prop
  | stays {ds : List Deed} {l : Listener} (inHand : InHand ds l) : Tail closing ds (some l)
  | left {ds : List Deed} (inHand : InHand ds .closed) :
      Tail closing (ds ++ [.posted closing]) none
  | cancelled {ds : List Deed} {l : Listener} (inHand : InHand ds l) {l' : Option Listener}
      (gone : l' = none ∨ l' = some .cancelled) : Tail closing (ds ++ [.cancelled]) l'

/-- An input completes the answer, or brings the listener on within it, or cancels it. -/
theorem InHand.told {ds : List Deed} {l : Listener} (h : InHand ds l) (input : ListenerInput) :
    (∃ h, ds ++ l.deeds input = whole h ∧ l.step input = .waiting) ∨
      InHand (ds ++ l.deeds input) (l.step input) ∨
      (l.deeds input = [.cancelled] ∧ l.step input = .cancelled) := by
  cases h with
  | nothing =>
    cases input with
    | arrived item =>
      refine .inr (.inl ?_)
      cases item with
      | request q => exact .handling q
      | failed e => exact .ended _ (by simp)
      | ended => exact .ended _ (by simp)
    | cancelled => exact .inr (.inr ⟨rfl, rfl⟩)
    | handled payload => exact .inr (.inl .nothing)
    | written => exact .inr (.inl .nothing)
    | unwritten => exact .inr (.inl .nothing)
  | handling q =>
    cases input with
    | handled payload => exact .inr (.inl (.sending (q, payload)))
    | cancelled => exact .inr (.inr ⟨rfl, rfl⟩)
    | arrived item => exact .inr (.inl (.handling q))
    | written => exact .inr (.inl (.handling q))
    | unwritten => exact .inr (.inl (.handling q))
  | sending h =>
    cases input with
    | written => exact .inl ⟨h, rfl, rfl⟩
    | unwritten => exact .inr (.inl (.refused h))
    | cancelled => exact .inr (.inr ⟨rfl, rfl⟩)
    | arrived item => exact .inr (.inl (.sending h))
    | handled payload => exact .inr (.inl (.sending h))
  | ended item last => cases input <;> exact .inr (.inl (.ended item last))
  | refused h => cases input <;> exact .inr (.inl (.refused h))

/-- A listener that was told to end does nothing more. -/
theorem undergo_cancelled (closing : Report Nat) (event : Listener.Event) :
    (Listener.cancelled.undergo closing event).2 = [] ∧
      ((Listener.cancelled.undergo closing event).1 = none ∨
        (Listener.cancelled.undergo closing event).1 = some .cancelled) := by
  cases event with
  | told input => cases input <;> exact ⟨rfl, .inr rfl⟩
  | leaves => exact ⟨rfl, .inl rfl⟩
  | dropped => exact ⟨rfl, .inl rfl⟩

theorem Tail.undergoes {closing : Report Nat} {ds : List Deed} {l : Listener}
    (h : Tail closing ds (some l)) (event : Listener.Event) :
    ∃ (hs : List (Request × Bytes)) (tail : List Deed),
      ds ++ (l.undergo closing event).2 = hs.flatMap whole ++ tail ∧
        Tail closing tail (l.undergo closing event).1 := by
  cases h with
  | cancelled inHand gone =>
    obtain rfl : l = .cancelled := by simpa using gone
    obtain ⟨hds, hl⟩ := undergo_cancelled closing event
    exact ⟨[], _, by rw [hds, List.append_nil]; rfl, .cancelled inHand hl⟩
  | stays inHand =>
    cases event with
    | told input =>
      rcases inHand.told input with ⟨h, hds, hl⟩ | hon | ⟨hds, hl⟩
      · refine ⟨[h], [], ?_, ?_⟩
        · simpa [Listener.undergo] using hds
        · simp only [Listener.undergo, hl]
          exact .stays .nothing
      · exact ⟨[], _, rfl, .stays hon⟩
      · refine ⟨[], ds ++ [.cancelled], by simp [Listener.undergo, hds], ?_⟩
        simp only [Listener.undergo, hl]
        exact .cancelled inHand (.inr rfl)
    | leaves =>
      refine ⟨[], _, rfl, ?_⟩
      cases inHand with
      | nothing => exact .stays .nothing
      | handling q => exact .stays (.handling q)
      | sending h => exact .stays (.sending h)
      | ended item last => exact .left (.ended item last)
      | refused h => exact .left (.refused h)
    | dropped =>
      refine ⟨[], ds ++ [.cancelled], ?_, ?_⟩
      · cases inHand <;> rfl
      · have hl : (l.undergo closing .dropped).1 = none := by cases inHand <;> rfl
        rw [hl]
        exact .cancelled inHand (.inl rfl)

/-- Requests are served one after the other, each from beginning to end; only the last thing that
was done may be cut off. -/
theorem Serves.shape {closing : Report Nat} {l? : Option Listener} {ds : List Deed}
    (h : Serves closing l? ds) :
    ∃ (hs : List (Request × Bytes)) (tail : List Deed),
      ds = hs.flatMap whole ++ tail ∧ Tail closing tail l? := by
  induction h with
  | begins => exact ⟨[], [], rfl, .stays .nothing⟩
  | undergoes served event ih =>
    obtain ⟨hs, tail, rfl, htail⟩ := ih
    obtain ⟨hs', tail', heq, htail'⟩ := htail.undergoes event
    exact ⟨hs ++ hs', tail', by rw [List.append_assoc, heq, List.flatMap_append,
      List.append_assoc], htail'⟩

/-! ## What that means for answers -/

section
variable (hs : List (Request × Bytes)) (tail : List Deed)

theorem items_served :
    Deed.items (hs.flatMap whole ++ tail) =
      hs.map (fun h => .request h.1) ++ Deed.items tail := by
  simp [Deed.items, List.filterMap_flatMap, whole, List.map_eq_flatMap]

theorem requests_served :
    Deed.requests (hs.flatMap whole ++ tail) = hs.map Prod.fst ++ Deed.requests tail := by
  simp [Deed.requests, List.filterMap_flatMap, whole, List.map_eq_flatMap]

theorem handlings_served :
    Deed.handlings (hs.flatMap whole ++ tail) = hs ++ Deed.handlings tail := by
  simp [Deed.handlings, List.filterMap_flatMap, whole]

theorem written_served :
    Deed.written (hs.flatMap whole ++ tail) = hs.map respond ++ Deed.written tail := by
  simp [Deed.written, List.filterMap_flatMap, whole, List.map_eq_flatMap]

theorem refusals_served :
    Deed.refusals (hs.flatMap whole ++ tail) = Deed.refusals tail := by
  simp [Deed.refusals, List.filterMap_flatMap, whole]

theorem posts_served : Deed.posts (hs.flatMap whole ++ tail) = Deed.posts tail := by
  simp [Deed.posts, List.filterMap_flatMap, whole]

end

theorem leading_append (hs : List (Request × Bytes)) (rest : List Inbound) :
    leading (hs.map (fun h => .request h.1) ++ rest) = hs.map Prod.fst ++ leading rest := by
  induction hs with
  | nil => rfl
  | cons h hs ih => simp [leading, ih]

theorem leading_last {item : Inbound} (last : ∀ q, item ≠ .request q) (rest : List Inbound) :
    leading (item :: rest) = [] := by
  cases item with
  | request q => exact absurd rfl (last q)
  | failed e => rfl
  | ended => rfl

/-- What a listener owes to the requests of its stream, once it has done so much. -/
structure OneAnswerEach (inbound : List Inbound) (closing : Report Nat) (l? : Option Listener)
    (ds : List Deed) : Prop where
  /-- Requests are handled in their order, and none is passed over. -/
  handles : (Deed.handlings ds).map Prod.fst <+: leading inbound
  /-- Nor is an answer. -/
  answers : Deed.written ds <+: (Deed.handlings ds).map respond
  /-- At most one answer is refused, and no request is handled after it. -/
  refuses : ∀ a ∈ Deed.refusals ds,
    Deed.refusals ds = [a] ∧ (Deed.handlings ds).map respond = Deed.written ds ++ [a]
  works : l? ≠ none → Deed.posts ds = []
  reports : l? = none → .cancelled ∉ ds → Deed.posts ds = [closing]
  completes : l? = none → .cancelled ∉ ds → Deed.refusals ds = [] →
    (Deed.handlings ds).map Prod.fst = leading inbound ∧
      Deed.written ds = (Deed.handlings ds).map respond
  cancels : .cancelled ∈ ds → Deed.posts ds = [] ∧
    (Deed.requests ds).length ≤ (Deed.written ds).length + 1

theorem Tail.oneAnswerEach {closing : Report Nat} {ds : List Deed} {l? : Option Listener}
    (h : Tail closing ds l?) (rest : List Inbound) :
    OneAnswerEach (Deed.items ds ++ rest) closing l? ds := by
  cases h with
  | stays inHand =>
    constructor <;> cases inHand <;>
      simp [Deed.items, Deed.handlings, Deed.written, Deed.refusals, Deed.posts, leading]
  | left inHand =>
    constructor <;> cases inHand <;>
      simp [Deed.items, Deed.handlings, Deed.written, Deed.refusals, Deed.posts, leading,
        leading_last, *]
  | cancelled inHand gone =>
    constructor <;> cases inHand <;>
      simp [Deed.items, Deed.requests, Deed.handlings, Deed.written, Deed.refusals, Deed.posts,
        leading]
    case cancels.ended item last =>
      cases item with
      | request q => exact absurd rfl (last q)
      | failed e => exact Nat.zero_le _
      | ended => exact Nat.zero_le _

/-- Requests that were served before change nothing of that. -/
theorem OneAnswerEach.served {inbound : List Inbound} {closing : Report Nat}
    {l? : Option Listener} {tail : List Deed} (h : OneAnswerEach inbound closing l? tail)
    (hs : List (Request × Bytes)) :
    OneAnswerEach (hs.map (fun h => .request h.1) ++ inbound) closing l?
      (hs.flatMap whole ++ tail) := by
  have cancelled : Deed.cancelled ∈ hs.flatMap whole ++ tail ↔ Deed.cancelled ∈ tail := by
    simp [whole]
  constructor
  · rw [handlings_served, leading_append, List.map_append]
    exact (List.prefix_append_right_inj _).2 h.handles
  · rw [handlings_served, written_served, List.map_append]
    exact (List.prefix_append_right_inj _).2 h.answers
  · rw [refusals_served, handlings_served, written_served, List.map_append]
    intro a ha
    obtain ⟨hone, hlast⟩ := h.refuses a ha
    exact ⟨hone, by rw [hlast, List.append_assoc]⟩
  · rw [posts_served]
    exact h.works
  · rw [posts_served, cancelled]
    exact h.reports
  · rw [cancelled, refusals_served, handlings_served, written_served, leading_append,
      List.map_append, List.map_append]
    intro gone finished accepted
    obtain ⟨hall, hwritten⟩ := h.completes gone finished accepted
    rw [hall, hwritten]
    exact ⟨rfl, rfl⟩
  · rw [cancelled, posts_served, requests_served, written_served]
    intro hc
    obtain ⟨hposts, hlength⟩ := h.cancels hc
    simp only [List.length_append, List.length_map]
    exact ⟨hposts, by omega⟩

theorem Serves.undergoes? {closing : Report Nat} {l? : Option Listener} {ds : List Deed}
    (h : Serves closing l? ds) (event? : Option Listener.Event) :
    Serves closing (Listener.undergo? closing l? event?).1
      (ds ++ (Listener.undergo? closing l? event?).2) := by
  rcases l? with _ | l
  · simpa [Listener.undergo?] using h
  · cases event? with
    | none => simpa [Listener.undergo?] using h
    | some event => exact h.undergoes event

theorem Serves.oneAnswerEach {closing : Report Nat} {l? : Option Listener} {ds : List Deed}
    (h : Serves closing l? ds) {inbound : List Inbound} (taken : Deed.items ds <+: inbound) :
    OneAnswerEach inbound closing l? ds := by
  obtain ⟨hs, tail, rfl, htail⟩ := h.shape
  obtain ⟨rest, rfl⟩ := taken
  rw [items_served, List.append_assoc]
  exact (htail.oneAnswerEach rest).served hs

/-- A listener that nobody disturbs answers all requests, and reports the end after them. -/
theorem Serves.undisturbed {closing : Report Nat} {ds : List Deed}
    (h : Serves closing (some .waiting) ds) {item : Inbound} (last : ∀ q, item ≠ .request q)
    (hs : List (Request × Bytes)) :
    Serves closing none (ds ++ hs.flatMap whole ++ [.took item, .posted closing]) := by
  induction hs generalizing ds with
  | nil =>
    have closed : (Listener.waiting.undergo closing (.told (.arrived item))).1 = some .closed := by
      cases item with
      | request q => exact absurd rfl (last q)
      | failed e => rfl
      | ended => rfl
    have ended := h.undergoes (.told (.arrived item))
    rw [closed] at ended
    simpa [Listener.undergo, Listener.deeds] using ended.undergoes .leaves
  | cons h' hs ih =>
    have answered := ((h.undergoes (.told (.arrived (.request h'.1)))).undergoes
      (.told (.handled h'.2))).undergoes (.told .written)
    simpa [Listener.undergo, Listener.deeds, Listener.step, whole, respond] using ih answered

end DeviceLink
