import DeviceLink.Session.Connect
import Mathlib.Data.List.Basic
/-!
# Batches of streams are all or nothing

A loop that opens streams learns nothing but what its calls come to, and that determines all it
does: it calls for the methods in their order, a refusal gives up the attempt, and the next one
begins anew. So its deeds are those of attempts that were given up (`GivenUp`), and of a latest one
that goes on, is complete or was cancelled (`Latest`, `Tries.step`). Of the outcomes it only matters
how many streams were opened since the last refusal (`streak`): the batch is posted when there is
one for every method, and it is those (`Batched`, `history_batched`). Where refusals come first and
successes only after them, that takes one call for each refusal and one for each method
(`history_refusals`).
-/
namespace DeviceLink

variable {σ : Type}

/-! ## Deeds -/

/-- What a loop that opens streams does. -/
inductive ConnectDeed (σ : Type)
  | called (m : Method) (outcome : Except TransportError σ)
  | posted (streams : List (Method × σ))

namespace ConnectDeed

def outcomes (ds : List (ConnectDeed σ)) : List (Except TransportError σ) :=
  ds.filterMap fun | called _ outcome => some outcome | _ => none

def posts (ds : List (ConnectDeed σ)) : List (List (Method × σ)) :=
  ds.filterMap fun | posted streams => some streams | _ => none

@[simp] theorem outcomes_append (ds ds' : List (ConnectDeed σ)) :
    outcomes (ds ++ ds') = outcomes ds ++ outcomes ds' := List.filterMap_append

@[simp] theorem posts_append (ds ds' : List (ConnectDeed σ)) :
    posts (ds ++ ds') = posts ds ++ posts ds' := List.filterMap_append

/-- Calls that open these streams. -/
def opens (streams : List (Method × σ)) : List (ConnectDeed σ) :=
  streams.map fun s => .called s.1 (.ok s.2)

@[simp] theorem outcomes_opens (streams : List (Method × σ)) :
    outcomes (opens streams) = (streams.map Prod.snd).map .ok := by
  induction streams with
  | nil => rfl
  | cons s streams ih => exact congrArg _ ih

@[simp] theorem posts_opens (streams : List (Method × σ)) : posts (opens streams) = [] := by
  induction streams with
  | nil => rfl
  | cons s streams ih => exact ih

end ConnectDeed

open ConnectDeed (outcomes posts opens)

namespace ConnectLoop

/-- What a loop does when it is told something. -/
def deeds (loop : ConnectLoop σ) (input : ConnectInput σ) : List (ConnectDeed σ) :=
  (match loop, input with
    | .opening _ next _, .answered outcome => [.called next outcome]
    | _, _ => []) ++ ((loop.step input).2.map .posted).toList

/-- A step makes one call at most. -/
theorem outcomes_deeds (loop : ConnectLoop σ) (input : ConnectInput σ) :
    outcomes (loop.deeds input) = [] ∨
      ∃ m o, outcomes (loop.deeds input) = [o] ∧ .called m o ∈ loop.deeds input := by
  have posting : ∀ batch : Option (List (Method × σ)),
      outcomes (batch.map ConnectDeed.posted).toList = [] := by
    rintro (_ | batch) <;> rfl
  rcases loop with ⟨opened, next, rest⟩ | _ | _
  · cases input with
    | answered o =>
      refine .inr ⟨next, o, ?_, List.mem_append_left _ List.mem_cons_self⟩
      rw [deeds, ConnectDeed.outcomes_append, posting]
      rfl
    | elapsed => exact .inl (posting _)
    | cancelled => exact .inl (posting _)
  · exact .inl (posting _)
  · exact .inl (posting _)

def history (loop : ConnectLoop σ) : List (ConnectInput σ) → List (ConnectDeed σ)
  | [] => []
  | input :: inputs => loop.deeds input ++ (loop.step input).1.history inputs

def after (loop : ConnectLoop σ) (inputs : List (ConnectInput σ)) : ConnectLoop σ :=
  inputs.foldl (fun loop input => (loop.step input).1) loop

theorem after_append (loop : ConnectLoop σ) (inputs later : List (ConnectInput σ)) :
    loop.after (inputs ++ later) = (loop.after inputs).after later := List.foldl_append

@[simp] theorem step_cancelled (loop : ConnectLoop σ) : loop.step .cancelled = (.ended, none) := by
  rcases loop with ⟨opened, next, _ | ⟨m, rest⟩⟩ | _ | _ <;> rfl

@[simp] theorem step_refused (opened : List (Method × σ)) (next : Method) (rest : List Method)
    (e : TransportError) :
    (ConnectLoop.opening opened next rest).step (.answered (.error e)) = (.pausing, none) := by
  cases rest <;> rfl

@[simp] theorem deeds_refused (opened : List (Method × σ)) (next : Method) (rest : List Method)
    (e : TransportError) :
    (ConnectLoop.opening opened next rest).deeds (.answered (.error e)) =
      [.called next (.error e)] := by
  rw [deeds, step_refused]
  rfl

theorem history_append (inputs later : List (ConnectInput σ)) :
    ∀ loop : ConnectLoop σ,
      loop.history (inputs ++ later) =
        loop.history inputs ++ (loop.after inputs).history later := by
  induction inputs with
  | nil => intro loop; rfl
  | cons input inputs ih =>
    intro loop
    rw [List.cons_append, history, history, ih, List.append_assoc]
    rfl

/-! ## Attempts -/

/-- An attempt that a refusal ended, before it came to the end of the methods. -/
structure GivenUp (σ : Type) where
  opened  : List (Method × σ)
  refused : Method
  error   : TransportError
  rest    : List Method
  inOrder : opened.map Prod.fst ++ refused :: rest = Method.all

def GivenUp.deeds (a : GivenUp σ) : List (ConnectDeed σ) :=
  opens a.opened ++ [.called a.refused (.error a.error)]

/-- The attempt that a loop makes, with what it has done in it. -/
inductive Latest : ConnectLoop σ → List (ConnectDeed σ) → Prop
  | opening {opened : List (Method × σ)} {next : Method} {rest : List Method}
      (inOrder : opened.map Prod.fst ++ next :: rest = Method.all) :
      Latest (.opening opened next rest) (opens opened)
  | pausing : Latest .pausing []
  | complete {streams : List (Method × σ)} (whole : streams.map Prod.fst = Method.all) :
      Latest .ended (opens streams ++ [.posted streams])
  | cancelled {opened : List (Method × σ)} {next : Method} {rest : List Method}
      (inOrder : opened.map Prod.fst ++ next :: rest = Method.all) :
      Latest .ended (opens opened)

/-- What a loop has done since it began. -/
inductive Tries : ConnectLoop σ → List (ConnectDeed σ) → Prop
  | mk (before : List (GivenUp σ)) {loop : ConnectLoop σ} {latest : List (ConnectDeed σ)}
      (h : Latest loop latest) : Tries loop (before.flatMap GivenUp.deeds ++ latest)

theorem latest_attempt : Latest (attempt : ConnectLoop σ) [] := @Latest.opening σ [] .start _ rfl

theorem tries_attempt : Tries (attempt : ConnectLoop σ) [] :=
  .mk [] latest_attempt

/-- Each step goes on with the latest attempt, or gives it up and begins another. -/
theorem Tries.step {loop : ConnectLoop σ} {ds : List (ConnectDeed σ)} (h : Tries loop ds)
    (input : ConnectInput σ) : Tries (loop.step input).1 (ds ++ loop.deeds input) := by
  obtain ⟨before, latest⟩ := h
  rw [List.append_assoc]
  cases latest with
  | @opening opened next rest inOrder =>
    cases input with
    | answered outcome =>
      cases outcome with
      | error e =>
        have again := Tries.mk (before ++ [⟨opened, next, e, rest, inOrder⟩]) Latest.pausing
        rw [List.flatMap_append, List.append_assoc] at again
        simpa [ConnectLoop.step, deeds, GivenUp.deeds] using again
      | ok s =>
        cases rest with
        | nil =>
          have whole : (opened ++ [(next, s)]).map Prod.fst = Method.all := by
            rw [List.map_append]
            exact inOrder
          have done := Tries.mk before (.complete whole)
          simpa [ConnectLoop.step, deeds, opens] using done
        | cons m rest =>
          have more : (opened ++ [(next, s)]).map Prod.fst ++ m :: rest = Method.all := by
            rw [List.map_append, List.append_assoc]
            exact inOrder
          have one := Tries.mk before (.opening more)
          simpa [ConnectLoop.step, deeds, opens] using one
    | elapsed => simpa [ConnectLoop.step, deeds] using Tries.mk before (.opening inOrder)
    | cancelled => simpa [ConnectLoop.step, deeds] using Tries.mk before (.cancelled inOrder)
  | pausing =>
    have anew : Tries (attempt : ConnectLoop σ) (before.flatMap GivenUp.deeds ++ []) :=
      .mk before latest_attempt
    have gone : Tries (.ended : ConnectLoop σ) (before.flatMap GivenUp.deeds ++ []) :=
      .mk before (@Latest.cancelled σ [] .start _ rfl)
    cases input with
    | answered outcome => exact .mk before .pausing
    | elapsed => exact anew
    | cancelled => exact gone
  | complete whole =>
    cases input <;> simpa [ConnectLoop.step, deeds] using Tries.mk before (.complete whole)
  | cancelled inOrder =>
    cases input <;> simpa [ConnectLoop.step, deeds] using Tries.mk before (.cancelled inOrder)

theorem Tries.run (inputs : List (ConnectInput σ)) :
    ∀ {loop : ConnectLoop σ} {ds : List (ConnectDeed σ)}, Tries loop ds →
      Tries (loop.after inputs) (ds ++ loop.history inputs) := by
  induction inputs with
  | nil =>
    intro loop ds h
    rw [history, List.append_nil]
    exact h
  | cons input inputs ih =>
    intro loop ds h
    rw [history, ← List.append_assoc]
    exact ih (h.step input)

/-! ## Streaks -/

/-- The streams that were opened since the last refusal. -/
def streak (os : List (Except TransportError σ)) : List σ :=
  os.foldl (fun opened o => match o with | .ok s => opened ++ [s] | .error _ => []) []

theorem streak_refused (os : List (Except TransportError σ)) (e : TransportError) :
    streak (os ++ [.error e]) = [] := by
  rw [streak, List.foldl_append]
  rfl

theorem streak_opened (os : List (Except TransportError σ)) (streams : List σ) :
    streak (os ++ streams.map .ok) = streak os ++ streams := by
  induction streams generalizing os with
  | nil => simp
  | cons s streams ih =>
    have one : streak (os ++ [.ok s]) = streak os ++ [s] := by
      rw [streak, List.foldl_append]
      rfl
    rw [List.map_cons, List.append_cons, ih, one, List.append_assoc]
    rfl

theorem streak_refusals (errors : List TransportError) :
    streak (errors.map .error : List (Except TransportError σ)) = [] := by
  rcases errors.eq_nil_or_concat with rfl | ⟨errors, e, rfl⟩
  · rfl
  · rw [List.concat_eq_append, List.map_append]
    exact streak_refused _ e

theorem streak_after_refusals (errors : List TransportError) (streams : List σ) :
    streak (errors.map .error ++ streams.map .ok) = streams := by
  rw [streak_opened, streak_refusals, List.nil_append]

/-- Nothing is left of attempts that were given up. -/
theorem streak_givenUp (before : List (GivenUp σ)) :
    streak (outcomes (before.flatMap GivenUp.deeds)) = [] := by
  rcases before.eq_nil_or_concat with rfl | ⟨before, a, rfl⟩
  · rfl
  · rw [List.concat_eq_append, List.flatMap_append, List.flatMap_singleton, GivenUp.deeds,
      ← List.append_assoc, ConnectDeed.outcomes_append]
    exact streak_refused _ a.error

theorem posts_givenUp (before : List (GivenUp σ)) :
    posts (before.flatMap GivenUp.deeds) = [] := by
  induction before with
  | nil => rfl
  | cons a before ih =>
    rw [List.flatMap_cons, ConnectDeed.posts_append, ih, GivenUp.deeds, ConnectDeed.posts_append,
      ConnectDeed.posts_opens]
    rfl

theorem streak_tries (before : List (GivenUp σ)) (opened : List (Method × σ)) :
    streak (outcomes (before.flatMap GivenUp.deeds ++ opens opened)) = opened.map Prod.snd := by
  rw [ConnectDeed.outcomes_append, ConnectDeed.outcomes_opens, streak_opened, streak_givenUp,
    List.nil_append]

/-- What a loop has posted, if anything, is one batch: the streams that it opened since the last
refusal, as soon as there is one for every method. -/
structure Batched (loop : ConnectLoop σ) (ds : List (ConnectDeed σ)) : Prop where
  tries : Tries loop ds
  most  : (streak (outcomes ds)).length ≤ Method.all.length
  posts : posts ds = if (streak (outcomes ds)).length = Method.all.length
    then [Method.all.zip (streak (outcomes ds))] else []

/-- An attempt that is not complete has opened too few streams. -/
theorem Tries.partly {loop : ConnectLoop σ} {before : List (GivenUp σ)}
    {opened : List (Method × σ)} {next : Method} {rest : List Method}
    (h : Tries loop (before.flatMap GivenUp.deeds ++ opens opened))
    (inOrder : opened.map Prod.fst ++ next :: rest = Method.all) :
    Batched loop (before.flatMap GivenUp.deeds ++ opens opened) := by
  have few : (opened.map Prod.snd).length < Method.all.length := by
    rw [← inOrder, List.length_append, List.length_map, List.length_map, List.length_cons]
    omega
  refine ⟨h, ?_, ?_⟩
  · rw [streak_tries]
    exact Nat.le_of_lt few
  · rw [streak_tries, if_neg (Nat.ne_of_lt few), ConnectDeed.posts_append, posts_givenUp,
      ConnectDeed.posts_opens]
    rfl

theorem Tries.batched {loop : ConnectLoop σ} {ds : List (ConnectDeed σ)} (h : Tries loop ds) :
    Batched loop ds := by
  have tries := h
  obtain ⟨before, latest⟩ := h
  cases latest with
  | opening inOrder => exact tries.partly inOrder
  | pausing => exact @Tries.partly σ _ before [] .start _ tries rfl
  | cancelled inOrder => exact tries.partly inOrder
  | @complete streams whole =>
    have own : streak (outcomes (before.flatMap GivenUp.deeds ++
        (opens streams ++ [.posted streams]))) = streams.map Prod.snd := by
      rw [← List.append_assoc, ConnectDeed.outcomes_append, ← streak_tries before streams]
      exact congrArg streak (List.append_nil _)
    have full : (streams.map Prod.snd).length = Method.all.length := by
      rw [← whole, List.length_map, List.length_map]
    refine ⟨tries, ?_, ?_⟩
    · rw [own]
      exact Nat.le_of_eq full
    · have zipped : (streams.map Prod.fst).zip (streams.map Prod.snd) = streams := by
        rw [← List.unzip_fst, ← List.unzip_snd, List.zip_unzip]
      rw [own, if_pos full, ← whole, zipped, ConnectDeed.posts_append, posts_givenUp,
        ConnectDeed.posts_append, ConnectDeed.posts_opens]
      rfl

theorem history_batched (inputs : List (ConnectInput σ)) :
    Batched (attempt.after inputs) (attempt.history inputs) := by
  have run := tries_attempt.run inputs
  rw [List.nil_append] at run
  exact run.batched

/-! ## Cancellation -/

theorem history_ended (inputs : List (ConnectInput σ)) :
    (.ended : ConnectLoop σ).history inputs = [] := by
  induction inputs with
  | nil => rfl
  | cons input inputs ih => cases input <;> exact ih

/-- Whatever a loop is told after it was told to end, it does nothing any more. -/
theorem history_cancelled (loop : ConnectLoop σ) (inputs later : List (ConnectInput σ)) :
    loop.history (inputs ++ .cancelled :: later) = loop.history inputs := by
  have nothing : ∀ loop : ConnectLoop σ, loop.history (.cancelled :: later) = [] := by
    intro loop
    simp [history, deeds, history_ended]
  rw [history_append, nothing, List.append_nil]

/-! ## Answers -/

/-- What a loop is told whose calls are answered in this way, and whose pauses pass. -/
def answering : List (Except TransportError σ) → List (ConnectInput σ)
  | [] => []
  | .ok s :: os => .answered (.ok s) :: answering os
  | .error e :: os => .answered (.error e) :: .elapsed :: answering os

/-- A loop that was given these answers has used them up, or it has posted a batch before. -/
structure UsesUp (os : List (Except TransportError σ)) (ds : List (ConnectDeed σ)) : Prop where
  used : outcomes ds <+: os
  all  : posts ds = [] → outcomes ds = os

theorem UsesUp.call {os : List (Except TransportError σ)} {ds : List (ConnectDeed σ)}
    (h : UsesUp os ds) (m : Method) (o : Except TransportError σ) :
    UsesUp (o :: os) (.called m o :: ds) where
  used := List.cons_prefix_cons.2 ⟨rfl, h.used⟩
  all nothing := congrArg (List.cons o) (h.all nothing)

theorem history_answering (os : List (Except TransportError σ)) :
    ∀ (opened : List (Method × σ)) (next : Method) (rest : List Method),
      UsesUp os ((ConnectLoop.opening opened next rest).history (answering os)) := by
  induction os with
  | nil => exact fun _ _ _ => ⟨List.nil_prefix, fun _ => rfl⟩
  | cons o os ih =>
    intro opened next rest
    cases o with
    | error e =>
      have again : (ConnectLoop.opening opened next rest).history (answering (.error e :: os)) =
          .called next (.error e) :: (attempt : ConnectLoop σ).history (answering os) := by
        rw [answering, history, history, step_refused, deeds, step_refused]
        rfl
      rw [again]
      exact (ih [] .start _).call next (.error e)
    | ok s =>
      cases rest with
      | cons m rest => exact (ih (opened ++ [(next, s)]) m rest).call next (.ok s)
      | nil =>
        have last : (ConnectLoop.opening opened next []).history (answering (.ok s :: os)) =
            [.called next (.ok s), .posted (opened ++ [(next, s)])] :=
          congrArg (List.append _) (history_ended (answering os))
        rw [last]
        exact ⟨List.cons_prefix_cons.2 ⟨rfl, List.nil_prefix⟩, fun nothing => nomatch nothing⟩

/-- Where refusals come first, all depends on the successes after them. -/
theorem Batched.after_refusals {loop : ConnectLoop σ} {ds : List (ConnectDeed σ)}
    (h : Batched loop ds) {errors : List TransportError} {streams : List σ}
    (answers : outcomes ds = errors.map .error ++ streams.map .ok) :
    streams.length ≤ Method.all.length ∧
      ConnectDeed.posts ds =
        if streams.length = Method.all.length then [Method.all.zip streams] else [] := by
  have own : streak (outcomes ds) = streams := by
    rw [answers, streak_after_refusals]
  exact ⟨own ▸ h.most, own ▸ h.posts⟩

/-- Refusals, and enough successes after them: the batch is posted after one call for each refusal
and one for each method. -/
theorem history_refusals (errors : List TransportError) {streams : List σ}
    (enough : Method.all.length ≤ streams.length) :
    let ds := attempt.history (answering (errors.map .error ++ streams.map .ok))
    posts ds = [Method.all.zip (streams.take Method.all.length)] ∧
      (outcomes ds).length = errors.length + Method.all.length := by
  intro ds
  have batched : Batched _ ds := history_batched _
  have uses : UsesUp (errors.map .error ++ streams.map .ok) ds := history_answering _ [] .start _
  have full : (streak (outcomes ds)).length = Method.all.length := by
    by_contra short
    have all := uses.all (batched.posts.trans (if_neg short))
    obtain ⟨most, posts⟩ := batched.after_refusals all
    rw [all, streak_after_refusals] at short
    omega
  -- the answers that were used are the refusals, and as many successes as there are methods
  have part := List.prefix_iff_eq_take.1 uses.used
  have own : streak (outcomes ds) = streams.take ((outcomes ds).length - errors.length) := by
    conv_lhs => rw [part]
    rw [List.take_append, ← List.map_take, ← List.map_take, streak_after_refusals,
      List.length_map]
  have length : (outcomes ds).length = errors.length + Method.all.length := by
    have most := uses.used.length_le
    rw [own, List.length_take] at full
    rw [List.length_append, List.length_map, List.length_map] at most
    have some : 0 < Method.all.length := by decide
    omega
  refine ⟨?_, length⟩
  rw [batched.posts, if_pos full, own, length, Nat.add_sub_cancel_left]

/-! ## All or nothing -/

/-- Whatever a loop is told from its beginning on, its batches are all or nothing; once it is told
to end it does nothing any more; and while it is answered it goes on until a batch is complete. -/
structure AllOrNothing (σ : Type) : Prop where
  batched : ∀ inputs : List (ConnectInput σ),
    Batched (attempt.after inputs) (attempt.history inputs)
  cancels : ∀ inputs later : List (ConnectInput σ),
    attempt.history (inputs ++ .cancelled :: later) = attempt.history inputs
  usesUp : ∀ os : List (Except TransportError σ), UsesUp os (attempt.history (answering os))
  refusals : ∀ (errors : List TransportError) (streams : List σ),
    Method.all.length ≤ streams.length →
      let ds := attempt.history (answering (errors.map .error ++ streams.map .ok))
      posts ds = [Method.all.zip (streams.take Method.all.length)] ∧
        (outcomes ds).length = errors.length + Method.all.length
  soonest : ∀ (inputs : List (ConnectInput σ)) (errors : List TransportError) (streams : List σ),
    outcomes (attempt.history inputs) = errors.map .error ++ streams.map .ok →
      streams.length ≤ Method.all.length ∧ ConnectDeed.posts (attempt.history inputs) =
        if streams.length = Method.all.length then [Method.all.zip streams] else []

theorem allOrNothing (σ : Type) : AllOrNothing σ where
  batched := history_batched
  cancels := attempt.history_cancelled
  usesUp os := history_answering os [] .start _
  refusals errors _ enough := history_refusals errors enough
  soonest inputs _ _ answers := (history_batched inputs).after_refusals answers

end ConnectLoop
end DeviceLink
