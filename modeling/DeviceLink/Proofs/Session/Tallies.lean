import DeviceLink.Session.Health
import DeviceLink.Wire.Client
import Mathlib.Data.List.TakeWhile
/-!
# The record of health checks

All loops of a host, one after the other, keep one record of their checks. It tells of the checks
that it was made from how many failed, how many of these since the last one that passed, and what
the last ones of either kind were like, no matter which loop made them (`Tallies`,
`tallies_foldl`); the two counters stop at their greatest value.

A check passes just if the platform serves, whatever errors it lists, and on the wire that is said
by one number (`checkHealth_passes_iff`).
-/
namespace DeviceLink

/-! ## Checks -/

/-- A check that has come to its end. -/
structure Check where
  began   : Nat
  ended   : Nat
  /-- How long it might take. -/
  timeout : Span
  result  : CheckResult

/-- Why it failed; `none` when it passed. -/
def Check.failure? (k : Check) : Option String := k.result.failure? k.timeout

/-- Why checks failed, those that did. -/
def reasons (ks : List Check) : List String := ks.filterMap Check.failure?

/-- The checks up to and including the first that fails. -/
def upToFailure : List Check → List Check
  | [] => []
  | k :: ks => if k.failure? = none then k :: upToFailure ks else [k]

/-- Only who serves passes, and whatever errors are listed. -/
theorem CheckResult.failure?_eq_none_iff (timeout : Span) (r : CheckResult) :
    r.failure? timeout = none ↔ ∃ errors, r = .answered ⟨.serving, errors⟩ := by
  cases r with
  | answered report =>
    obtain ⟨status, errors⟩ := report
    cases status <;> simp [failure?, HealthReport.isServing]
  | failed e => simp [failure?]
  | timedOut => simp [failure?]

theorem reasons_of_passed {ks : List Check} (passed : ∀ k ∈ ks, k.failure? = none) :
    reasons ks = [] :=
  List.filterMap_eq_nil_iff.2 passed

theorem upToFailure_append {ks : List Check} (passed : ∀ k ∈ ks, k.failure? = none)
    (later : List Check) : upToFailure (ks ++ later) = ks ++ upToFailure later := by
  induction ks with
  | nil => rfl
  | cons k ks ih =>
    rw [List.forall_mem_cons] at passed
    rw [List.cons_append, upToFailure, if_pos passed.1, ih passed.2, List.cons_append]

theorem upToFailure_single (k : Check) : upToFailure [k] = [k] := by
  unfold upToFailure
  split <;> rfl

/-- Any checks are some that passed, and then one that failed, if there is any. -/
theorem split_at_failure (ks : List Check) :
    (∀ k ∈ ks, k.failure? = none) ∨
      ∃ passed k reason later, ks = passed ++ k :: later ∧ (∀ k ∈ passed, k.failure? = none) ∧
        k.failure? = some reason := by
  induction ks with
  | nil => exact .inl nofun
  | cons k ks ih =>
    cases failure : k.failure? with
    | some reason => exact .inr ⟨[], k, reason, ks, rfl, nofun, failure⟩
    | none =>
      rcases ih with all | ⟨passed, k', reason, later, rfl, all, failed⟩
      · exact .inl (List.forall_mem_cons.2 ⟨failure, all⟩)
      · exact .inr ⟨k :: passed, k', reason, later, rfl, List.forall_mem_cons.2 ⟨failure, all⟩,
          failed⟩

/-! ## The record -/

namespace HealthStatus

def record (h : HealthStatus) (k : Check) : HealthStatus :=
  match k.failure? with
  | none => h.recordSuccess k.ended (k.ended - k.began)
  | some reason => h.recordFailure k.ended reason

/-- The checks that failed since the last one that passed, the latest first. -/
def streak (ks : List Check) : List Check := ks.reverse.takeWhile fun k => k.failure?.isSome

/-- What is known of the health after these checks, whoever made them. -/
structure Tallies (ks : List Check) (h : HealthStatus) : Prop where
  consecutive : h.consecutiveFailures = min counterMax (streak ks).length
  total       : h.totalErrors = min counterMax (reasons ks).length
  message     : h.lastError = (reasons ks).getLast?
  lastCheck   : h.lastCheck = (ks.map Check.ended).getLast?
  lastSuccess : h.lastSuccess = ((ks.filter fun k => k.failure?.isNone).map Check.ended).getLast?
  roundTrip   : h.lastRoundTrip =
    ((ks.filter fun k => k.failure?.isNone).map fun k => k.ended - k.began).getLast?
  lastErrorAt : h.lastErrorAt = ((ks.filter fun k => k.failure?.isSome).map Check.ended).getLast?

theorem tallies_initial : Tallies [] initial := ⟨rfl, rfl, rfl, rfl, rfl, rfl, rfl⟩

theorem increment_min (n : Nat) : increment (min counterMax n) = min counterMax (n + 1) := by
  unfold increment
  omega

theorem Tallies.record {ks : List Check} {h : HealthStatus} (tallies : Tallies ks h) (k : Check) :
    Tallies (ks ++ [k]) (h.record k) := by
  cases failure : k.failure? with
  | none =>
    have success : h.record k = h.recordSuccess k.ended (k.ended - k.began) := by
      simp only [HealthStatus.record, failure]
    have reasoned : reasons (ks ++ [k]) = reasons ks := by
      simp [reasons, List.filterMap_append, failure]
    rw [success]
    refine ⟨?_, ?_, ?_, ?_, ?_, ?_, ?_⟩
    · simp [streak, failure, recordSuccess]
    · rw [reasoned]
      exact tallies.total
    · rw [reasoned]
      exact tallies.message
    · simp [recordSuccess]
    · simp [failure, recordSuccess]
    · simp [failure, recordSuccess]
    · simpa [failure, recordSuccess] using tallies.lastErrorAt
  | some reason =>
    have failed : h.record k = h.recordFailure k.ended reason := by
      simp only [HealthStatus.record, failure]
    have reasoned : reasons (ks ++ [k]) = reasons ks ++ [reason] := by
      simp [reasons, List.filterMap_append, failure]
    have longer : (streak (ks ++ [k])).length = (streak ks).length + 1 := by
      simp [streak, failure]
    rw [failed]
    refine ⟨?_, ?_, ?_, ?_, ?_, ?_, ?_⟩
    · rw [longer, ← increment_min, ← tallies.consecutive]
      rfl
    · rw [reasoned, List.length_append, List.length_singleton, ← increment_min, ← tallies.total]
      rfl
    · simp [reasoned, recordFailure]
    · simp [recordFailure]
    · simpa [failure, recordFailure] using tallies.lastSuccess
    · simpa [failure, recordFailure] using tallies.roundTrip
    · simp [failure, recordFailure]

theorem Tallies.foldl {before : List Check} {h : HealthStatus} (tallies : Tallies before h)
    (ks : List Check) : Tallies (before ++ ks) (ks.foldl HealthStatus.record h) := by
  induction ks generalizing before h with
  | nil => rwa [List.append_nil]
  | cons k ks ih =>
    rw [List.append_cons]
    exact ih (tallies.record k)

theorem tallies_foldl (ks : List Check) : Tallies ks (ks.foldl HealthStatus.record initial) :=
  tallies_initial.foldl ks

theorem Tallies.consecutive_le_total {ks : List Check} {h : HealthStatus}
    (tallies : Tallies ks h) : h.consecutiveFailures ≤ h.totalErrors := by
  have failed : (reasons ks).length = ks.countP fun k => k.failure?.isSome := by
    rw [reasons, List.length_filterMap_eq_countP]
  have fewer : (streak ks).length ≤ (reasons ks).length := by
    have all : (streak ks).length = (streak ks).countP fun k => k.failure?.isSome :=
      (List.countP_eq_length.2 (List.all_eq_true.1 List.all_takeWhile)).symm
    rw [failed, all, ← List.countP_reverse (l := ks)]
    exact (List.takeWhile_sublist _).countP_le
  rw [tallies.consecutive, tallies.total]
  omega

theorem Tallies.lastSuccess_eq_none_iff {ks : List Check} {h : HealthStatus}
    (tallies : Tallies ks h) : h.lastSuccess = none ↔ ∀ k ∈ ks, k.failure? ≠ none := by
  rw [tallies.lastSuccess, List.getLast?_eq_none_iff, List.map_eq_nil_iff, List.filter_eq_nil_iff]
  simp only [Option.isNone_iff_eq_none, ne_eq]

end HealthStatus

/-! ## Checks over the wire -/

/-- What a call comes to that was answered in time. -/
def CheckResult.ofCall : Except TransportError HealthReport → CheckResult
  | .ok report => .answered report
  | .error e => .failed e

/-- Of all numbers only 1 says that the platform serves. -/
theorem isServing_ofWire (m : Wire.HealthCheckResponse) :
    (HealthReport.ofWire m).isServing = true ↔ m.status = 1 := by
  have other : ∀ n : Int32, n ≠ 1 → (ServingStatus.ofNumber? n).getD .unknown ≠ .serving := by
    intro n hn
    unfold ServingStatus.ofNumber?
    repeat' split
    all_goals simp_all
  by_cases one : m.status = 1
  · simp [HealthReport.isServing, HealthReport.ofWire, ServingStatus.ofNumber?, one]
  · simp [HealthReport.isServing, HealthReport.ofWire, other _ one, one]

/-- A check passes whose call gets through and is answered with the number of a platform that
serves; whatever else the answer holds. -/
theorem checkHealth_passes_iff (timeout : Span) (link : Link) (who : Identity)
    (answer : Except Status Wire.HealthCheckResponse) :
    (CheckResult.ofCall (Wire.checkHealth link who answer).1).failure? timeout = none ↔
      link = .reachable ∧ (∃ hs, who.tagged = .ok hs) ∧ ∃ m, answer = .ok m ∧ m.status = 1 := by
  unfold Wire.checkHealth Wire.carry
  cases who.tagged with
  | error e => simp [CheckResult.ofCall, CheckResult.failure?, Except.map]
  | ok hs =>
    cases link with
    | unreachable status => simp [CheckResult.ofCall, CheckResult.failure?, Except.map]
    | reachable =>
      cases answer with
      | error status => simp [CheckResult.ofCall, CheckResult.failure?, Except.map]
      | ok m => simp [CheckResult.ofCall, CheckResult.failure?, Except.map, isServing_ofWire]

end DeviceLink
