import DeviceLink.Bench.Rig
/-!
# The clock of the rig

Time passes from timer to timer. At each of them everyone whose timer ends is woken, in the order
in which the timers were set, and all run before time goes on.
-/
namespace DeviceLink.Bench.Rig

variable {Config Command TagValue : Type}

/-- The timers of tasks and stoppers: when they end, their numbers, and who is woken. -/
def timers (r : Rig Config Command TagValue) : List (Nat × Nat × Turn) :=
  r.tasks.filterMap (fun t =>
    match t.timer with
    | .pending due number => some (due, number, .task t.id)
    | _ => none) ++ r.stoppers.map fun s => (s.1, s.2, .stopper)

/-- When the next timer ends. -/
def nextDue? (r : Rig Config Command TagValue) : Option Nat := (r.timers.map Prod.fst).min?

/-- The clock reaches a time: the timers that are due have ended. -/
def strike (r : Rig Config Command TagValue) (time : Nat) : Rig Config Command TagValue :=
  let due := (r.timers.filter fun t => t.1 ≤ time).mergeSort fun a b => decide (a.2.1 ≤ b.2.1)
  let expire (t : Task Config Command TagValue) : Task Config Command TagValue :=
    match t.timer with
    | .pending d _ => if d ≤ time then { t with timer := .elapsed } else t
    | _ => t
  { r with
    now := time
    tasks := r.tasks.map expire
    stoppers := r.stoppers.filter fun s => decide (time < s.1)
    ready := r.ready ++ due.map fun t => t.2.2 }

/-- Time passes up to `time`, in at most `fuel` strikes. -/
def runUntil (time : Nat) : Nat → Rig Config Command TagValue → Rig Config Command TagValue
  | 0, r => { r with now := time }
  | fuel + 1, r =>
    match r.nextDue? with
    | none => { r with now := time }
    | some due =>
      if due ≤ time then runUntil time fuel (r.strike due).settle else { r with now := time }

/-- Time passes up to and including `time`. Every strike but the first moves the clock on. -/
def advanceTo (r : Rig Config Command TagValue) (time : Nat) : Rig Config Command TagValue :=
  runUntil time (time - r.now + 2) r

/-- Time passes until `test` has an answer, but only before `time`. -/
def seek {α : Type} (test : Rig Config Command TagValue → Option α) (time : Nat) :
    Nat → Rig Config Command TagValue → Option α × Rig Config Command TagValue
  | 0, r => (none, r)
  | fuel + 1, r =>
    match test r with
    | some a => (some a, r)
    | none =>
      match r.nextDue? with
      | none => (none, r)
      | some due =>
        if due < time then seek test time fuel (r.strike due).settle else (none, r)

/-- Waits for an answer; without one all that is due at the end of the wait has happened too. -/
def await {α : Type} (r : Rig Config Command TagValue)
    (test : Rig Config Command TagValue → Option α) (millis : Nat) :
    Option α × Rig Config Command TagValue :=
  let time := r.now + millis
  match seek test time (millis + 2) r with
  | (some a, r) => (some a, r)
  | (none, r) => (none, r.advanceTo time)

end DeviceLink.Bench.Rig
