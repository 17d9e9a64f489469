import DeviceLink.Proofs.Pipeline.Locality
import Mathlib.Data.Finset.Card
/-!
# A map on exact keys

Whatever a cache is asked, and in whatever order, the entry of a key is the value that was stored
last under exactly this key since the cache was last cleared. What was stored is told from the calls
alone (`since`): an update stores what it decides on the value stored last before it. A cache
reflects that list (`Reflects`), each call keeps it so (`Reflects.perform`), and what calls answer
with is read off it (`run_maps`). A key with a blank part is refused before anything else happens.
-/
namespace DeviceLink

namespace CacheKey

def part (k : CacheKey) : KeyPart → String
  | .table => k.table
  | .device => k.device
  | .tag => k.tag

/-- The first part of which trimming leaves nothing. -/
def firstBlank? (k : CacheKey) : Option KeyPart :=
  [KeyPart.table, .device, .tag].find? fun p => Text.trim (k.part p) == ""

theorem blankPart?_eq (k : CacheKey) : k.blankPart? = k.firstBlank? := by
  have trimmed : ∀ s, (Text.trim s == "") = Text.isBlank s := by
    intro s
    rw [Bool.eq_iff_iff, beq_iff_eq, Text.isBlank_iff_trim_eq_empty]
  simp only [firstBlank?, List.find?_cons, List.find?_nil, trimmed, part, blankPart?]
  cases Text.isBlank k.table <;> cases Text.isBlank k.device <;> cases Text.isBlank k.tag <;> rfl

theorem check_blank {k : CacheKey} {p : KeyPart} (blank : k.firstBlank? = some p) :
    k.check = .error (.blankKey p) := by
  rw [check, blankPart?_eq, blank]

theorem check_named {k : CacheKey} (named : k.firstBlank? = none) : k.check = .ok k := by
  rw [check, blankPart?_eq, named]

end CacheKey

namespace Cache

/-! ## Calls -/

/-- A call of a cache. An update decides on any kind of result. -/
inductive Call : Type 1
  | put (k : CacheKey) (x : Float)
  | get (k : CacheKey)
  | update {α : Type} (k : CacheKey) (decide : Option Float → Option Float × α)
  | clear

/-- The key that a call is about. -/
def Call.key? : Call → Option CacheKey
  | .put k _ | .get k | .update k _ => some k
  | .clear => none

/-- What a call answers with if it does not fail. -/
def Call.Answer : Call → Type
  | .get _ => Option Float
  | @Call.update α _ _ => α
  | .put _ _ | .clear => Unit

/-- The answer to a call and the cache after it; a call that fails brings no cache of its own. -/
def perform (c : Cache) : (call : Call) → Except CacheError call.Answer × Cache
  | .put k x =>
    match c.put k x with
    | .ok c' => (.ok (), c')
    | .error e => (.error e, c)
  | .get k => (c.get k, c)
  | .update k decide =>
    match c.update k decide with
    | .ok (a, c') => (.ok a, c')
    | .error e => (.error e, c)
  | .clear => (.ok (), c.clear)

def run (c : Cache) (calls : List Call) : Cache := calls.foldl (fun c call => (c.perform call).2) c

section
variable (c : Cache)

theorem perform_blank {call : Call} {k : CacheKey} {p : KeyPart} (about : call.key? = some k)
    (blank : k.firstBlank? = some p) : c.perform call = (.error (.blankKey p), c) := by
  have refused := CacheKey.check_blank blank
  cases call with
  | put k' x =>
    cases about
    simp only [perform, put, refused]
    rfl
  | get k' =>
    cases about
    simp only [perform, get, refused]
    rfl
  | update k' decide =>
    cases about
    simp only [perform, update, refused]
    rfl
  | clear => cases about

variable {k : CacheKey} (named : k.firstBlank? = none)
include named

theorem perform_put (x : Float) : c.perform (.put k x) = (.ok (), c.accept k (some x)) := by
  simp only [perform, put, CacheKey.check_named named]
  rfl

theorem get_named : c.get k = .ok (c.find? k) := by
  simp only [get, CacheKey.check_named named]
  rfl

theorem perform_get : c.perform (.get k) = (.ok (c.find? k), c) :=
  congrArg (fun a => (a, c)) (get_named c named)

theorem perform_update {α : Type} (decide : Option Float → Option Float × α) :
    c.perform (.update k decide) =
      (.ok (decide (c.find? k)).2, c.accept k (decide (c.find? k)).1) := by
  have unblank := CacheKey.named_of_blankPart? ((CacheKey.blankPart?_eq k).trans named)
  simp only [perform, Range.update_eq unblank]
  rfl

end

/-! ## What was stored -/

/-- The value that was stored last under a key. -/
def latest? (stored : List (CacheKey × Float)) (k : CacheKey) : Option Float :=
  ((stored.filter fun e => e.1 = k).map Prod.snd).getLast?

/-- What was stored since the cache was last cleared, once a call has followed. -/
def Call.store (stored : List (CacheKey × Float)) : Call → List (CacheKey × Float)
  | .put k x => if k.firstBlank? = none then stored ++ [(k, x)] else stored
  | .get _ => stored
  | .update k decide =>
    if k.firstBlank? = none then
      stored ++ ((decide (latest? stored k)).1.map fun x => (k, x)).toList
    else stored
  | .clear => []

def since (calls : List Call) : List (CacheKey × Float) := calls.foldl Call.store []

theorem latest?_append (stored : List (CacheKey × Float)) (k k' : CacheKey) (x : Float) :
    latest? (stored ++ [(k, x)]) k' = if k' = k then some x else latest? stored k' := by
  by_cases same : k' = k
  · simp [latest?, same]
  · simp [latest?, same, Ne.symm same]

/-- The entries of a cache are what was stored last, and each key has one. -/
structure Reflects (c : Cache) (stored : List (CacheKey × Float)) : Prop where
  entries : ∀ k, c.find? k = latest? stored k
  keys    : ∀ k, k ∈ c.entries.map Prod.fst ↔ k ∈ stored.map Prod.fst
  once    : (c.entries.map Prod.fst).Nodup

theorem reflects_empty : Reflects empty [] := ⟨fun _ => rfl, fun _ => Iff.rfl, List.nodup_nil⟩

section
variable {c : Cache} {stored : List (CacheKey × Float)}

theorem Reflects.accept (h : Reflects c stored) (k : CacheKey) (x : Option Float) :
    Reflects (c.accept k x) (stored ++ (x.map fun x => (k, x)).toList) := by
  cases x with
  | none => rwa [Option.map_none, Option.toList_none, List.append_nil]
  | some x =>
    refine ⟨fun k' => ?_, fun k' => ?_, Assoc.nodup_set h.once k x⟩
    · rw [find?_accept, Option.map_some, Option.toList_some, latest?_append, ← h.entries k']
      rfl
    · show k' ∈ (Assoc.set k x c.entries).map Prod.fst ↔ _
      rw [Assoc.keys_set, Option.map_some, Option.toList_some, List.map_append, List.mem_append,
        ← h.keys k']
      split
      · next present =>
        refine ⟨.inl, fun new => new.elim id fun own => ?_⟩
        rwa [List.mem_singleton.1 own]
      · exact List.mem_append

/-- Every call keeps a cache in step with what was stored. -/
theorem Reflects.perform (h : Reflects c stored) (call : Call) :
    Reflects (c.perform call).2 (call.store stored) := by
  cases call with
  | clear => exact reflects_empty
  | get k =>
    cases blank : k.firstBlank? with
    | some p => rwa [perform_blank c rfl blank]
    | none => rwa [perform_get c blank]
  | put k x =>
    cases blank : k.firstBlank? with
    | some p =>
      rw [perform_blank c rfl blank, Call.store, blank, if_neg nofun]
      exact h
    | none =>
      rw [perform_put c blank, Call.store, if_pos blank]
      exact h.accept k (some x)
  | update k decide =>
    cases blank : k.firstBlank? with
    | some p =>
      rw [perform_blank c rfl blank, Call.store, blank, if_neg nofun]
      exact h
    | none =>
      rw [perform_update c blank, Call.store, if_pos blank, h.entries k]
      exact h.accept k _

theorem Reflects.run (calls : List Call) :
    ∀ {c : Cache} {stored : List (CacheKey × Float)}, Reflects c stored →
      Reflects (c.run calls) (calls.foldl Call.store stored) := by
  induction calls with
  | nil => exact fun h => h
  | cons call calls ih => exact fun h => ih (h.perform call)

/-- There are as many entries as keys under which anything was stored. -/
theorem Reflects.size (h : Reflects c stored) :
    c.size = (stored.map Prod.fst).toFinset.card := by
  have same : (c.entries.map Prod.fst).toFinset = (stored.map Prod.fst).toFinset := by
    ext k
    rw [List.mem_toFinset, List.mem_toFinset, h.keys k]
  rw [← same, List.toFinset_card_of_nodup h.once, List.length_map]
  rfl

end

/-! ## Exact keys -/

/-- What is to be expected of a cache in which this was stored since it was last cleared. -/
structure Exact (c : Cache) (stored : List (CacheKey × Float)) : Prop where
  /-- Whatever else is asked, and whatever an update would decide. -/
  refuses : ∀ (call : Call) (k : CacheKey) (p : KeyPart), call.key? = some k →
    k.firstBlank? = some p → c.perform call = (.error (.blankKey p), c)
  puts : ∀ (k : CacheKey) (x : Float), k.firstBlank? = none → (c.perform (.put k x)).1 = .ok ()
  gets : ∀ k : CacheKey, k.firstBlank? = none →
    c.perform (.get k) = (.ok (latest? stored k), c)
  updates : ∀ (α : Type) (k : CacheKey) (decide : Option Float → Option Float × α),
    k.firstBlank? = none →
      (c.perform (.update k decide)).1 = .ok (decide (latest? stored k)).2 ∧
      ((decide (latest? stored k)).1 = none → (c.perform (.update k decide)).2 = c)
  size : c.size = (stored.map Prod.fst).toFinset.card
  /-- Keys that differ in any part have nothing to do with each other. -/
  apart : ∀ (call : Call) (k k' : CacheKey), call.key? = some k → k' ≠ k →
    (c.perform call).2.get k' = c.get k'

theorem get_congr {c c' : Cache} {k : CacheKey} (same : c'.find? k = c.find? k) :
    c'.get k = c.get k := by
  cases blank : k.firstBlank? with
  | some p =>
    simp only [get, CacheKey.check_blank blank]
    rfl
  | none => rw [get_named c' blank, get_named c blank, same]

/-- A call about one key leaves the entries of all others as they are. -/
theorem find?_perform (c : Cache) {call : Call} {k k' : CacheKey} (about : call.key? = some k)
    (other : k' ≠ k) : (c.perform call).2.find? k' = c.find? k' := by
  cases blank : k.firstBlank? with
  | some p => rw [perform_blank c about blank]
  | none =>
    cases call with
    | put k x =>
      cases about
      rw [perform_put c blank, find?_accept, if_neg other]
    | get k =>
      cases about
      rw [perform_get c blank]
    | update k decide =>
      cases about
      rw [perform_update c blank, find?_accept, if_neg other]
    | clear => cases about

theorem Reflects.exact {c : Cache} {stored : List (CacheKey × Float)} (h : Reflects c stored) :
    Exact c stored where
  refuses _ _ _ about blank := perform_blank c about blank
  puts k x named := by rw [perform_put c named]
  gets k named := by rw [perform_get c named, h.entries]
  updates α k decide named := by
    rw [perform_update c named, h.entries]
    refine ⟨rfl, fun nothing => ?_⟩
    rw [nothing]
    rfl
  size := h.size
  apart _ _ _ about other := get_congr (find?_perform c about other)

/-- **A map on exact keys.** After any calls an entry is the value stored last under exactly its
key since the last clear, that is what a call about the key answers with or decides on, and there
are as many entries as keys that were stored. A key with a blank part is refused, by the name of
the first of them, and nothing changes. -/
theorem run_maps (calls : List Call) : Exact (empty.run calls) (since calls) :=
  (reflects_empty.run calls).exact

/-- Keys may be spelled alike from end to end. -/
example : (empty.run [.put ⟨"ab", "c", "t"⟩ 1, .put ⟨"a", "bc", "t"⟩ 2]).size = 2 := by
  decide +kernel

end Cache
end DeviceLink
