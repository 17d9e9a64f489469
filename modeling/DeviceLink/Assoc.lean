/-!
# Association lists

Entries in the order in which their keys were first set, each key once. Main statements:
`lookup_set`, `nodup_set`, `set_of_lookup`.
-/
namespace DeviceLink.Assoc

variable {α β : Type} [DecidableEq α]

/-- Replaces the entry of `k`, or adds one at the end. -/
def set (k : α) (x : β) : List (α × β) → List (α × β)
  | [] => [(k, x)]
  | e :: rest => if e.1 = k then (k, x) :: rest else e :: set k x rest

theorem keys_set (k : α) (x : β) (es : List (α × β)) :
    (set k x es).map Prod.fst =
      if k ∈ es.map Prod.fst then es.map Prod.fst else es.map Prod.fst ++ [k] := by
  induction es with
  | nil => rfl
  | cons e es ih =>
    unfold set
    by_cases he : e.1 = k
    · simp [he]
    · rw [if_neg he, List.map_cons, ih]
      by_cases hk : k ∈ es.map Prod.fst <;> simp [hk, Ne.symm he]

/-- Each key stays there once. -/
theorem nodup_set {es : List (α × β)} (once : (es.map Prod.fst).Nodup) (k : α) (x : β) :
    ((set k x es).map Prod.fst).Nodup := by
  rw [keys_set]
  split
  · exact once
  · next new =>
    refine List.nodup_append.2 ⟨once, by simp, ?_⟩
    rintro a ha b hb rfl
    exact new (List.mem_singleton.1 hb ▸ ha)

variable [BEq α] [LawfulBEq α]

theorem lookup_entry (k : α) (e : α × β) (es : List (α × β)) :
    (e :: es).lookup k = if k = e.1 then some e.2 else es.lookup k := by
  obtain ⟨k', x⟩ := e
  by_cases h : k = k'
  · have hb : (k == k') = true := beq_iff_eq.mpr h
    rw [List.lookup_cons, hb, if_pos h]
  · have hb : (k == k') = false := beq_eq_false_iff_ne.mpr h
    rw [List.lookup_cons, hb, if_neg h]

theorem lookup_set (k k' : α) (x : β) (es : List (α × β)) :
    (set k x es).lookup k' = if k' = k then some x else es.lookup k' := by
  induction es with
  | nil => rw [set, lookup_entry]
  | cons e es ih =>
    by_cases he : e.1 = k
    · rw [set, if_pos he, lookup_entry, lookup_entry, he]
      by_cases h : k' = k <;> simp [h]
    · rw [set, if_neg he, lookup_entry, lookup_entry, ih]
      by_cases h : k' = e.1
      · have hk : ¬ k' = k := fun hk => he (h ▸ hk)
        rw [if_pos h, if_neg hk, if_pos h]
      · rw [if_neg h, if_neg h]

/-- What is there already need not be set. -/
theorem set_of_lookup {k : α} {x : β} {es : List (α × β)} (h : es.lookup k = some x) :
    set k x es = es := by
  induction es with
  | nil => cases h
  | cons e es ih =>
    rw [lookup_entry] at h
    by_cases he : k = e.1
    · rw [if_pos he] at h
      cases h
      rw [set, if_pos he.symm, he]
    · rw [if_neg he] at h
      rw [set, if_neg (Ne.symm he), ih h]

/-- A new key makes one entry more. -/
theorem length_set {k : α} {es : List (α × β)} (new : es.lookup k = none) (x : β) :
    (set k x es).length = es.length + 1 := by
  induction es with
  | nil => rfl
  | cons e es ih =>
    rw [lookup_entry] at new
    by_cases he : k = e.1
    · rw [if_pos he] at new
      cases new
    · rw [if_neg he] at new
      rw [set, if_neg (Ne.symm he), List.length_cons, ih new, List.length_cons]

theorem mem_keys_iff (k : α) (es : List (α × β)) :
    k ∈ es.map Prod.fst ↔ (es.lookup k).isSome = true := by
  induction es with
  | nil => simp
  | cons e es ih =>
    rw [List.map_cons, List.mem_cons, lookup_entry, ih]
    by_cases h : k = e.1 <;> simp [h]

end DeviceLink.Assoc
