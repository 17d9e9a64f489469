import DeviceLink.Assoc
import DeviceLink.Json.Structure
import Mathlib.Data.List.Perm.Basic
/-!
# Members of a structure

A field of a structure is read from the one member with its key (`Reads`). So neither the order of
the members nor a member more with another key can be seen (`single_perm`, `single_insert`), and a
value that is replaced by another is seen under its own key only (`single_replace`). Whether a tree
can be kept is a question to each of its parts (`keep_object_isSome_iff`).
-/
namespace DeviceLink.Source

variable {α : Type} {ms ms' : List (String × Source)} {key k : String} {v v' : Source}

/-! ## The value of a key -/

theorem single_perm (h : ms.Perm ms') (key : String) : single ms key = single ms' key := by
  have found := h.filter fun m => m.1 == key
  unfold single
  generalize ms.filter (fun m => m.1 == key) = xs at found
  generalize ms'.filter (fun m => m.1 == key) = ys at found
  match xs, ys, found with
  | [], ys, found => rw [found.nil_eq]
  | [x], ys, found => rw [List.singleton_perm.1 found]
  | x :: x' :: xs, [], found => exact absurd found.length_eq (by simp)
  | x :: x' :: xs, [y], found => exact absurd found.length_eq (by simp)
  | x :: x' :: xs, y :: y' :: ys, found => rfl

theorem single_insert (other : k ≠ key) (pre post : List (String × Source)) (v : Source) :
    single (pre ++ (k, v) :: post) key = single (pre ++ post) key := by
  have unseen : ¬ (k == key) = true := fun same => other (eq_of_beq same)
  simp only [single, List.filter_append, List.filter_cons, if_neg unseen]

/-- A key that has another member has no value, whatever is put in the place of this one. -/
theorem single_replace (pre post : List (String × Source)) (k : String) (v v' : Source) :
    (single (pre ++ (k, v) :: post) k = none ∧ single (pre ++ (k, v') :: post) k = none) ∨
      (single (pre ++ (k, v) :: post) k = some (some v) ∧
        single (pre ++ (k, v') :: post) k = some (some v')) := by
  simp only [single, List.filter_append, List.filter_cons, beq_self_eq_true, if_true]
  generalize pre.filter (fun m => m.1 == k) = xs, post.filter (fun m => m.1 == k) = ys
  match xs, ys with
  | [], [] => exact .inr ⟨rfl, rfl⟩
  | [], y :: ys => exact .inl ⟨rfl, rfl⟩
  | [x], ys => exact .inl ⟨rfl, rfl⟩
  | x :: x' :: xs, ys => exact .inl ⟨rfl, rfl⟩

/-- Members that are not looked for may be left out. -/
theorem single_filter {p : String → Bool} (kept : p key = true) (ms : List (String × Source)) :
    single (ms.filter fun m => p m.1) key = single ms key := by
  have same : (ms.filter fun m => p m.1).filter (fun m => m.1 == key) =
      ms.filter fun m => m.1 == key := by
    rw [List.filter_filter]
    refine List.filter_congr fun m _ => ?_
    by_cases asked : m.1 = key
    · rw [asked, kept, Bool.and_true]
    · rw [beq_false_of_ne asked, Bool.false_and]
  rw [single, same, single]

/-- If no key repeats, a key has the value that is found first. -/
theorem single_eq_lookup (nodup : (ms.map Prod.fst).Nodup) (key : String) :
    single ms key = some (ms.lookup key) := by
  induction ms with
  | nil => rfl
  | cons m ms ih =>
    obtain ⟨k, v⟩ := m
    obtain ⟨fresh, nodup⟩ := List.nodup_cons.1 nodup
    rw [Assoc.lookup_entry]
    by_cases asked : key = k
    · subst asked
      have alone : ms.filter (fun m => m.1 == key) = [] := by
        refine List.filter_eq_nil_iff.2 fun m hm same => fresh ?_
        exact List.mem_map.2 ⟨m, hm, eq_of_beq same⟩
      simp only [single, List.filter_cons, beq_self_eq_true, if_true, alone]
    · rw [if_neg asked, ← ih nodup]
      exact single_insert (Ne.symm asked) [] ms v

/-! ## The reading of a field -/

/-- What stands under the key, or that nothing does, is read as `a`. -/
def Reads (ms : List (String × Source)) (key : String) (read : Option Source → Option α) (a : α) :
    Prop :=
  ∃ slot, single ms key = some slot ∧ read slot = some a

/-- A field that is optional is read if its value is. Null is the absence of a value, so the reader
of the value must not take it for one. -/
theorem optional_eq_some {read : Source → Option α} (null : read .null = none) {s : Source} {a : α}
    (value : read s = some a) : optional read (some s) = some (some a) := by
  have some : s ≠ .null := by
    rintro rfl
    rw [null] at value
    cases value
  rw [optional, value]
  · rfl
  · exact some

/-! ## One member more or another value -/

/-- Under every key stands what stood there, or something else that is no different to `R`. -/
def Alters (keys : List String) (R : String → Source → Source → Prop)
    (ms ms' : List (String × Source)) : Prop :=
  ∀ key ∈ keys, single ms' key = single ms key ∨
    ∃ v v', R key v v' ∧ single ms key = some (some v) ∧ single ms' key = some (some v')

variable {keys : List String} {R : String → Source → Source → Prop}

theorem Alters.of_perm (h : ms.Perm ms') : Alters keys R ms ms' :=
  fun key _ => .inl (single_perm h key).symm

theorem Alters.of_insert (unknown : k ∉ keys) (pre post : List (String × Source)) (v : Source) :
    Alters keys R (pre ++ post) (pre ++ (k, v) :: post) := by
  intro key known
  have other : k ≠ key := fun same => unknown (same ▸ known)
  exact .inl (single_insert other pre post v)

theorem Alters.of_replace (h : R k v v') (pre post : List (String × Source)) :
    Alters keys R (pre ++ (k, v) :: post) (pre ++ (k, v') :: post) := by
  intro key _
  by_cases same : k = key
  · subst same
    rcases single_replace pre post k v v' with ⟨before, after⟩ | ⟨before, after⟩
    · exact .inl (after.trans before.symm)
    · exact .inr ⟨v, v', h, before, after⟩
  · exact .inl ((single_insert same pre post v').trans (single_insert same pre post v).symm)

theorem Alters.reads_iff {read : Option Source → Option α} (h : Alters keys R ms ms')
    (key : String) (known : key ∈ keys)
    (unseen : ∀ v v', R key v v' → read (some v') = read (some v)) (a : α) :
    Reads ms' key read a ↔ Reads ms key read a := by
  rcases h key known with same | ⟨v, v', changed, before, after⟩
  · rw [Reads, Reads, same]
  · simp only [Reads, before, after, Option.some.injEq, exists_eq_left', unseen v v' changed]

/-! ## What can be kept -/

variable {room : Room}

theorem keepItems_isSome_iff (items : List Source) :
    (keep.keepItems room items).isSome = true ↔ ∀ s ∈ items, (s.keep room).isSome = true := by
  induction items with
  | nil => exact iff_of_true rfl fun s hs => nomatch hs
  | cons s items ih =>
    rw [List.forall_mem_cons, ← ih, keep.keepItems]
    cases s.keep room with
    | none => simp
    | some j => cases keep.keepItems room items <;> simp

theorem keepMembers_isSome_iff (ms : List (String × Source)) :
    (keep.keepMembers room ms).isSome = true ↔ ∀ m ∈ ms, (m.2.keep room).isSome = true := by
  induction ms with
  | nil => exact iff_of_true rfl fun m hm => nomatch hm
  | cons m ms ih =>
    rw [List.forall_mem_cons, ← ih, keep.keepMembers]
    cases m.2.keep room with
    | none => simp
    | some j => cases keep.keepMembers room ms <;> simp

theorem keep_array_isSome_iff (items : List Source) :
    ((Source.array items).keep room).isSome = true ↔
      ∃ inner, room.enter = some inner ∧ ∀ s ∈ items, (s.keep inner).isSome = true := by
  rw [keep]
  cases room.enter with
  | none => simp
  | some inner =>
    simp only [Option.some.injEq, exists_eq_left', ← keepItems_isSome_iff]
    cases h : keep.keepItems inner items <;> simp [h]

theorem keep_object_isSome_iff (ms : List (String × Source)) :
    ((Source.object ms).keep room).isSome = true ↔
      ∃ inner, room.enter = some inner ∧ ∀ m ∈ ms, (m.2.keep inner).isSome = true := by
  rw [keep]
  cases room.enter with
  | none => simp
  | some inner =>
    simp only [Option.some.injEq, exists_eq_left', ← keepMembers_isSome_iff]
    cases h : keep.keepMembers inner ms <;> simp [h]

end DeviceLink.Source
