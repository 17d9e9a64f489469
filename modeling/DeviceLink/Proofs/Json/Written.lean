import DeviceLink.Proofs.Json.Members
import DeviceLink.Proofs.Json.Structure
import Mathlib.Data.Option.Defs
/-!
# Values written down

A value may be written down as it stands, or be kept as a tree first, whose members are in
ascending order. What is the same in both is said by `Writing`, and is all that a reader of
structures needs: scalars and lists are there as they were, and so is what stands under a key
(`Writing.members`). Both are ways to write values down (`writing_written`, `writing_kept`).
-/
namespace DeviceLink

open Source (Reads required optional orElse)

/-- The same key, with the value written down. -/
def Member (W : Json → Source → Prop) (m : String × Json) (n : String × Source) : Prop :=
  m.1 = n.1 ∧ W m.2 n.2

/-- A way to write values down. Members of an object whose keys do not repeat may come in any
order. -/
structure Writing (W : Json → Source → Prop) : Prop where
  null {s : Source} : W .null s → s = .null
  bool {b : Bool} {s : Source} : W (.bool b) s → s = .bool b
  number {n : Number} {s : Source} : W (.number n) s → s = .number n
  string {t : String} {s : Source} : W (.string t) s → s = .string t
  array {js : List Json} {s : Source} :
    W (.array js) s → ∃ ss, s = .array ss ∧ List.Forall₂ W js ss
  object {ms : List (String × Json)} {s : Source} : W (.object ms) s → (ms.map Prod.fst).Nodup →
    ∃ ns ns', s = .object ns ∧ ns.Perm ns' ∧ List.Forall₂ (Member W) ms ns'

/-! ## Members that are written down -/

def Json.members : Json → List (String × Json)
  | .object ms => ms
  | _ => []

/-- Under every key of an object stands what stood under it, and nothing else stands in it. -/
structure Shows (W : Json → Source → Prop) (ms : List (String × Json))
    (ns : List (String × Source)) : Prop where
  value (key : String) :
    ∃ slot, Source.single ns key = some slot ∧ Option.Rel W (ms.lookup key) slot
  only {n : String × Source} : n ∈ ns → ∃ m ∈ ms, Member W m n

variable {W : Json → Source → Prop} {ms : List (String × Json)} {ns : List (String × Source)}

theorem keys_eq (h : List.Forall₂ (Member W) ms ns) : ms.map Prod.fst = ns.map Prod.fst := by
  induction h with
  | nil => rfl
  | cons member _ ih => rw [List.map_cons, List.map_cons, ih, member.1]

theorem lookup_rel (h : List.Forall₂ (Member W) ms ns) (key : String) :
    Option.Rel W (ms.lookup key) (ns.lookup key) := by
  induction h with
  | nil => exact .none
  | @cons m n ms ns member _ ih =>
    rw [Assoc.lookup_entry, Assoc.lookup_entry, ← member.1]
    by_cases asked : key = m.1
    · rw [if_pos asked, if_pos asked]
      exact .some member.2
    · rw [if_neg asked, if_neg asked]
      exact ih

theorem mem_of_forall₂ (h : List.Forall₂ (Member W) ms ns) {n : String × Source} (hn : n ∈ ns) :
    ∃ m ∈ ms, Member W m n := by
  induction h with
  | nil => cases hn
  | cons member _ ih =>
    rcases List.mem_cons.1 hn with rfl | later
    · exact ⟨_, List.mem_cons_self, member⟩
    · obtain ⟨m, hm, found⟩ := ih later
      exact ⟨m, List.mem_cons_of_mem _ hm, found⟩

theorem Writing.members (h : Writing W) {s : Source} (written : W (.object ms) s)
    (nodup : (ms.map Prod.fst).Nodup) : ∃ ns, s = .object ns ∧ Shows W ms ns := by
  obtain ⟨ns, ns', rfl, order, each⟩ := h.object written nodup
  refine ⟨ns, rfl, fun key => ⟨ns'.lookup key, ?_, lookup_rel each key⟩, fun hn => ?_⟩
  · rw [Source.single_perm order, Source.single_eq_lookup (keys_eq each ▸ nodup)]
  · exact mem_of_forall₂ each (order.mem_iff.1 hn)

/-! ## Fields that are written down -/

section fields

variable {α : Type} {key : String} {read : Source → Option α}

/-- A field that is always written is read if its value is. -/
theorem Shows.required (h : Shows W ms ns) {j : Json} {a : α} (found : ms.lookup key = some j)
    (value : ∀ s, W j s → read s = some a) : Reads ns key (required read) a := by
  obtain ⟨slot, only, rel⟩ := h.value key
  rw [found] at rel
  cases rel with
  | some written => exact ⟨_, only, value _ written⟩

theorem Shows.orElse (h : Shows W ms ns) {j : Json} {a : α} (default : α)
    (found : ms.lookup key = some j) (value : ∀ s, W j s → read s = some a) :
    Reads ns key (orElse read default) a := by
  obtain ⟨slot, only, rel⟩ := h.value key
  rw [found] at rel
  cases rel with
  | some written => exact ⟨_, only, value _ written⟩

/-- A field that is left out if it is absent. -/
theorem Shows.optional (h : Shows W ms ns) {write : α → Json} {o : Option α}
    (found : ms.lookup key = o.map write) (null : read .null = none)
    (value : ∀ a ∈ o, ∀ s, W (write a) s → read s = some a) : Reads ns key (optional read) o := by
  obtain ⟨slot, only, rel⟩ := h.value key
  rw [found] at rel
  cases o with
  | none =>
    cases rel with
    | none => exact ⟨none, only, rfl⟩
  | some a =>
    cases rel with
    | some written =>
      exact ⟨_, only, Source.optional_eq_some null (value a (Option.mem_some_self a) _ written)⟩

/-- A field that is null if it is absent. -/
theorem Shows.orNull (h : Shows W ms ns) (hW : Writing W) {write : α → Json} {o : Option α}
    (found : ms.lookup key = some (.orNull write o)) (null : read .null = none)
    (value : ∀ a ∈ o, ∀ s, W (write a) s → read s = some a) :
    Reads ns key (Source.optional read) o := by
  obtain ⟨slot, only, rel⟩ := h.value key
  rw [found] at rel
  cases rel with
  | some written =>
    cases o with
    | none => exact ⟨_, only, by rw [hW.null written]; rfl⟩
    | some a =>
      exact ⟨_, only, Source.optional_eq_some null (value a (Option.mem_some_self a) _ written)⟩

/-- A field that is left out because it has the value that a reader puts in. -/
theorem Shows.absent (h : Shows W ms ns) (left : ms.lookup key = none) (a : α) :
    Reads ns key (Source.orElse read a) a := by
  obtain ⟨slot, only, rel⟩ := h.value key
  rw [left] at rel
  cases rel with
  | none => exact ⟨none, only, rfl⟩

theorem Writing.list (h : Writing W) {write : α → Json} {as : List α} {s : Source}
    (written : W (.array (as.map write)) s)
    (value : ∀ a ∈ as, ∀ s, W (write a) s → read s = some a) : s.list read = some as := by
  obtain ⟨ss, rfl, each⟩ := h.array written
  clear written
  show ss.mapM read = some as
  induction as generalizing ss with
  | nil => cases each with
    | nil => rfl
  | cons a as ih =>
    cases each with
    | cons first rest =>
      obtain ⟨head, tail⟩ := List.forall_mem_cons.1 value
      rw [List.mapM_cons, head _ first, ih tail _ rest]
      rfl

end fields

/-! ## As they stand -/

namespace Json

def AsWritten (j : Json) (s : Source) : Prop := s = j.written

theorem writtenItems_eq (js : List Json) : written.writtenItems js = js.map written := by
  induction js with
  | nil => rfl
  | cons j js ih => rw [written.writtenItems, ih, List.map_cons]

theorem writtenMembers_eq (ms : List (String × Json)) :
    written.writtenMembers ms = ms.map fun m => (m.1, m.2.written) := by
  induction ms with
  | nil => rfl
  | cons m ms ih => rw [written.writtenMembers, ih, List.map_cons]

theorem writtenItems_each (js : List Json) :
    List.Forall₂ AsWritten js (written.writtenItems js) := by
  rw [writtenItems_eq, List.forall₂_map_right_iff, List.forall₂_same]
  exact fun j _ => rfl

theorem writtenMembers_each (ms : List (String × Json)) :
    List.Forall₂ (Member AsWritten) ms (written.writtenMembers ms) := by
  rw [writtenMembers_eq, List.forall₂_map_right_iff, List.forall₂_same]
  exact fun m _ => ⟨rfl, rfl⟩

theorem writing_written : Writing AsWritten where
  null h := h
  bool h := h
  number h := h
  string h := h
  array h := ⟨_, h, writtenItems_each _⟩
  object h _ := ⟨_, _, h, .refl _, writtenMembers_each _⟩

/-! ## As a tree that is kept -/

def AsKept (j : Json) (s : Source) : Prop := ∃ k, j.written.keep none = some k ∧ s = k.written

theorem keepItems_each {js ks : List Json}
    (h : Source.keep.keepItems none (written.writtenItems js) = some ks) :
    List.Forall₂ AsKept js (written.writtenItems ks) := by
  induction js generalizing ks with
  | nil =>
    cases h
    exact .nil
  | cons j js ih =>
    simp only [written.writtenItems, Source.keep.keepItems, Option.bind_eq_bind, Option.pure_def,
      Option.bind_eq_some_iff, Option.some.injEq] at h
    obtain ⟨k, first, ks, rest, rfl⟩ := h
    exact .cons ⟨k, first, rfl⟩ (ih rest)

theorem keepMembers_each {ms ks : List (String × Json)}
    (h : Source.keep.keepMembers none (written.writtenMembers ms) = some ks) :
    List.Forall₂ (Member AsKept) ms (written.writtenMembers ks) := by
  induction ms generalizing ks with
  | nil =>
    cases h
    exact .nil
  | cons m ms ih =>
    simp only [written.writtenMembers, Source.keep.keepMembers, Option.bind_eq_bind,
      Option.pure_def, Option.bind_eq_some_iff, Option.some.injEq] at h
    obtain ⟨k, first, ks, rest, rfl⟩ := h
    exact .cons ⟨rfl, k, first, rfl⟩ (ih rest)

theorem writing_kept : Writing AsKept where
  null h := by
    obtain ⟨k, kept, rfl⟩ := h
    cases kept
    rfl
  bool h := by
    obtain ⟨k, kept, rfl⟩ := h
    cases kept
    rfl
  number {n s} h := by
    obtain ⟨k, kept, rfl⟩ := h
    cases n with
    | int n =>
      cases kept
      rfl
    | real x =>
      obtain ⟨-, same⟩ := Option.ite_none_right_eq_some.1 kept
      cases same
      rfl
  string h := by
    obtain ⟨k, kept, rfl⟩ := h
    cases kept
    rfl
  array {js s} h := by
    obtain ⟨k, kept, rfl⟩ := h
    simp only [written, Source.keep, Room.enter, Option.bind_eq_bind, Option.bind_some,
      Option.pure_def, Option.bind_eq_some_iff, Option.some.injEq] at kept
    obtain ⟨ks, items, rfl⟩ := kept
    exact ⟨_, rfl, keepItems_each items⟩
  object {ms s} h nodup := by
    obtain ⟨k, kept, rfl⟩ := h
    simp only [written, Source.keep, Room.enter, Option.bind_eq_bind, Option.bind_some,
      Option.pure_def, Option.bind_eq_some_iff, Option.some.injEq] at kept
    obtain ⟨ks, members, rfl⟩ := kept
    have each := keepMembers_each members
    have keys : ks.map Prod.fst = ms.map Prod.fst := by
      rw [keys_eq each, writtenMembers_eq, List.map_map]
      rfl
    refine ⟨_, _, rfl, ?_, each⟩
    rw [writtenMembers_eq, writtenMembers_eq]
    exact (sortMembers_perm (keys ▸ nodup)).map _

/-! ### Whether there is one -/

/-- There is a tree of the value. -/
def Keepable (j : Json) : Prop := (j.written.keep none).isSome = true

theorem keepable_array {js : List Json} (each : ∀ j ∈ js, j.Keepable) : (array js).Keepable := by
  refine (Source.keep_array_isSome_iff _).2 ⟨none, rfl, ?_⟩
  rw [writtenItems_eq]
  exact List.forall_mem_map.2 each

theorem keepable_object {ms : List (String × Json)} (each : ∀ m ∈ ms, m.2.Keepable) :
    (object ms).Keepable := by
  refine (Source.keep_object_isSome_iff _).2 ⟨none, rfl, ?_⟩
  rw [writtenMembers_eq]
  exact List.forall_mem_map.2 each

theorem keepable_ofFloat {x : Float} (finite : Number.isFinite x = true) :
    (ofFloat x).Keepable := by
  rw [Keepable, ofFloat, written, Source.keep, if_pos finite]
  rfl

end Json
end DeviceLink
