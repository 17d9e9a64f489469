import DeviceLink.Assoc
import DeviceLink.Json.Basic
import Mathlib.Data.List.Dedup
/-!
# Members of objects

Members are put into an object one after the other. In the end each key stands in it once, in
ascending order (`ascending_sortMembers`), and has the value that came last
(`lookup_sortMembers`). So there are as many members as there are different keys
(`length_sortMembers`), and a list loses nothing on its way into an object just if no key has two
values (`lookup_sortMembers_own`).
-/
namespace DeviceLink.Json

/-- The value of a member. -/
def member? (key : String) : Json → Option Json
  | .object members => members.lookup key
  | _ => none

/-- Each key stands before all greater ones. -/
def Ascending (members : List (String × Json)) : Prop :=
  members.Pairwise fun m n => m.1 < n.1

/-! ## One member more -/

theorem lookup_setMember (key k : String) (value : Json) (members : List (String × Json)) :
    (setMember key value members).lookup k = if k = key then some value else members.lookup k := by
  induction members with
  | nil => rw [setMember, Assoc.lookup_entry]
  | cons m members ih =>
    obtain ⟨k', v⟩ := m
    unfold setMember
    by_cases same : key = k'
    · subst same
      rw [if_pos rfl, Assoc.lookup_entry, Assoc.lookup_entry]
      by_cases asked : k = key
      · rw [if_pos asked, if_pos asked]
      · rw [if_neg asked, if_neg asked, if_neg asked]
    · rw [if_neg same]
      by_cases before : key < k'
      · rw [if_pos before, Assoc.lookup_entry]
      · rw [if_neg before, Assoc.lookup_entry, Assoc.lookup_entry, ih]
        by_cases asked : k = k'
        · have other : ¬ k = key := fun h => same (h.symm.trans asked)
          rw [if_pos asked, if_neg other, if_pos asked]
        · rw [if_neg asked, if_neg asked]

theorem mem_of_mem_setMember {key : String} {value : Json} {m : String × Json}
    {members : List (String × Json)} (h : m ∈ setMember key value members) :
    m = (key, value) ∨ m ∈ members := by
  induction members with
  | nil => exact .inl (List.mem_singleton.1 h)
  | cons n members ih =>
    obtain ⟨k, v⟩ := n
    unfold setMember at h
    by_cases same : key = k
    · rw [if_pos same] at h
      rcases List.mem_cons.1 h with rfl | later
      · exact .inl rfl
      · exact .inr (List.mem_cons_of_mem _ later)
    · rw [if_neg same] at h
      by_cases before : key < k
      · rw [if_pos before] at h
        exact List.mem_cons.1 h
      · rw [if_neg before] at h
        rcases List.mem_cons.1 h with rfl | later
        · exact .inr List.mem_cons_self
        · rcases ih later with rfl | old
          · exact .inl rfl
          · exact .inr (List.mem_cons_of_mem _ old)

theorem ascending_setMember (key : String) (value : Json) {members : List (String × Json)}
    (h : Ascending members) : Ascending (setMember key value members) := by
  induction members with
  | nil => exact List.pairwise_singleton _ _
  | cons m members ih =>
    obtain ⟨k, v⟩ := m
    obtain ⟨least, rest⟩ := List.pairwise_cons.1 h
    unfold setMember
    by_cases same : key = k
    · subst same
      rw [if_pos rfl]
      exact List.pairwise_cons.2 ⟨least, rest⟩
    · rw [if_neg same]
      by_cases before : key < k
      · rw [if_pos before]
        refine List.pairwise_cons.2 ⟨fun n hn => ?_, h⟩
        rcases List.mem_cons.1 hn with rfl | later
        · exact before
        · exact String.lt_trans before (least n later)
      · rw [if_neg before]
        have after : k < key :=
          Decidable.not_not.1 fun h =>
            same (String.le_antisymm (String.not_lt.1 h) (String.not_lt.1 before))
        refine List.pairwise_cons.2 ⟨fun n hn => ?_, ih rest⟩
        rcases mem_of_mem_setMember hn with rfl | old
        · exact after
        · exact least n old

theorem setMember_perm {key : String} {value : Json} {members : List (String × Json)}
    (fresh : key ∉ members.map Prod.fst) :
    (setMember key value members).Perm ((key, value) :: members) := by
  induction members with
  | nil => exact .refl _
  | cons m members ih =>
    obtain ⟨k, v⟩ := m
    rw [List.map_cons, List.mem_cons, not_or] at fresh
    obtain ⟨other, fresh⟩ := fresh
    rw [setMember, if_neg other]
    by_cases before : key < k
    · rw [if_pos before]
    · rw [if_neg before]
      exact ((ih fresh).cons (k, v)).trans (.swap _ _ _)

/-! ## All members -/

/-- The members from the last to the first: what comes later stands in the way of what came
before. -/
theorem sortMembers_eq (members : List (String × Json)) :
    sortMembers members = members.reverse.foldr (fun m acc => setMember m.1 m.2 acc) [] :=
  List.foldl_eq_foldr_reverse

theorem ascending_sortMembers (members : List (String × Json)) :
    Ascending (sortMembers members) := by
  rw [sortMembers_eq]
  induction members.reverse with
  | nil => exact List.Pairwise.nil
  | cons m earlier ih => exact ascending_setMember m.1 m.2 ih

/-- Of the values of a key the last one counts. -/
theorem lookup_sortMembers (members : List (String × Json)) (key : String) :
    (sortMembers members).lookup key = members.reverse.lookup key := by
  rw [sortMembers_eq]
  induction members.reverse with
  | nil => rfl
  | cons m earlier ih => rw [List.foldr_cons, lookup_setMember, ih, Assoc.lookup_entry]

theorem nodup_keys_sortMembers (members : List (String × Json)) :
    ((sortMembers members).map Prod.fst).Nodup := by
  refine List.pairwise_map.2 ((ascending_sortMembers members).imp fun {m n} before same => ?_)
  rw [same] at before
  exact String.lt_irrefl n.1 before

theorem mem_keys_iff (members : List (String × Json)) (key : String) :
    key ∈ members.map Prod.fst ↔ (members.lookup key).isSome = true := by
  rw [List.lookup_isSome_iff, List.mem_map]
  constructor
  · rintro ⟨m, hm, rfl⟩
    exact ⟨m, hm, beq_self_eq_true m.1⟩
  · rintro ⟨m, hm, same⟩
    exact ⟨m, hm, (eq_of_beq same).symm⟩

theorem mem_keys_sortMembers_iff (members : List (String × Json)) (key : String) :
    key ∈ (sortMembers members).map Prod.fst ↔ key ∈ members.map Prod.fst := by
  rw [mem_keys_iff, lookup_sortMembers, ← mem_keys_iff, List.map_reverse, List.mem_reverse]

theorem sortMembers_ne_nil {members : List (String × Json)} (something : members ≠ []) :
    sortMembers members ≠ [] := by
  intro nothing
  obtain ⟨m, hm⟩ := List.exists_mem_of_ne_nil members something
  have key : m.1 ∈ (sortMembers members).map Prod.fst :=
    (mem_keys_sortMembers_iff members m.1).2 (List.mem_map_of_mem hm)
  rw [nothing] at key
  cases key

/-- There are as many members as there are different keys. -/
theorem length_sortMembers (members : List (String × Json)) :
    (sortMembers members).length = (members.map Prod.fst).dedup.length := by
  have same : ((sortMembers members).map Prod.fst).Perm (members.map Prod.fst).dedup := by
    refine (List.perm_ext_iff_of_nodup (nodup_keys_sortMembers members)
      (List.nodup_dedup _)).2 fun key => ?_
    rw [List.mem_dedup, mem_keys_sortMembers_iff]
  rw [← same.length_eq, List.length_map]

theorem length_sortMembers_iff (members : List (String × Json)) :
    (sortMembers members).length = members.length ↔ (members.map Prod.fst).Nodup := by
  have keys : members.length = (members.map Prod.fst).length := (List.length_map Prod.fst).symm
  rw [length_sortMembers, ← List.dedup_eq_self, keys]
  constructor
  · exact (List.dedup_sublist _).eq_of_length
  · intro h
    rw [h]

/-- If no key repeats, the members are put into another order and nothing else. -/
theorem sortMembers_perm {members : List (String × Json)}
    (nodup : (members.map Prod.fst).Nodup) : (sortMembers members).Perm members := by
  have put : ∀ earlier : List (String × Json), (earlier.map Prod.fst).Nodup →
      (earlier.foldr (fun m acc => setMember m.1 m.2 acc) []).Perm earlier := by
    intro earlier
    induction earlier with
    | nil => exact fun _ => .nil
    | cons m earlier ih =>
      intro nodup
      obtain ⟨fresh, nodup⟩ := List.nodup_cons.1 nodup
      have unset := fun h => fresh (((ih nodup).map Prod.fst).mem_iff.1 h)
      exact (setMember_perm unset).trans ((ih nodup).cons m)
  rw [sortMembers_eq]
  refine (put members.reverse ?_).trans members.reverse_perm
  rw [List.map_reverse, List.nodup_reverse]
  exact nodup

/-- Every value is found under its key just if no key has two values. -/
theorem lookup_sortMembers_own (members : List (String × Json)) :
    (∀ m ∈ members, (sortMembers members).lookup m.1 = some m.2) ↔
      ∀ m ∈ members, ∀ n ∈ members, m.1 = n.1 → m.2 = n.2 := by
  constructor
  · intro own m hm n hn same
    have h := (own m hm).symm.trans (same ▸ own n hn)
    exact Option.some.inj h
  · intro agree m hm
    have found : m.1 ∈ (sortMembers members).map Prod.fst :=
      (mem_keys_sortMembers_iff members m.1).2 (List.mem_map_of_mem hm)
    obtain ⟨v, hv⟩ := Option.isSome_iff_exists.1 ((mem_keys_iff _ _).1 found)
    rw [hv]
    rw [lookup_sortMembers] at hv
    obtain ⟨later, earlier, split, -⟩ := List.lookup_eq_some_iff.1 hv
    have listed : (m.1, v) ∈ members := by
      rw [← List.mem_reverse, split]
      exact List.mem_append_right later List.mem_cons_self
    rw [agree m hm _ listed rfl]

end DeviceLink.Json
