import DeviceLink.Bench.Stages
import DeviceLink.Host
import DeviceLink.Proofs.Pipeline.Locality
/-!
# The order of stages

Each registration puts its stage at the end and sorts the whole list anew. What this comes to is
said without any sorting (`Ordered`): nothing but what was registered, priorities ascending, and
the stages of one priority in the order of their registration. There is only one such list
(`Ordered.unique`), and a registration keeps to it (`Ordered.register`); so a run of registrations
ends in the list that one stable sort makes of them all, and it matters to nobody in which order
stages of different priorities come (`performAll_ordered`).
-/
namespace DeviceLink

/-- A call that adds a stage. -/
inductive Registration
  | register (s : Stage)
  | withStage (s : ExternalStage) (priority : Int)

/-- The stage that a call adds. -/
def Registration.stage : Registration → Stage
  | .register s => s
  | .withStage s priority => .external s priority

namespace Pipeline

def perform (p : Pipeline) : Registration → Pipeline
  | .register s => p.register s
  | .withStage s priority => p.withStage s priority

def performAll (p : Pipeline) (calls : List Registration) : Pipeline := calls.foldl perform p

/-- The stages of every pipeline, in the order in which they were registered. -/
def builtIns : List Stage := [.linearMapping, .scaleRound, .rangeValidity]

/-- The stages of one priority, as they stand. -/
def ofPriority (k : Int) (stages : List Stage) : List Stage :=
  stages.filter fun s => s.priority = k

/-- What was registered, in the order of priorities, and within a priority in the order of
registration. -/
structure Ordered (registered stages : List Stage) : Prop where
  perm      : stages.Perm registered
  ascending : stages.Pairwise fun a b => a.priority ≤ b.priority
  stable    : ∀ k, ofPriority k stages = ofPriority k registered

def notAfter (a b : Stage) : Bool := decide (a.priority ≤ b.priority)

/-- One stable sort. -/
def sorted (stages : List Stage) : List Stage := stages.mergeSort notAfter

/-! ## One list -/

theorem mem_ofPriority {k : Int} {s : Stage} {stages : List Stage} :
    s ∈ ofPriority k stages ↔ s ∈ stages ∧ s.priority = k := by
  simp [ofPriority]

theorem ofPriority_append (k : Int) (a b : List Stage) :
    ofPriority k (a ++ b) = ofPriority k a ++ ofPriority k b :=
  List.filter_append a b

theorem ofPriority_cons (k : Int) (s : Stage) (stages : List Stage) :
    ofPriority k (s :: stages) =
      if s.priority = k then s :: ofPriority k stages else ofPriority k stages := by
  simp [ofPriority, List.filter_cons]

/-- The head of an ascending list has the least priority of all. -/
theorem head_le {s x : Stage} {stages : List Stage}
    (ascending : (s :: stages).Pairwise fun a b => a.priority ≤ b.priority)
    (mem : x ∈ s :: stages) : s.priority ≤ x.priority := by
  rcases List.mem_cons.1 mem with rfl | mem
  · exact Int.le_refl _
  · exact List.rel_of_pairwise_cons ascending mem

/-- Ascending lists that agree on each priority are the same. -/
theorem eq_of_ofPriority {a : List Stage} :
    ∀ {b : List Stage}, (a.Pairwise fun x y => x.priority ≤ y.priority) →
      (b.Pairwise fun x y => x.priority ≤ y.priority) →
      (∀ k, ofPriority k a = ofPriority k b) → a = b := by
  -- a stage of one list is in the other, since it is there among those of its priority
  have shared : ∀ {a b : List Stage} {s : Stage}, (∀ k, ofPriority k a = ofPriority k b) →
      s ∈ a → s ∈ b := by
    intro a b s same mem
    have there : s ∈ ofPriority s.priority b := same s.priority ▸ mem_ofPriority.2 ⟨mem, rfl⟩
    exact (mem_ofPriority.1 there).1
  induction a with
  | nil =>
    intro b _ _ same
    cases b with
    | nil => rfl
    | cons t b => cases shared (fun k => (same k).symm) List.mem_cons_self
  | cons s a ih =>
    intro b ascending ascending' same
    cases b with
    | nil => cases shared same List.mem_cons_self
    | cons t b =>
      have least : s.priority ≤ t.priority :=
        head_le ascending (shared (fun k => (same k).symm) List.mem_cons_self)
      have least' : t.priority ≤ s.priority := head_le ascending' (shared same List.mem_cons_self)
      have level : t.priority = s.priority := by omega
      have heads := same s.priority
      rw [ofPriority_cons, ofPriority_cons, if_pos rfl, if_pos level] at heads
      obtain ⟨rfl, -⟩ := List.cons_eq_cons.1 heads
      have tails : ∀ k, ofPriority k a = ofPriority k b := by
        intro k
        have here := same k
        rw [ofPriority_cons, ofPriority_cons] at here
        by_cases own : s.priority = k
        · rw [if_pos own, if_pos own] at here
          exact (List.cons_eq_cons.1 here).2
        · rwa [if_neg own, if_neg own] at here
      rw [ih ascending.of_cons ascending'.of_cons tails]

/-- The order is told by what was registered. -/
theorem Ordered.unique {registered a b : List Stage} (ha : Ordered registered a)
    (hb : Ordered registered b) : a = b :=
  eq_of_ofPriority ha.ascending hb.ascending fun k => (ha.stable k).trans (hb.stable k).symm

/-! ## Sorting -/

theorem notAfter_trans (a b c : Stage) (hab : notAfter a b = true) (hbc : notAfter b c = true) :
    notAfter a c = true :=
  decide_eq_true (Int.le_trans (of_decide_eq_true hab) (of_decide_eq_true hbc))

theorem notAfter_total (a b : Stage) : (notAfter a b || notAfter b a) = true := by
  simpa [notAfter] using Int.le_total a.priority b.priority

theorem ascending_sorted (stages : List Stage) :
    (sorted stages).Pairwise fun a b => a.priority ≤ b.priority :=
  (List.pairwise_mergeSort notAfter_trans notAfter_total stages).imp of_decide_eq_true

theorem ofPriority_sorted (k : Int) (stages : List Stage) :
    ofPriority k (sorted stages) = ofPriority k stages := by
  have level : (ofPriority k stages).Pairwise fun a b => notAfter a b = true :=
    List.pairwise_of_forall_mem_list fun a ha b hb => by
      rw [notAfter, (mem_ofPriority.1 ha).2, (mem_ofPriority.1 hb).2]
      exact decide_eq_true (Int.le_refl k)
  have kept : (ofPriority k stages).Sublist (sorted stages) :=
    List.sublist_mergeSort notAfter_trans notAfter_total level List.filter_sublist
  have within : (ofPriority k stages).Sublist (ofPriority k (sorted stages)) := by
    have filtered := kept.filter fun s => decide (s.priority = k)
    simpa only [ofPriority, List.filter_filter, Bool.and_self] using filtered
  have count : (ofPriority k (sorted stages)).length = (ofPriority k stages).length :=
    ((List.mergeSort_perm stages notAfter).filter _).length_eq
  exact (within.eq_of_length count.symm).symm

theorem ordered_sorted (stages : List Stage) : Ordered stages (sorted stages) where
  perm := List.mergeSort_perm stages notAfter
  ascending := ascending_sorted stages
  stable k := ofPriority_sorted k stages

/-! ## Registrations -/

/-- A new stage comes after those of its priority. -/
theorem ofPriority_register (k : Int) (p : Pipeline) (s : Stage) :
    ofPriority k (p.register s).stages = ofPriority k p.stages ++ ofPriority k [s] := by
  rw [← ofPriority_append]
  exact ofPriority_sorted k (p.stages ++ [s])

theorem Ordered.register {registered : List Stage} {p : Pipeline}
    (h : Ordered registered p.stages) (s : Stage) :
    Ordered (registered ++ [s]) (p.register s).stages := by
  have perm : (p.register s).stages.Perm (p.stages ++ [s]) := List.mergeSort_perm _ _
  refine ⟨perm.trans (h.perm.append_right [s]), ascending_sorted _, fun k => ?_⟩
  rw [ofPriority_register, ofPriority_append, h.stable]

theorem perform_eq (p : Pipeline) (call : Registration) :
    p.perform call = p.register call.stage := by
  cases call <;> rfl

theorem Ordered.performAll (calls : List Registration) :
    ∀ {registered : List Stage} {p : Pipeline}, Ordered registered p.stages →
      Ordered (registered ++ calls.map Registration.stage) (p.performAll calls).stages := by
  induction calls with
  | nil =>
    intro registered p h
    rw [List.map_nil, List.append_nil]
    exact h
  | cons call calls ih =>
    intro registered p h
    have next : Ordered (registered ++ [call.stage]) (p.perform call).stages := by
      rw [perform_eq]
      exact h.register call.stage
    rw [List.map_cons, List.append_cons]
    exact ih next

theorem ordered_empty : Ordered [] empty.stages := ⟨.refl _, .nil, fun _ => rfl⟩

theorem ordered_standard : Ordered builtIns standard.stages := by
  have none : Ordered [] empty.stages := ordered_empty
  exact ((none.register .linearMapping).register .scaleRound).register .rangeValidity

/-- Of stages of different priorities it does not matter which one comes first. -/
theorem register_comm (p : Pipeline) {a b : Stage} (different : a.priority ≠ b.priority) :
    (p.register a).register b = (p.register b).register a := by
  have alike : ∀ k, ofPriority k ((p.register a).register b).stages =
      ofPriority k ((p.register b).register a).stages := by
    intro k
    simp only [ofPriority_register, ofPriority_cons]
    by_cases first : a.priority = k
    · have second : b.priority ≠ k := fun second => different (first.trans second.symm)
      simp [first, second, ofPriority]
    · simp [first, ofPriority]
  exact congrArg Pipeline.mk
    (eq_of_ofPriority (ascending_sorted _) (ascending_sorted _) alike)

/-! ## Hosts -/

theorem pipeline_eq_performAll (b : Host.Builder) :
    b.pipeline = standard.performAll (b.stages.map fun s => .withStage s.1 s.2) := by
  rw [performAll, List.foldl_map]
  rfl

/-- The stages of a host: its own come first of their priority. -/
theorem Ordered.own_first {others stages : List Stage} (h : Ordered (builtIns ++ others) stages)
    {own : Stage} (builtIn : own ∈ builtIns) :
    ∃ before after, stages = before ++ own :: after ∧
      (∀ s ∈ before, s.priority < own.priority) ∧
      ∀ s ∈ others, s.priority = own.priority → s ∈ after := by
  have first : ofPriority own.priority builtIns = [own] := by
    simp only [builtIns, List.mem_cons, List.not_mem_nil, or_false] at builtIn
    rcases builtIn with rfl | rfl | rfl <;> rfl
  have level := h.stable own.priority
  rw [ofPriority_append, first, List.singleton_append] at level
  obtain ⟨before, after, rfl, unlike, -, rest⟩ := List.filter_eq_cons_iff.1 level
  refine ⟨before, after, rfl, fun s mem => ?_, fun s mem priority => ?_⟩
  · have le : s.priority ≤ own.priority :=
      (List.pairwise_append.1 h.ascending).2.2 s mem own List.mem_cons_self
    have ne : s.priority ≠ own.priority := by simpa using unlike s mem
    omega
  · have there : s ∈ ofPriority own.priority others := mem_ofPriority.2 ⟨mem, priority⟩
    rw [← rest] at there
    exact (List.mem_filter.1 there).1

/-- **Stages stand in the order of their priorities, and those of one priority in the order in
which they were registered**, after every registration and whatever the pipeline began with. That
tells the list, so it is the one that a single stable sort makes of everything registered; two
stages of different priorities can be registered in either order; and a stage that a host is given
at the priority of one of its own comes after that one. -/
theorem performAll_ordered :
    (∀ calls : List Registration,
      let registered := calls.map Registration.stage
      Ordered registered (empty.performAll calls).stages ∧
        (empty.performAll calls).stages = sorted registered) ∧
    (∀ calls : List Registration,
      let registered := builtIns ++ calls.map Registration.stage
      Ordered registered (standard.performAll calls).stages ∧
        (standard.performAll calls).stages = sorted registered) ∧
    (∀ (registered a b : List Stage), Ordered registered a → Ordered registered b → a = b) ∧
    (∀ (p : Pipeline) (a b : Registration), a.stage.priority ≠ b.stage.priority →
      (p.perform a).perform b = (p.perform b).perform a) ∧
    ∀ (host : Host.Builder) (endpoint : String),
      let stages := (host.build endpoint).pipeline.stages
      let added := host.stages.map fun s => Stage.external s.1 s.2
      Ordered (builtIns ++ added) stages ∧
      ∀ own ∈ builtIns, ∃ before after, stages = before ++ own :: after ∧
        (∀ s ∈ before, s.priority < own.priority) ∧
        ∀ s ∈ added, s.priority = own.priority → s ∈ after := by
  refine ⟨fun calls => ?_, fun calls => ?_, fun registered a b => Ordered.unique, ?_, ?_⟩
  · have ordered := ordered_empty.performAll calls
    exact ⟨ordered, ordered.unique (ordered_sorted _)⟩
  · have ordered := ordered_standard.performAll calls
    exact ⟨ordered, ordered.unique (ordered_sorted _)⟩
  · intro p a b different
    simp only [perform_eq]
    exact register_comm p different
  · intro host endpoint stages added
    have ordered : Ordered (builtIns ++ added) stages := by
      have all := ordered_standard.performAll (host.stages.map fun s => .withStage s.1 s.2)
      rw [← pipeline_eq_performAll, List.map_map] at all
      exact all
    exact ⟨ordered, fun own builtIn => ordered.own_first builtIn⟩

/-! ### Two stages from outside -/

/-- Shifts readings once they are scaled. -/
def shifting : ExternalStage := Bench.StageSpec.stage ⟨"offset", .offset, 100, none, 1⟩

/-- Copies readings before anything is done to them. -/
def copying : ExternalStage := Bench.StageSpec.stage ⟨"splitter", .copy, -10, none, 0⟩

/-- A host with the first of them. -/
def shifted : Host.Builder :=
  (Host.Builder.ofIdentity ⟨"project", "driver", "name", "service"⟩).addStage shifting 100

/-- The stages of a pipeline that got both. -/
def arranged : List Stage :=
  [.external copying (-10), .linearMapping, .scaleRound, .external shifting 100, .rangeValidity]

theorem ordered_arranged :
    Ordered (builtIns ++ [.external shifting 100, .external copying (-10)]) arranged where
  perm := by
    have toEnd : ([.external copying (-10)] ++ [.linearMapping, .scaleRound,
        .external shifting 100, .rangeValidity] : List Stage).Perm
          ([.linearMapping, .scaleRound, .external shifting 100, .rangeValidity] ++
            [.external copying (-10)]) := List.perm_append_comm
    have last : ([.external shifting 100] ++ [.rangeValidity] : List Stage).Perm
        ([.rangeValidity] ++ [.external shifting 100]) := List.perm_append_comm
    exact toEnd.trans ((last.append_left [.linearMapping, .scaleRound]).append_right _)
  ascending := by simp [arranged, Stage.priority]
  stable k := by
    by_cases scaled : Stage.scaleRound.priority = k
    · subst scaled
      rfl
    · by_cases copied : (Stage.external copying (-10)).priority = k
      · subst copied
        rfl
      · have shifted : ¬ (Stage.external shifting 100).priority = k := scaled
        simp only [arranged, builtIns, List.cons_append, List.nil_append, ofPriority_cons,
          if_neg scaled, if_neg copied, if_neg shifted]

theorem performAll_ordered_mixed :
    let first : Registration := .withStage shifting 100
    let second : Registration := .withStage copying (-10)
    first.stage.priority ≠ second.stage.priority ∧
      (standard.perform first).perform second = (standard.perform second).perform first ∧
      (standard.performAll [first, second]).stageNames =
        ["splitter", "linear_mapping", "scale_round", "offset", "range_validity"] ∧
      Stage.scaleRound ∈ builtIns ∧
      ∃ before after, (shifted.build "http://localhost").pipeline.stages =
        before ++ .scaleRound :: after ∧ .external shifting 100 ∈ after := by
  intro first second
  obtain ⟨-, registers, unique, commute, hosts⟩ := performAll_ordered
  have different : first.stage.priority ≠ second.stage.priority := by decide
  have stages : (standard.performAll [first, second]).stages = arranged :=
    unique _ _ _ (registers [first, second]).1 ordered_arranged
  have own : Stage.scaleRound ∈ builtIns := .tail _ (.head _)
  obtain ⟨before, after, split, -, later⟩ := (hosts shifted "http://localhost").2 _ own
  refine ⟨different, commute standard first second different, ?_, own, before, after, split,
    later _ (.head _) rfl⟩
  rw [stageNames, stages]
  rfl

end Pipeline
end DeviceLink
