import DeviceLink.Proofs.Gateway.Effects
import DeviceLink.Proofs.Json.Members
import DeviceLink.Proofs.Pipeline.Origins
import Mathlib.Data.List.Nodup
/-!
# What the report of a sample counts

The report counts the processed fields; the message holds them by id. So of fields with one id
only the last is transmitted, and the report counts all of them: the two agree exactly if no id
comes twice (`Counted`, `writeSample_counted`, `repeated_counted_twice`). The stages that come with
every pipeline send a tag under its own id and under that of its two markers, and two markers are
never the same; there the report is right unless a tag comes twice or is called like the marker of
another (`Apart`, `nodup_ids`).
-/
namespace DeviceLink

/-! ## Ids -/

namespace Range

theorem ids_records (tag : Tag) (r : RangeSpec) (value : Json) (rejector : String) :
    ((records tag r value rejector).map ProcessedField.id).Sublist
      [tag.id ++ conditionSuffix, tag.id ++ invalidSuffix] := by
  unfold records
  by_cases save : r.invalidAction = .save
  · rw [if_pos save]
    by_cases wanted : r.saveInvalidValue = true
    · rw [if_pos wanted]
      exact List.Sublist.refl _
    · rw [if_neg wanted]
      exact (List.nil_sublist _).cons_cons _
  · rw [if_neg save]
    exact List.nil_sublist _

end Range

namespace Pipeline

/-- All ids that a tag can be sent under, other than by stages from outside. -/
def ids (tag : String) : List String :=
  [tag ++ Range.conditionSuffix, tag ++ Range.invalidSuffix, tag]

/-- No tag comes twice, and none is called like a marker of another. -/
structure Apart (tags : List String) : Prop where
  once : tags.Nodup
  noMarker : ∀ a ∈ tags, ∀ b ∈ tags, a ≠ b ++ Range.conditionSuffix ∧ a ≠ b ++ Range.invalidSuffix

/-- A stage that is the last one is asked once at most. -/
theorem consulted_last (place : Place) (tag : Tag) (s : Stage) (value : Json) (cache : Cache) :
    consulted place tag [s] value cache = [] ∨
      consulted place tag [s] value cache = [⟨tag, s, value, cache⟩] := by
  rw [consulted]
  by_cases null : value.isNull = true
  · rw [if_pos null]
    exact .inl rfl
  · rw [if_neg null]
    by_cases applies : s.applies tag value = true
    · rw [if_pos applies]
      dsimp only
      cases primary (s.handle place tag value cache).result with
      | none => exact .inr rfl
      | some next => exact .inr rfl
    · rw [if_neg applies]
      exact .inl rfl

theorem ids_runField (place : Place) (f : Field) (cache : Cache) :
    ((standard.runField place cache f).fields.map ProcessedField.id).Sublist (ids f.tag.id) := by
  rcases runField_standard place f with nothing | ⟨value, rules⟩
  · rw [nothing]
    exact List.nil_sublist _
  · have markers : (((consulted place f.tag [.rangeValidity] value cache).flatMap
        (Consultation.adds place)).map ProcessedField.id).Sublist
          [f.tag.id ++ Range.conditionSuffix, f.tag.id ++ Range.invalidSuffix] := by
      rcases consulted_last place f.tag .rangeValidity value cache with none | once
      · rw [none]
        exact List.nil_sublist _
      · rw [once, List.flatMap_singleton, Consultation.adds]
        rcases Range.extras_handle place f.tag value cache with nothing | ⟨r, rejector, recorded⟩
        · rw [Stage.handle, nothing]
          exact List.nil_sublist _
        · rw [Stage.handle, recorded]
          exact Range.ids_records f.tag r value rejector
    have own : ((((arrived place f.tag [.rangeValidity] value cache).map
        (ProcessedField.mk f.tag.id)).toList).map ProcessedField.id).Sublist [f.tag.id] := by
      cases arrived place f.tag [.rangeValidity] value cache with
      | none => exact List.nil_sublist _
      | some v => exact List.Sublist.refl _
    rw [rules, fields_runStages, List.map_append]
    exact markers.append own

theorem ids_runFields (place : Place) (fields : List Field) :
    ∀ cache, ((standard.runFields place fields cache).fields.map ProcessedField.id).Sublist
      ((fields.map fun f => f.tag.id).flatMap ids) := by
  induction fields with
  | nil =>
    intro cache
    exact List.nil_sublist _
  | cons f fields ih =>
    intro cache
    rw [runFields, List.map_append, List.map_cons, List.flatMap_cons]
    exact (ids_runField place f cache).append (ih _)

/-- All ids of tags that keep apart differ. -/
theorem Apart.nodup {tags : List String} (h : Apart tags) : (tags.flatMap ids).Nodup := by
  rw [List.nodup_flatMap]
  constructor
  · intro a ha
    obtain ⟨condition, invalid⟩ := h.noMarker a ha a ha
    have other : Range.conditionSuffix ≠ Range.invalidSuffix := by decide
    simp [ids, other, condition.symm, invalid.symm]
  · refine h.once.imp_of_mem fun {a b} ha hb other x inA inB => ?_
    obtain ⟨aCondition, aInvalid⟩ := h.noMarker a ha b hb
    obtain ⟨bCondition, bInvalid⟩ := h.noMarker b hb a ha
    simp only [ids, List.mem_cons, List.not_mem_nil, or_false] at inA inB
    rcases inA with rfl | rfl | rfl
    · rcases inB with same | same | same
      · exact other ((String.append_left_inj _).1 same)
      · exact Range.condition_ne_invalid a b same
      · exact bCondition same.symm
    · rcases inB with same | same | same
      · exact Range.condition_ne_invalid b a same.symm
      · exact other ((String.append_left_inj _).1 same)
      · exact bInvalid same.symm
    · rcases inB with same | same | same
      · exact aCondition same
      · exact aInvalid same
      · exact other same

/-- Of tags that keep apart nothing is sent under one id with anything else. -/
theorem nodup_ids {s : Sample} (apart : Apart (s.fields.map fun f => f.tag.id)) (table : String)
    (cache : Cache) :
    ((standard.process table s cache).1.fields.map ProcessedField.id).Nodup :=
  (ids_runFields ⟨table, s.device⟩ s.fields cache).nodup apart.nodup

end Pipeline

/-! ## Reports -/

namespace Gateway

variable {σ : Type}

/-- The value that came last under an id. -/
def latest (fields : List ProcessedField) (id : String) : Option Json :=
  (fields.reverse.find? fun f => f.id = id).map ProcessedField.value

/-- What the numbers of a report have to do with the members that were transmitted, when these
fields were given and those are left. -/
structure Counted (fields : List Field) (left : List ProcessedField) (fieldsIn fieldsOut : Nat)
    (members : List (String × Json)) : Prop where
  given : fieldsIn = fields.length
  processed : fieldsOut = left.length
  keys : (members.map Prod.fst).Nodup
  values : ∀ id, members.lookup id = latest left id
  transmitted : members.length = (left.map ProcessedField.id).dedup.length
  agrees : members.length = fieldsOut ↔ (left.map ProcessedField.id).Nodup
  own : (∀ f ∈ left, members.lookup f.id = some f.value) ↔
    ∀ f ∈ left, ∀ g ∈ left, f.id = g.id → f.value = g.value

theorem lookup_entries (fields : List ProcessedField) (id : String) :
    (fields.map fun f => (f.id, f.value)).lookup id =
      (fields.find? fun f => f.id = id).map ProcessedField.value := by
  induction fields with
  | nil => rfl
  | cons f fields ih =>
    rw [List.map_cons, Assoc.lookup_entry, List.find?_cons]
    by_cases same : f.id = id
    · simp [same]
    · simp [same, ih, Ne.symm same]

theorem counted (fields : List Field) (left : List ProcessedField) :
    Counted fields left fields.length left.length
      (Json.sortMembers (left.map fun f => (f.id, f.value))) := by
  have ids : (left.map fun f => (f.id, f.value)).map Prod.fst = left.map ProcessedField.id := by
    rw [List.map_map]
    rfl
  have length : (left.map fun f => (f.id, f.value)).length = left.length := List.length_map _
  constructor
  case given => rfl
  case processed => rfl
  case keys => exact Json.nodup_keys_sortMembers _
  case values =>
    intro id
    rw [Json.lookup_sortMembers, ← List.map_reverse, lookup_entries]
    rfl
  case transmitted => rw [Json.length_sortMembers, ids]
  case agrees => rw [← length, Json.length_sortMembers_iff, ids]
  case own => simpa using Json.lookup_sortMembers_own (left.map fun f => (f.id, f.value))

theorem fields_pointPayload (s : ProcessedSample) :
    (pointPayload s).member? "fields" =
      some (Json.ofMembers (s.fields.map fun f => (f.id, f.value))) := by
  obtain ⟨table, device, sub, time, fields⟩ := s
  cases sub with
  | none => rfl
  | some sub => rfl

/-- **What a report counts**: the fields that were given, and the processed fields. The message
that was handed over has each id of those once, with the value that came last; so the report tells
how many members it has just if no id comes twice, and every field is in it with its own value just
if no id has two values. With the stages that come with every pipeline this is so for tags that
keep apart. -/
theorem writeSample_counted (send : Sender σ) (state : SessionState) (registry : Registry)
    (pipeline : Pipeline) (cache : Cache) (sent : List Outbound) (p : σ) (sample : Sample)
    {fieldsIn fieldsOut : Nat} {d : Delivery}
    (reported : (writeSample (recording send) state registry pipeline cache (sent, p) sample).1 =
      .ok (.sent fieldsIn fieldsOut d)) :
    ∃ table members, tableOf registry sample = some table ∧
      let processed := (pipeline.process table (prepare registry sample) cache).1
      (writeSample (recording send) state registry pipeline cache (sent, p) sample).2.2.1 =
        sent ++ [.point (encode (pointPayload processed))] ∧
      (pointPayload processed).member? "fields" = some (.object members) ∧
      Counted sample.fields processed.fields fieldsIn fieldsOut members ∧
      (pipeline = .standard →
        Pipeline.Apart ((prepare registry sample).fields.map fun f => f.tag.id) →
        members.length = fieldsOut ∧
          ∀ f ∈ processed.fields, members.lookup f.id = some f.value) := by
  rcases writeSample_cases send state registry pipeline cache sent p sample with
    ⟨-, silent⟩ | ⟨-, table, found, -, handed, d', outcome⟩
  · exact absurd reported (silent fieldsIn fieldsOut d)
  cases outcome.symm.trans reported
  have counts := counted sample.fields
    (pipeline.process table (prepare registry sample) cache).1.fields
  refine ⟨table, _, found, handed, fields_pointPayload _, counts, fun standard apart => ?_⟩
  subst standard
  have nodup := Pipeline.nodup_ids apart table cache
  refine ⟨counts.agrees.2 nodup, counts.own.2 fun f hf g hg same => ?_⟩
  have equal : f = g := List.inj_on_of_nodup_map nodup hf hg same
  rw [equal]

/-! ### A tag that comes twice -/

/-- A platform that says yes to everything. -/
def accepting : Sender Unit := fun _ _ => (.ok .accepted, ())

/-- Two readings of one thermometer. -/
def repeated (first second : Nat) : Sample :=
  ⟨"b-1", none, some "boiler", ⟨0, 0⟩,
    [Field.byId "temp" (.ofNat first), Field.byId "temp" (.ofNat second)], []⟩

theorem fields_repeated (first second : Nat) (table : String) :
    (Pipeline.standard.process table (prepare Registry.empty (repeated first second))
        Cache.empty).1.fields = [⟨"temp", .ofNat first⟩, ⟨"temp", .ofNat second⟩] := by
  rw [Pipeline.standard_eq]
  rfl

theorem tableOf_repeated (first second : Nat) :
    tableOf Registry.empty (repeated first second) = some "boiler" := by
  have named : Text.isBlank "boiler" = false := by decide +kernel
  simp [tableOf, repeated, named]

theorem repeated_sent (first second : Nat) :
    (writeSample (recording accepting) .running Registry.empty .standard Cache.empty ([], ())
      (repeated first second)).1 = .ok (.sent 2 2 .accepted) := by
  have named : Text.isBlank "b-1" = false := by decide +kernel
  have checked : checkSample .running (repeated first second) = .ok () := by
    have required : require "device id" "b-1" = .ok () := by
      rw [require, if_neg (Bool.eq_false_iff.1 named)]
    rw [checkSample, show (repeated first second).device = "b-1" from rfl, required]
    rfl
  simp only [writeSample, checked, planSample, tableOf_repeated, fields_repeated]
  rfl

/-- The second reading takes the place of the first one, and the report counts both. -/
theorem writeSample_counted_repeated :
    let call := writeSample (recording accepting) .running Registry.empty .standard Cache.empty
      ([], ()) (repeated 21 22)
    call.1 = .ok (.sent 2 2 .accepted) ∧
      ∃ payload members, call.2.2.1 = [.point (encode payload)] ∧
        payload.member? "fields" = some (.object members) ∧ members.length = 1 ∧
        members.lookup "temp" = some (.ofNat 22) := by
  intro call
  obtain ⟨table, members, -, handed, inside, counts, -⟩ :=
    writeSample_counted accepting .running Registry.empty .standard Cache.empty [] ()
      (repeated 21 22) (repeated_sent 21 22)
  refine ⟨repeated_sent 21 22, _, members, handed, inside, ?_, ?_⟩
  · rw [counts.transmitted, fields_repeated]
    decide
  · rw [counts.values, fields_repeated]
    rfl

/-- The report does not tell how many members there are. -/
theorem repeated_counted_twice :
    ¬ ∀ (registry : Registry) (pipeline : Pipeline) (cache : Cache) (sample : Sample)
        (fieldsIn fieldsOut : Nat) (d : Delivery) (table : String)
        (members : List (String × Json)),
      let processed := (pipeline.process table (prepare registry sample) cache).1
      (writeSample (recording accepting) .running registry pipeline cache ([], ()) sample).1 =
          .ok (.sent fieldsIn fieldsOut d) →
        tableOf registry sample = some table →
        (pointPayload processed).member? "fields" = some (.object members) →
        members.length = fieldsOut ∧
          ∀ f ∈ processed.fields, members.lookup f.id = some f.value := by
  intro claim
  have inside : (pointPayload (Pipeline.standard.process "boiler"
      (prepare Registry.empty (repeated 21 21)) Cache.empty).1).member? "fields" =
        some (.object [("temp", .ofNat 21)]) := by
    rw [fields_pointPayload, fields_repeated]
    rfl
  obtain ⟨counted, -⟩ := claim Registry.empty .standard Cache.empty (repeated 21 21) 2 2 .accepted
    "boiler" [("temp", .ofNat 21)] (repeated_sent 21 21) (tableOf_repeated 21 21) inside
  cases counted

end Gateway
end DeviceLink
