import DeviceLink.Proofs.Json.Structure
import DeviceLink.Registry.Document
/-!
# What a device document is read from

One statement for each structure of a document that is written as an object: it is read just if
each of its fields is, and from the member with the key of the field alone. A condition has two
kinds of members. Its own fields come first, and then everything else has to be kept before its
thresholds are looked for; but they are still looked for by key (`Condition.read_object_iff`).
-/
namespace DeviceLink

open Source (Reads required optional orElse)

variable {room : Room} {ms : List (String × Source)}

/-! ## Conditions -/

namespace Test

/-- The members that hold the thresholds of a condition, and the name of its kind. -/
def Stands (ms : List (String × Source)) : Test Float → Prop
  | .within lo hi =>
    Reads ms "condition" (required TestKind.read) .within ∧
      Reads ms "minValue" (required Source.double) lo ∧
      Reads ms "maxValue" (required Source.double) hi
  | .greater t =>
    Reads ms "condition" (required TestKind.read) .greater ∧
      Reads ms "value" (required Source.double) t
  | .less t =>
    Reads ms "condition" (required TestKind.read) .less ∧
      Reads ms "value" (required Source.double) t

theorem stands_iff (test : Test Float) :
    test.Stands ms ↔ ∃ kind, Reads ms "condition" (required TestKind.read) kind ∧
      Test.read kind ms = some test := by
  constructor
  · intro stands
    cases test with
    | within lo hi =>
      obtain ⟨named, ⟨a, ha, lo⟩, b, hb, hi⟩ := stands
      exact ⟨.within, named, by simp [Test.read, ha, lo, hb, hi]⟩
    | greater t =>
      obtain ⟨named, a, ha, value⟩ := stands
      exact ⟨.greater, named, by simp [Test.read, ha, value]⟩
    | less t =>
      obtain ⟨named, a, ha, value⟩ := stands
      exact ⟨.less, named, by simp [Test.read, ha, value]⟩
  · rintro ⟨kind, named, read⟩
    cases kind with
    | within =>
      simp only [Test.read, Option.bind_eq_bind, Option.pure_def, Option.bind_eq_some_iff,
        Option.some.injEq] at read
      obtain ⟨a, ha, lo, hlo, b, hb, hi, hhi, rfl⟩ := read
      exact ⟨named, ⟨a, ha, hlo⟩, b, hb, hhi⟩
    | greater =>
      simp only [Test.read, Option.bind_eq_bind, Option.pure_def, Option.bind_eq_some_iff,
        Option.some.injEq] at read
      obtain ⟨a, ha, t, ht, rfl⟩ := read
      exact ⟨named, a, ha, ht⟩
    | less =>
      simp only [Test.read, Option.bind_eq_bind, Option.pure_def, Option.bind_eq_some_iff,
        Option.some.injEq] at read
      obtain ⟨a, ha, t, ht, rfl⟩ := read
      exact ⟨named, a, ha, ht⟩

end Test

theorem single_others (key : String) (foreign : key ∉ Condition.ownKeys) :
    Source.single (ms.filter fun m => !Condition.ownKeys.contains m.1) key =
      Source.single ms key := by
  refine Source.single_filter (p := fun k => !Condition.ownKeys.contains k) ?_ ms
  rw [Bool.not_eq_true', ← Bool.not_eq_true, List.contains_iff_mem]
  exact foreign

theorem Test.read_others (kind : TestKind) :
    Test.read kind (ms.filter fun m => !Condition.ownKeys.contains m.1) = Test.read kind ms := by
  cases kind with
  | within => rw [Test.read, single_others "minValue" (by decide),
      single_others "maxValue" (by decide), Test.read]
  | greater => rw [Test.read, single_others "value" (by decide), Test.read]
  | less => rw [Test.read, single_others "value" (by decide), Test.read]

theorem all_others_iff (inner : Room) :
    ((ms.filter fun m => !Condition.ownKeys.contains m.1).all fun m => (m.2.keep inner).isSome) =
        true ↔ ∀ m ∈ ms, m.1 ∉ Condition.ownKeys → (m.2.keep inner).isSome = true := by
  simp only [List.all_filter, List.all_eq_true, Bool.or_eq_true, Bool.not_not,
    List.contains_iff_mem, or_iff_not_imp_left]

/-- The thresholds are looked for among the members that are left over, but there are no others of
their keys. -/
theorem Condition.read_object_iff {c : Condition} :
    Condition.read room (.object ms) = some c ↔ ∃ inner, room.enter = some inner ∧
      (∀ m ∈ ms, m.1 ∉ ownKeys → (m.2.keep inner).isSome = true) ∧
      Reads ms "id" (optional Source.text) c.id ∧
      Reads ms "mode" (required (Source.variant Mode.ofName)) c.mode ∧
      Reads ms "default" (orElse Source.flag false) c.isDefault ∧ c.test.Stands ms := by
  obtain ⟨id, mode, test, isDefault⟩ := c
  simp only [read, Option.bind_eq_bind, Option.pure_def, Option.bind_eq_some_iff,
    Option.ite_none_right_eq_some, all_others_iff, single_others "condition" (by decide),
    Test.read_others, Test.stands_iff, Option.some.injEq, mk.injEq]
  constructor
  · rintro ⟨inner, h, a, ha, _, ra, b, hb, _, rb, c, hc, _, rc, kept, k, hk, kind, rk, _, rt,
      rfl, rfl, rfl, rfl⟩
    exact ⟨inner, h, kept, ⟨a, ha, ra⟩, ⟨b, hb, rb⟩, ⟨c, hc, rc⟩, kind, ⟨k, hk, rk⟩, rt⟩
  · rintro ⟨inner, h, kept, ⟨a, ha, ra⟩, ⟨b, hb, rb⟩, ⟨c, hc, rc⟩, kind, ⟨k, hk, rk⟩, rt⟩
    exact ⟨inner, h, a, ha, _, ra, b, hb, _, rb, c, hc, _, rc, kept, k, hk, kind, rk, _, rt,
      rfl, rfl, rfl, rfl⟩

/-! ## Mappings, ranges and tags -/

theorem LinearMapping.read_object_iff {m : LinearMapping} :
    LinearMapping.read (.object ms) = some m ↔
      Reads ms "minRaw" (optional Source.double) m.minRaw ∧
      Reads ms "maxRaw" (optional Source.double) m.maxRaw ∧
      Reads ms "minValue" (optional Source.double) m.minValue ∧
      Reads ms "maxValue" (optional Source.double) m.maxValue := by
  obtain ⟨minRaw, maxRaw, minValue, maxValue⟩ := m
  simp only [read, wellSized, if_true, Source.fields, keys, List.mapM_cons, List.mapM_nil,
    Option.pure_def, Option.bind_eq_bind, Option.bind_some, Option.bind_eq_some_iff,
    Option.some.injEq, exists_exists_and_eq_and, exists_exists_and_exists_and_eq_and,
    ↓existsAndEq, and_true, mk.injEq, Reads]
  constructor
  · rintro ⟨a, b, c, d, ⟨ha, hb, hc, hd⟩, ra, rb, rc, rd⟩
    exact ⟨⟨a, ha, ra⟩, ⟨b, hb, rb⟩, ⟨c, hc, rc⟩, d, hd, rd⟩
  · rintro ⟨⟨a, ha, ra⟩, ⟨b, hb, rb⟩, ⟨c, hc, rc⟩, d, hd, rd⟩
    exact ⟨a, b, c, d, ⟨ha, hb, hc, hd⟩, ra, rb, rc, rd⟩

theorem RangeSpec.read_object_iff {r : RangeSpec} :
    RangeSpec.read room (.object ms) = some r ↔ ∃ inner, room.enterBy 2 = some inner ∧
      Reads ms "minValue" (optional Source.double) r.minValue ∧
      Reads ms "maxValue" (optional Source.double) r.maxValue ∧
      Reads ms "conditions" (orElse (Source.list (Condition.read inner)) []) r.conditions ∧
      Reads ms "action" (required (Source.variant Action.ofName)) r.action ∧
      Reads ms "fixedValue" (optional Source.double) r.fixedValue ∧
      Reads ms "invalidAction" (orElse (Source.variant Trace.ofName) .ignore) r.invalidAction ∧
      Reads ms "saveInvalidValue" (orElse Source.flag false) r.saveInvalidValue := by
  obtain ⟨minValue, maxValue, conditions, action, fixedValue, invalidAction, save⟩ := r
  simp only [read, Source.fields, keys, List.mapM_cons, List.mapM_nil, Option.pure_def,
    Option.bind_eq_bind, Option.bind_some, Option.bind_eq_some_iff, Option.some.injEq,
    exists_exists_and_eq_and, exists_exists_and_exists_and_eq_and, ↓existsAndEq, and_true,
    mk.injEq, Reads]
  constructor
  · rintro ⟨inner, h, a, b, c, d, e, f, g, ⟨ha, hb, hc, hd, he, hf, hg⟩, ra, rb, rc, rd, re, rf, rg⟩
    exact ⟨inner, h, ⟨a, ha, ra⟩, ⟨b, hb, rb⟩, ⟨c, hc, rc⟩, ⟨d, hd, rd⟩, ⟨e, he, re⟩, ⟨f, hf, rf⟩,
      g, hg, rg⟩
  · rintro ⟨inner, h, ⟨a, ha, ra⟩, ⟨b, hb, rb⟩, ⟨c, hc, rc⟩, ⟨d, hd, rd⟩, ⟨e, he, re⟩, ⟨f, hf, rf⟩,
      g, hg, rg⟩
    exact ⟨inner, h, a, b, c, d, e, f, g, ⟨ha, hb, hc, hd, he, hf, hg⟩, ra, rb, rc, rd, re, rf, rg⟩

theorem Tag.read_object_iff {t : Tag} :
    Tag.read room (.object ms) = some t ↔ ∃ inner, room.enter = some inner ∧
      Reads ms "id" (required Source.text) t.id ∧
      Reads ms "name" (optional Source.text) t.name ∧
      Reads ms "tagValue" (optional LinearMapping.read) t.mapping ∧
      Reads ms "range" (optional (RangeSpec.read inner)) t.range ∧
      Reads ms "scale" (optional Source.double) t.scale ∧
      Reads ms "fixed" (optional (Source.natBelow (Nat.pow 2 32))) t.fixed := by
  obtain ⟨id, name, mapping, range, scale, fixed⟩ := t
  simp only [read, Source.fields, keys, List.mapM_cons, List.mapM_nil, Option.pure_def,
    Option.bind_eq_bind, Option.bind_some, Option.bind_eq_some_iff, Option.some.injEq,
    exists_exists_and_eq_and, exists_exists_and_exists_and_eq_and, ↓existsAndEq, and_true,
    mk.injEq, Reads]
  constructor
  · rintro ⟨inner, h, a, b, c, d, e, f, ⟨ha, hb, hc, hd, he, hf⟩, ra, rb, rc, rd, re, rf⟩
    exact ⟨inner, h, ⟨a, ha, ra⟩, ⟨b, hb, rb⟩, ⟨c, hc, rc⟩, ⟨d, hd, rd⟩, ⟨e, he, re⟩, f, hf, rf⟩
  · rintro ⟨inner, h, ⟨a, ha, ra⟩, ⟨b, hb, rb⟩, ⟨c, hc, rc⟩, ⟨d, hd, rd⟩, ⟨e, he, re⟩, f, hf, rf⟩
    exact ⟨inner, h, a, b, c, d, e, f, ⟨ha, hb, hc, hd, he, hf⟩, ra, rb, rc, rd, re, rf⟩

/-! ## Devices, tables and documents -/

theorem DeviceModel.read_object_iff {m : DeviceModel} :
    DeviceModel.read room (.object ms) = some m ↔ ∃ inner, room.enterBy 2 = some inner ∧
      Reads ms "tags" (orElse (Source.list (Tag.read inner)) []) m.tags := by
  obtain ⟨tags⟩ := m
  simp only [read, Source.fields, keys, List.mapM_cons, List.mapM_nil, Option.pure_def,
    Option.bind_eq_bind, Option.bind_some, Option.bind_eq_some_iff, Option.some.injEq,
    exists_exists_and_eq_and, mk.injEq, exists_eq_right, Reads]

theorem DeviceConfig.read_object_iff {d : DeviceConfig} :
    DeviceConfig.read room (.object ms) = some d ↔ ∃ inner, room.enter = some inner ∧
      Reads ms "id" (required Source.text) d.id ∧
      Reads ms "name" (optional Source.text) d.name ∧
      Reads ms "device" (orElse (DeviceModel.read inner) ⟨[]⟩) d.device := by
  obtain ⟨id, name, device⟩ := d
  simp only [read, Source.fields, keys, List.mapM_cons, List.mapM_nil, Option.pure_def,
    Option.bind_eq_bind, Option.bind_some, Option.bind_eq_some_iff, Option.some.injEq,
    exists_exists_and_eq_and, exists_exists_and_exists_and_eq_and, ↓existsAndEq, and_true,
    mk.injEq, Reads]
  constructor
  · rintro ⟨inner, h, a, b, c, ⟨ha, hb, hc⟩, ra, rb, rc⟩
    exact ⟨inner, h, ⟨a, ha, ra⟩, ⟨b, hb, rb⟩, c, hc, rc⟩
  · rintro ⟨inner, h, ⟨a, ha, ra⟩, ⟨b, hb, rb⟩, c, hc, rc⟩
    exact ⟨inner, h, a, b, c, ⟨ha, hb, hc⟩, ra, rb, rc⟩

theorem TableConfig.read_object_iff {t : TableConfig} :
    TableConfig.read room (.object ms) = some t ↔ ∃ inner, room.enter = some inner ∧
      ∃ deeper, inner.enter = some deeper ∧
      Reads ms "id" (required Source.text) t.id ∧
      Reads ms "device" (orElse (DeviceModel.read inner) ⟨[]⟩) t.device ∧
      Reads ms "devices" (orElse (Source.list (DeviceConfig.read deeper)) []) t.devices := by
  obtain ⟨id, device, devices⟩ := t
  simp only [read, Source.fields, keys, List.mapM_cons, List.mapM_nil, Option.pure_def,
    Option.bind_eq_bind, Option.bind_some, Option.bind_eq_some_iff, Option.some.injEq,
    exists_exists_and_eq_and, exists_exists_and_exists_and_eq_and, ↓existsAndEq, and_true,
    mk.injEq, Reads]
  constructor
  · rintro ⟨inner, h, deeper, h', a, b, c, ⟨ha, hb, hc⟩, ra, rb, rc⟩
    exact ⟨inner, h, deeper, h', ⟨a, ha, ra⟩, ⟨b, hb, rb⟩, c, hc, rc⟩
  · rintro ⟨inner, h, deeper, h', ⟨a, ha, ra⟩, ⟨b, hb, rb⟩, c, hc, rc⟩
    exact ⟨inner, h, deeper, h', a, b, c, ⟨ha, hb, hc⟩, ra, rb, rc⟩

theorem DeviceDocument.read_object_iff {d : DeviceDocument} :
    DeviceDocument.read room (.object ms) = some d ↔ ∃ inner, room.enterBy 2 = some inner ∧
      Reads ms "tables" (orElse (Source.list (TableConfig.read inner)) []) d.tables := by
  obtain ⟨tables⟩ := d
  simp only [read, Source.fields, keys, List.mapM_cons, List.mapM_nil, Option.pure_def,
    Option.bind_eq_bind, Option.bind_some, Option.bind_eq_some_iff, Option.some.injEq,
    exists_exists_and_eq_and, mk.injEq, exists_eq_right, Reads]

end DeviceLink
