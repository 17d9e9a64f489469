import DeviceLink.Proofs.Gateway.Reports
import DeviceLink.Proofs.Registry.Index
import DeviceLink.Proofs.Session.Loading
/-!
# Where samples are addressed to

A message that is handed over names the device of its sample, which is not blank, and a table, and
it has at least one field (`Addressed`). The table is the sample's own unless that is blank, and
else the one that the loaded document gives to the device (`Routed`). Nobody looks at the names
that a document gives to its tables: so the table of a message is blank exactly if the sample has no
table of its own and the first table that lists its device has a blank name
(`writeSample_addressed`, `unnamed_addressed`).
-/
namespace DeviceLink.Gateway

variable {σ Config Command TagValue : Type}

/-- What a message holds names this table and this device and has these fields. -/
structure Addressed (payload : Json) (table device : String) (members : List (String × Json)) :
    Prop where
  table : payload.member? "table" = some (.string table)
  device : payload.member? "id" = some (.string device)
  fields : payload.member? "fields" = some (.object members)

/-- The sample names no table, or a blank one. -/
def Homeless (s : Sample) : Prop := ∀ table, s.table = some table → Text.isBlank table = true

/-- How a sample comes by this table, and what else its message has, with this document loaded. -/
structure Routed (document : DeviceDocument) (s : Sample) (table : String)
    (members : List (String × Json)) : Prop where
  device : Text.isBlank s.device = false
  fields : members ≠ []
  own : ∀ t, s.table = some t → Text.isBlank t = false → table = t
  given : Homeless s →
    (document.tables.find? (TableConfig.lists s.device)).map TableConfig.id = some table
  /-- The first table that lists the device has a blank name, and the sample brings none along. -/
  blank : Text.isBlank table = true ↔ Homeless s ∧
    ∃ t, document.tables.find? (TableConfig.lists s.device) = some t ∧ Text.isBlank t.id = true
  named : (∀ t ∈ document.tables, Text.isBlank t.id = false) → Text.isBlank table = false

theorem addressed_pointPayload (s : ProcessedSample) :
    Addressed (pointPayload s) s.table s.device
      (Json.sortMembers (s.fields.map fun f => (f.id, f.value))) :=
  ⟨rfl, rfl, fields_pointPayload s⟩

theorem named_of_require {name value : String} (h : require name value = .ok ()) :
    Text.isBlank value = false := by
  cases blank : Text.isBlank value with
  | false => rfl
  | true =>
    rw [require, if_pos blank] at h
    cases h

theorem named_of_checkSample {state : SessionState} {s : Sample}
    (checked : checkSample state s = .ok ()) : Text.isBlank s.device = false := by
  obtain ⟨-, -, checked⟩ := eq_ok_of_bind checked
  obtain ⟨u, required, -⟩ := eq_ok_of_bind checked
  exact named_of_require required

theorem tableOf_homeless (registry : Registry) {s : Sample} (homeless : Homeless s) :
    tableOf registry s = registry.lookup s.device := by
  rw [tableOf]
  cases own : s.table with
  | none => rfl
  | some t =>
    have blank : Text.isBlank t = true := homeless t own
    simp [Option.filter, blank]

theorem tableOf_named (registry : Registry) {s : Sample} {t : String} (own : s.table = some t)
    (named : Text.isBlank t = false) : tableOf registry s = some t := by
  simp [tableOf, own, Option.filter, named]

/-- A blank table was given by the registry. -/
theorem blank_table_iff {registry : Registry} {s : Sample} {table : String}
    (found : tableOf registry s = some table) :
    Text.isBlank table = true ↔
      Homeless s ∧ ∃ t, registry.lookup s.device = some t ∧ Text.isBlank t = true := by
  constructor
  · intro blank
    have homeless : Homeless s := by
      intro t own
      cases named : Text.isBlank t with
      | true => rfl
      | false =>
        rw [tableOf_named registry own named] at found
        cases found
        exact named.symm.trans blank
    rw [tableOf_homeless registry homeless] at found
    exact ⟨homeless, table, found, blank⟩
  · rintro ⟨homeless, t, given, blank⟩
    rw [tableOf_homeless registry homeless, given] at found
    cases found
    exact blank

theorem routed {document : DeviceDocument} {registry : Registry} {s : Sample} {table : String}
    {members : List (String × Json)} (device : Text.isBlank s.device = false)
    (fields : members ≠ []) (found : tableOf registry s = some table)
    (lookup : registry.lookup s.device =
      (document.tables.find? (TableConfig.lists s.device)).map TableConfig.id) :
    Routed document s table members := by
  have blank : Text.isBlank table = true ↔ Homeless s ∧
      ∃ t, document.tables.find? (TableConfig.lists s.device) = some t ∧
        Text.isBlank t.id = true := by
    rw [blank_table_iff found, lookup]
    simp
  constructor
  case device => exact device
  case fields => exact fields
  case own =>
    intro t own named
    exact Option.some.inj (found.symm.trans (tableOf_named registry own named))
  case given =>
    intro homeless
    rw [← lookup, ← tableOf_homeless registry homeless]
    exact found
  case blank => exact blank
  case named =>
    intro named
    refine Bool.eq_false_iff.2 fun unnamed => ?_
    obtain ⟨-, t, first, contrary⟩ := blank.1 unnamed
    exact Bool.false_ne_true ((named t (List.mem_of_find?_eq_some first)).symm.trans contrary)

/-- **Where a sample is addressed to**, once a start was answered with success: whatever message a
sample comes to names its device, which is not blank, and the table of the sample, or else the
first one of the document that lists the device; and it has a field. So the table is blank just if
the sample brings none along and that first one has a blank name; it never is if the document
names all its tables. -/
theorem writeSample_addressed (driver : Driver Config Command TagValue) (q : Request) (s : Store)
    (accepted : (Handling.begin driver .start q).envelope.code = 200) (send : Sender σ)
    (state : SessionState) (pipeline : Pipeline) (cache : Cache) (p : σ) (sample : Sample)
    {m : Outbound}
    (handed : m ∈ (writeSample (recording send) state
      ((Handling.begin driver .start q).finish s).registry pipeline cache ([], p) sample).2.2.1) :
    ∃ document table members, startDocument q = some document ∧
      let processed := (pipeline.process table (prepare
        ((Handling.begin driver .start q).finish s).registry sample) cache).1
      m = .point (encode (pointPayload processed)) ∧
      Addressed (pointPayload processed) table sample.device members ∧
      Routed document sample table members := by
  obtain ⟨document, read, lookup, -⟩ := (begin_start driver q s).all accepted
  generalize ((Handling.begin driver .start q).finish s).registry = registry at handed lookup ⊢
  rcases writeSample_cases send state registry pipeline cache [] p sample with
    ⟨nothing, -⟩ | ⟨checked, table, found, something, sent, -⟩
  · rw [nothing] at handed
    cases handed
  · rw [sent, List.nil_append, List.mem_singleton] at handed
    have members : Json.sortMembers ((pipeline.process table (prepare registry sample)
        cache).1.fields.map fun f => (f.id, f.value)) ≠ [] :=
      Json.sortMembers_ne_nil (by simpa using something)
    refine ⟨document, table, _, read, handed, addressed_pointPayload _, ?_⟩
    exact routed (named_of_checkSample checked) members found
      ((lookup sample.device).trans (Registry.lookup_ofDocument document sample.device))

/-! ### A table without a name -/

/-- Starts with a document whose only table has a blank name. -/
def unnamed : Request where
  id := "start-1"
  serial := ""
  table := ""
  targets := []
  payload := Utf8.encode
    "\x7b\"tables\":[\x7b\"id\":\" \",\"devices\":[\x7b\"id\":\"b-1\"\x7d]\x7d]\x7d"

/-- A reading of a device, for the table that it belongs to. -/
def stray : Sample := ⟨"b-1", none, none, ⟨0, 0⟩, [Field.byId "temp" (.ofNat 21)], []⟩

/-- What is left of it. -/
def strayed : ProcessedSample := ⟨" ", "b-1", none, ⟨0, 0⟩, [⟨"temp", .ofNat 21⟩]⟩

theorem unnamed_accepted :
    (Handling.begin (Bench.DemoForm.driver .basic) .start unnamed).envelope.code = 200 := by
  decide +kernel

theorem stray_handed :
    (writeSample (recording accepting) .running
      ((Handling.begin (Bench.DemoForm.driver .basic) .start unnamed).finish Store.empty).registry
      .standard Cache.empty ([], ()) stray).2.2.1 = [.point (encode (pointPayload strayed))] := by
  rw [Pipeline.standard_eq]
  decide +kernel

/-- The only table that lists the device has a blank name, and that is what the message names. -/
theorem writeSample_addressed_stray :
    let start := Handling.begin (Bench.DemoForm.driver .basic) .start unnamed
    let call := writeSample (recording accepting) .running (start.finish Store.empty).registry
      .standard Cache.empty ([], ()) stray
    start.envelope.code = 200 ∧
      ∃ payload table members, .point (encode payload) ∈ call.2.2.1 ∧
        Addressed payload table "b-1" members ∧ members ≠ [] ∧ Text.isBlank table = true := by
  intro start call
  have handed : .point (encode (pointPayload strayed)) ∈ call.2.2.1 := by
    rw [show call.2.2.1 = _ from stray_handed]
    exact List.mem_singleton_self _
  obtain ⟨document, table, members, read, same, addressed, way⟩ :=
    writeSample_addressed (Bench.DemoForm.driver .basic) unnamed Store.empty unnamed_accepted
      accepting .running .standard Cache.empty () stray handed
  have known : startDocument unnamed = some ⟨[⟨" ", ⟨[]⟩, [⟨"b-1", none, ⟨[]⟩⟩]⟩]⟩ := by
    decide +kernel
  cases read.symm.trans known
  have homeless : Homeless stray := by
    intro t own
    cases own
  have blankName : Text.isBlank " " = true := by decide +kernel
  exact ⟨unnamed_accepted, _, table, members, same ▸ handed, addressed, way.fields,
    way.blank.2 ⟨homeless, _, rfl, blankName⟩⟩

/-- Nobody looks at what tables are called. -/
theorem unnamed_addressed :
    ¬ ∀ (driver : Driver Bench.DemoConfig Bench.DemoCommand Json) (q : Request) (s : Store)
        (pipeline : Pipeline) (cache : Cache) (sample : Sample) (processed : ProcessedSample),
      let start := Handling.begin driver .start q
      start.envelope.code = 200 →
        .point (encode (pointPayload processed)) ∈ (writeSample (recording accepting) .running
          (start.finish s).registry pipeline cache ([], ()) sample).2.2.1 →
        Text.isBlank processed.table = false ∧ Text.isBlank processed.device = false ∧
          processed.fields ≠ [] := by
  intro claim
  obtain ⟨named, -⟩ := claim (Bench.DemoForm.driver .basic) unnamed Store.empty .standard
    Cache.empty stray strayed unnamed_accepted
    (by rw [stray_handed]; exact List.mem_singleton_self _)
  have blank : Text.isBlank " " = true := by decide +kernel
  exact Bool.false_ne_true (named.symm.trans blank)

end DeviceLink.Gateway
