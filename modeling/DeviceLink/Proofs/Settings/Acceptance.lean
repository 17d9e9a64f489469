import DeviceLink.Host
import DeviceLink.Proofs.Wire.Identities
import DeviceLink.Settings.Tracing
/-!
# What accepted settings are good for

Settings are accepted if the endpoint and the identity are filled in, the times and the buffer are
not zero, and the level is one of five names (`validate_eq_ok_iff`). Then the level can be traced.
But nobody asks whether the identity can be sent: an id of the project or of the driver with a
control character in it is accepted, and with it every call of the process is refused before it
leaves, for as long as the process runs (`validate_fares`, `unsendable_accepted`). Under a rule that
keeps headers to visible ASCII, spaces and tabs even more ids are accepted in vain.
-/
namespace DeviceLink.Settings

/-! ## What is asked of settings -/

structure Sensible (s : Settings) : Prop where
  endpoint : Text.isBlank s.platform.endpoint = false
  project : Text.isBlank s.identity.project = false
  driver : Text.isBlank s.identity.driver = false
  name : Text.isBlank s.identity.name = false
  service : Text.isBlank s.identity.service = false
  retry : s.session.retry.nanos ≠ 0
  keepalive : s.session.keepalive.nanos ≠ 0
  healthTimeout : s.session.healthTimeout.nanos ≠ 0
  streamBuffer : s.session.streamBuffer ≠ 0
  level : Text.lower s.logging.level ∈ levelNames

theorem check_eq_ok_iff (holds : Bool) (reason : String) :
    check holds reason = .ok () ↔ holds = true := by
  cases holds with
  | true => exact iff_of_true rfl rfl
  | false => exact iff_of_false (by intro h; cases h) (by intro h; cases h)

theorem bind_eq_ok_iff {x : Except LinkError Unit} {f : Unit → Except LinkError Unit} :
    x >>= f = .ok () ↔ x = .ok () ∧ f () = .ok () := by
  cases x with
  | error e => exact iff_of_false (by intro h; cases h) (by rintro ⟨h, -⟩; cases h)
  | ok u => exact ⟨fun h => ⟨rfl, h⟩, fun h => h.2⟩

theorem validate_eq_ok_iff (s : Settings) : s.validate = .ok () ↔ Sensible s := by
  simp only [validate, checkFilled, checkPositive, bind_eq_ok_iff, check_eq_ok_iff,
    Bool.not_eq_true', bne_iff_ne, List.contains_iff_mem]
  constructor
  · rintro ⟨h₁, h₂, h₃, h₄, h₅, h₆, h₇, h₈, h₉, h₁₀⟩
    exact ⟨h₁, h₂, h₃, h₄, h₅, h₆, h₇, h₈, h₉, h₁₀⟩
  · rintro ⟨h₁, h₂, h₃, h₄, h₅, h₆, h₇, h₈, h₉, h₁₀⟩
    exact ⟨h₁, h₂, h₃, h₄, h₅, h₆, h₇, h₈, h₉, h₁₀⟩

/-! ## What follows from it -/

/-- The level of accepted settings is traced under the name that they give it. -/
theorem Sensible.traced {s : Settings} (h : Sensible s) :
    ∃ level : TraceLevel, Text.lower level.name = Text.lower s.logging.level ∧
      Tracing.ofSettings s.logging = .ok { Tracing.new level with format := s.logging.format } := by
  have named : ∃ level : TraceLevel, Text.lower level.name = Text.lower s.logging.level ∧
      TraceLevel.ofName s.logging.level = some level := by
    have known := h.level
    simp only [levelNames, List.mem_cons, List.not_mem_nil, or_false] at known
    rw [TraceLevel.ofName]
    rcases known with name | name | name | name | name
    all_goals rw [name]
    · exact ⟨.trace, by decide, rfl⟩
    · exact ⟨.debug, by decide, rfl⟩
    · exact ⟨.info, by decide, rfl⟩
    · exact ⟨.warn, by decide, rfl⟩
    · exact ⟨.error, by decide, rfl⟩
  obtain ⟨level, same, found⟩ := named
  exact ⟨level, same, by rw [Tracing.ofSettings, found]⟩

/-- Every call of the identity is refused for this header before anything leaves. -/
structure Refused (i : Identity) (header : String) : Prop where
  tagged : i.tagged = .error (.invalidMetadata header)
  opens : ∀ link m answer,
    Wire.openStream link i m answer = (.error (.invalidMetadata header), [])
  checks : ∀ link answer, Wire.checkHealth link i answer = (.error (.invalidMetadata header), [])
  sends : ∀ link m answer, Wire.send link i m answer = (.error (.invalidMetadata header), [])

theorem refused_of_tagged {i : Identity} {header : String}
    (tagged : i.tagged = .error (.invalidMetadata header)) : Refused i header where
  tagged := tagged
  opens link m answer := Wire.carry_refused tagged link _ _ _ answer
  checks link answer := by
    simp only [Wire.checkHealth, Wire.carry_refused tagged]
    rfl
  sends link m answer := by
    simp only [Wire.send, Wire.carry_refused tagged]
    rfl

/-- The ids of the project and of the driver decide whether an identity is tagged, where headers
follow the rule, and the first that does not fit is named. -/
structure Judged (rule : UInt8 → Bool) (i : Identity) : Prop where
  sent : Identity.Fits rule i.project → Identity.Fits rule i.driver →
    i.taggedBy rule = .ok i.headers
  project : ¬ Identity.Fits rule i.project →
    i.taggedBy rule = .error (.invalidMetadata "x-project-id")
  driver : Identity.Fits rule i.project → ¬ Identity.Fits rule i.driver →
    i.taggedBy rule = .error (.invalidMetadata "x-driver-id")

theorem judged {rule : UInt8 → Bool} (takesDigits : Identity.TakesDigits rule) (i : Identity) :
    Judged rule i where
  sent project driver := by
    rw [Identity.taggedBy_eq takesDigits, if_neg (not_not_intro project),
      if_neg (not_not_intro driver)]
  project unfit := by rw [Identity.taggedBy_eq takesDigits, if_pos unfit]
  driver project unfit := by
    rw [Identity.taggedBy_eq takesDigits, if_neg (not_not_intro project), if_pos unfit]

/-- How a process with these settings fares. Only its endpoint is looked at when it is set up;
whether its identity can be sent shows with the first call, and again with every other. -/
structure Fares (s : Settings) : Prop where
  traced : ∃ level : TraceLevel, Text.lower level.name = Text.lower s.logging.level ∧
    Tracing.ofSettings s.logging = .ok { Tracing.new level with format := s.logging.format }
  hosted : Endpoint.isValid s.platform.endpoint = true →
    ∃ host, Host.ofSettings s = .ok host ∧ host.identity = s.identity
  sent : Text.Clean s.identity.project → Text.Clean s.identity.driver →
    s.identity.tagged = .ok s.identity.headers
  project : ¬ Text.Clean s.identity.project → Refused s.identity "x-project-id"
  driver : Text.Clean s.identity.project → ¬ Text.Clean s.identity.driver →
    Refused s.identity "x-driver-id"
  /-- Where headers take visible ASCII, spaces and tabs only. -/
  visible : Judged Identity.isVisibleByte s.identity

/-- **Accepted settings can be traced and can send every call, unless an id of the project or of the
driver has a control character in it.** Such settings are accepted all the same and a process is
set up with them, but every one of its calls is refused, with the header of the first such id. Where
headers take visible ASCII, spaces and tabs only, any other character in these ids does the same. -/
theorem validate_fares (s : Settings) (accepted : s.validate = .ok ()) : Fares s where
  traced := ((validate_eq_ok_iff s).1 accepted).traced
  hosted valid := by
    refine ⟨⟨s.platform.endpoint, s.identity, s.session, Actor.initial, Store.empty,
      Pipeline.standard⟩, ?_, rfl⟩
    rw [Host.ofSettings, accepted, Host.checkEndpoint, if_pos valid]
    rfl
  sent project driver := by
    rw [Identity.tagged_eq, if_neg (not_not_intro project), if_neg (not_not_intro driver)]
  project unfit := by
    refine refused_of_tagged ?_
    rw [Identity.tagged_eq, if_pos unfit]
  driver project unfit := by
    refine refused_of_tagged ?_
    rw [Identity.tagged_eq, if_neg (not_not_intro project), if_pos unfit]
  visible := judged (by decide +kernel) s.identity

/-! ### An id with a line break -/

def unsendable : Settings where
  platform := .standard
  identity := ⟨"plant\n7", "modbus", "Modbus TCP", "edge-01"⟩
  session := .standard
  logging := .standard

theorem unsendable_validated : unsendable.validate = .ok () := by
  refine (validate_eq_ok_iff unsendable).2 ?_
  constructor <;> decide +kernel

/-- Settings of which only the project's id is out of order. -/
theorem validate_fares_unsendable :
    unsendable.validate = .ok () ∧ Refused unsendable.identity "x-project-id" ∧
      unsendable.identity.taggedBy Identity.isVisibleByte =
        .error (.invalidMetadata "x-project-id") ∧
      ∃ host, Host.ofSettings unsendable = .ok host ∧ host.identity = unsendable.identity := by
  have fares := validate_fares unsendable unsendable_validated
  exact ⟨unsendable_validated, fares.project (by decide), fares.visible.project (by decide +kernel),
    fares.hosted (by decide +kernel)⟩

/-- Nobody asks whether an identity can be sent, by either rule for headers. -/
theorem unsendable_accepted :
    (¬ ∀ s : Settings, s.validate = .ok () →
      (∀ header, s.identity.tagged ≠ .error (.invalidMetadata header)) ∧
        ∃ t, Tracing.ofSettings s.logging = .ok t) ∧
    ¬ ∀ s : Settings, s.validate = .ok () →
      (∀ header, s.identity.taggedBy Identity.isVisibleByte ≠ .error (.invalidMetadata header)) ∧
        ∃ t, Tracing.ofSettings s.logging = .ok t := by
  constructor
  · intro claim
    have tagged : unsendable.identity.tagged = .error (.invalidMetadata "x-project-id") := by
      rw [Identity.tagged_eq]
      exact if_pos (by decide)
    exact (claim unsendable unsendable_validated).1 _ tagged
  · intro claim
    have visible : Judged Identity.isVisibleByte unsendable.identity :=
      judged (by decide +kernel) unsendable.identity
    exact (claim unsendable unsendable_validated).1 _ (visible.project (by decide +kernel))

end DeviceLink.Settings
