import EntityProps.Proofs.Results
import EntityProps.Report

/-!
# Reports

The report of a manifest says of each entity what a new session says of this
entity alone (`Session.checkManifest_pointwise`), whatever the session has parsed
before, so entities do not influence each other.

What came of an entity is recorded three times: as properties or a message, as a
kind of error or none, and by one of the two counters. A report that is in step and
takes a part that is in step stays so (`Report.InStep.push`), and so the records are
in step after any number of entities.
-/

namespace EntityProps

/-! ## An entity alone -/

def message? {α : Type} : Except ParseError α → Option String
  | .ok _ => none
  | .error e => some e.message

namespace Entity

/-- The kind of an entity: the one that is given, or else the one that its marker shows. -/
def kind? (e : Entity) : Option Kind :=
  e.kind.or (Kind.ofMarker? e.text)

/-- What a new session says of an entity. -/
def outcome (g : Grammar) (r : Registry) (e : Entity) : Except ParseError BoundGroup :=
  match e.kind? with
  | some kind => (Session.parse { grammar := g, registry := r } kind e.text).1
  | none => .error (.wrongMarker Session.anyMarker)

/-- The report on an entity alone: its records all come from one outcome. -/
def report (g : Grammar) (r : Registry) (e : Entity) : EntityReport where
  name := e.name
  kind := e.kind?
  text := e.text
  properties := (e.outcome g r).toOption
  errorKind := errorKind? (e.outcome g r)
  error := message? (e.outcome g r)

/-- The slot after an entity. Without a kind nothing is parsed, and the slot is empty although
the report says that the marker is wrong. -/
def slot (g : Grammar) (r : Registry) (e : Entity) : Option ErrorKind :=
  e.kind?.bind fun _ => errorKind? (e.outcome g r)

end Entity

/-! ## Reports on entities -/

namespace EntityReport

/-- The records of what came of an entity agree on whether there was an error. -/
structure InStep (r : EntityReport) : Prop where
  properties_iff : r.properties.isSome = true ↔ r.error = none
  error_iff : r.error = none ↔ r.errorKind = none

/-- A report is on this entity: it copies the name and the annotation, and its records say what a
new session says of the entity alone. -/
structure IsOn (g : Grammar) (reg : Registry) (r : EntityReport) (e : Entity) : Prop where
  name_eq : r.name = e.name
  kind_eq : r.kind = e.kind?
  text_eq : r.text = e.text
  properties_iff : ∀ group, r.properties = some group ↔ e.outcome g reg = .ok group
  error_iff : ∀ kind text, r.errorKind = some kind ∧ r.error = some text ↔
    ∃ err, e.outcome g reg = .error err ∧ err.kind = kind ∧ err.message = text
  inStep : r.InStep

end EntityReport

variable {g : Grammar} {reg : Registry}

theorem Entity.isOn_report (e : Entity) : (e.report g reg).IsOn g reg e := by
  refine ⟨rfl, rfl, rfl, ?_, ?_, ?_, ?_⟩ <;> rw [Entity.report] <;> dsimp only <;>
    cases e.outcome g reg <;> simp [errorKind?, message?, Except.toOption]

theorem EntityReport.IsOn.isOk_iff {r : EntityReport} {e : Entity} (h : r.IsOn g reg e) :
    r.isOk = true ↔ ∃ group, e.outcome g reg = .ok group := by
  rw [isOk, Option.isNone_iff_eq_none, ← h.inStep.error_iff, ← h.inStep.properties_iff,
    Option.isSome_iff_exists]
  simp only [h.properties_iff]

/-! ## Counters -/

namespace Report

/-- The records of a report are in step: those on every entity, and the counters with them. -/
structure InStep (b : Report) : Prop where
  entities : ∀ r ∈ b.entities, r.InStep
  passed_eq : b.passed = b.entities.countP (·.isOk)
  failed_eq : b.failed = b.entities.countP (!·.isOk)

variable {b : Report}

theorem inStep_empty : InStep {} :=
  ⟨nofun, rfl, rfl⟩

@[simp]
theorem entities_push (b : Report) (r : EntityReport) :
    (b.push r).entities = b.entities ++ [r] := by
  rw [push]
  split <;> rfl

theorem InStep.push (hb : b.InStep) {r : EntityReport} (hr : r.InStep) : (b.push r).InStep := by
  obtain ⟨hentities, hpassed, hfailed⟩ := hb
  refine ⟨?_, ?_, ?_⟩
  · intro x hx
    rw [entities_push, List.mem_append, List.mem_singleton] at hx
    rcases hx with hx | rfl
    · exact hentities x hx
    · exact hr
  -- A part moves exactly one of the counters.
  all_goals
    rw [entities_push, List.countP_append, List.countP_singleton, Report.push]
    split
    · next h => simp [h, hpassed, hfailed]
    · next h => simp [h, hpassed, hfailed]

theorem entities_foldl_push (rs : List EntityReport) (b : Report) :
    (rs.foldl Report.push b).entities = b.entities ++ rs := by
  induction rs generalizing b with
  | nil => rw [List.foldl_nil, List.append_nil]
  | cons r rs ih => rw [List.foldl_cons, ih, entities_push, List.append_assoc]; rfl

theorem InStep.foldl_push (hb : b.InStep) {rs : List EntityReport} (hrs : ∀ r ∈ rs, r.InStep) :
    (rs.foldl Report.push b).InStep := by
  induction rs generalizing b with
  | nil => exact hb
  | cons r rs ih =>
    rw [List.forall_mem_cons] at hrs
    exact ih (hb.push hrs.1) hrs.2

theorem InStep.passed_add_failed (hb : b.InStep) : b.passed + b.failed = b.entities.length := by
  rw [hb.passed_eq, hb.failed_eq, List.length_eq_countP_add_countP (p := (·.isOk))]
  simp

theorem InStep.isOk_iff (hb : b.InStep) : b.isOk = true ↔ ∀ r ∈ b.entities, r.isOk = true := by
  rw [isOk, hb.failed_eq, beq_iff_eq, List.countP_eq_zero]
  simp

/-- The counters of a report on two lists of entities, one behind the other, are added. -/
theorem InStep.counters_of_append {b' both : Report} (hb : b.InStep) (hb' : b'.InStep)
    (hboth : both.InStep) (h : both.entities = b.entities ++ b'.entities) :
    both.passed = b.passed + b'.passed ∧ both.failed = b.failed + b'.failed := by
  constructor
  · rw [hboth.passed_eq, h, List.countP_append, hb.passed_eq, hb'.passed_eq]
  · rw [hboth.failed_eq, h, List.countP_append, hb.failed_eq, hb'.failed_eq]

end Report

/-! ## Entities in a row -/

namespace Session

theorem check_eq (s : Session) (e : Entity) :
    s.check e =
      (e.report s.grammar s.registry, { s with slot := e.slot s.grammar s.registry }) := by
  rw [check, Entity.report, Entity.slot, Entity.outcome]
  simp only [Entity.kind?]
  cases e.kind.or (Kind.ofMarker? e.text) with
  | none => rfl
  | some kind =>
    simp only [Session.parse, clean]
    cases EntityProps.parse s.grammar s.registry kind e.text <;> rfl

/-- Each entity is reported on as if it were alone, and the last one leaves its slot. -/
theorem checkAll_eq (s : Session) (b : Report) (es : List Entity) :
    s.checkAll b es = ((es.map (Entity.report s.grammar s.registry)).foldl Report.push b,
      { s with slot := (es.getLast?.map (Entity.slot s.grammar s.registry)).getD s.slot }) := by
  induction es generalizing s b with
  | nil => rfl
  | cons e es ih =>
    rw [checkAll, check_eq]
    simp only [ih, List.map_cons, List.foldl_cons]
    cases es with
    | nil => rfl
    | cons e' es => rfl

variable (s : Session) (m : Manifest)

theorem entities_checkManifest :
    (s.checkManifest m).1.entities = m.entities.map (Entity.report s.grammar s.registry) := by
  rw [checkManifest, checkAll_eq, Report.entities_foldl_push]
  rfl

/-- The records are in step after a manifest, however long it is. -/
theorem inStep_checkManifest : (s.checkManifest m).1.InStep := by
  rw [checkManifest, checkAll_eq]
  refine Report.inStep_empty.foldl_push ?_
  rw [List.forall_mem_map]
  exact fun e _ => (Entity.isOn_report e).inStep

theorem isOn_checkManifest :
    List.Forall₂ (EntityReport.IsOn s.grammar s.registry) (s.checkManifest m).1.entities
      m.entities := by
  rw [entities_checkManifest, List.forall₂_map_left_iff, List.forall₂_same]
  exact fun e _ => Entity.isOn_report e

theorem isOk_checkManifest_iff : (s.checkManifest m).1.isOk = true ↔
    ∀ e ∈ m.entities, ∃ group, e.outcome s.grammar s.registry = .ok group := by
  rw [(inStep_checkManifest s m).isOk_iff, entities_checkManifest, List.forall_mem_map]
  simp only [(Entity.isOn_report _).isOk_iff]

theorem not_isOk_checkManifest_iff : ¬ (s.checkManifest m).1.isOk = true ↔
    ∃ e ∈ m.entities, ∃ err, e.outcome s.grammar s.registry = .error err := by
  rw [isOk_checkManifest_iff]
  simp [exists_ok_iff_forall_ne_error]

/-- **A batch is the parse of its entries, one by one.** From any session, a manifest has one
report on each entity, in order, that says what a new session says of this entity alone. The three
records of success stay in step: every entity has properties and no error, or a message and a kind
of one error and no properties, and is counted accordingly. The reports on two manifests in a row
are put behind each other, and their counters are added. -/
theorem checkManifest_pointwise :
    let report := (s.checkManifest m).1
    List.Forall₂ (EntityReport.IsOn s.grammar s.registry) report.entities m.entities ∧
    report.InStep ∧
    (report.passed = m.entities.countP (fun e =>
        (errorKind? (e.outcome s.grammar s.registry)).isNone) ∧
      report.passed + report.failed = m.entities.length ∧
      (report.isOk = true ↔
        ∀ e ∈ m.entities, ∃ group, e.outcome s.grammar s.registry = .ok group)) ∧
    ∀ m' slot,
      let more := ({ s with slot }.checkManifest m').1
      let both := (s.checkManifest ⟨m.entities ++ m'.entities⟩).1
      both.entities = report.entities ++ more.entities ∧
        both.passed = report.passed + more.passed ∧ both.failed = report.failed + more.failed := by
  refine ⟨isOn_checkManifest s m, inStep_checkManifest s m, ⟨?_, ?_, isOk_checkManifest_iff s m⟩,
    fun m' slot => ?_⟩
  · rw [(inStep_checkManifest s m).passed_eq, entities_checkManifest, List.countP_map]
    rfl
  · rw [(inStep_checkManifest s m).passed_add_failed, entities_checkManifest, List.length_map]
  · have hboth : (s.checkManifest ⟨m.entities ++ m'.entities⟩).1.entities =
        (s.checkManifest m).1.entities ++ ({ s with slot }.checkManifest m').1.entities := by
      simp only [entities_checkManifest, List.map_append]
    exact ⟨hboth, (inStep_checkManifest s m).counters_of_append (inStep_checkManifest _ m')
      (inStep_checkManifest s _) hboth⟩

end Session

end EntityProps
