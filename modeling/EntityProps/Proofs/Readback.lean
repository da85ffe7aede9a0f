import EntityProps.Output.Report
import EntityProps.Proofs.Json.Trees
import EntityProps.Proofs.Reports

/-!
# Reading reports back

A program that is given the JSON text of a report or of a group reads from it all that
is shown there (`Output.json_faithful`): names, kinds, annotations, outcomes and
counters. The layout of the text makes no difference, and neither do the characters
that names, annotations and messages are made of.

What a program reads is looked up by key (`Output.readReport?`, `Output.readGroup?`). Of
the report on a manifest it reads what the entities themselves come to
(`Output.shownManifest`): either properties, or a kind of error with its message, never
both.
-/

namespace EntityProps.Output

open Json (IsExact)

/-! ## What is shown -/

/-- What is shown of a group: rules stand in it by their names. -/
abbrev ShownGroup := PropertyGroup String String

def shownGroup (g : BoundGroup) : ShownGroup :=
  g.map (·.label.name) (·.label.name)

/-- What is shown of an entity. -/
structure ShownEntity where
  name : String
  kind : Option Kind
  text : String
  properties : Option ShownGroup
  errorKind : Option ErrorKind
  error : Option String

def shownEntity (r : EntityReport) : ShownEntity where
  name := r.name
  kind := r.kind
  text := r.text
  properties := r.properties.map shownGroup
  errorKind := r.errorKind
  error := r.error

/-- What is shown of a report. -/
structure ShownReport where
  entities : List ShownEntity
  passed : Nat
  failed : Nat

def shownReport (r : Report) : ShownReport where
  entities := r.entities.map shownEntity
  passed := r.passed
  failed := r.failed

/-- What an entity with this outcome has to be shown as: with its properties and no error, or with
the kind and the message of its error and no properties. -/
def shownOutcome (e : Entity) : Except ParseError BoundGroup → ShownEntity
  | .ok g =>
    { name := e.name, kind := e.kind?, text := e.text, properties := some (shownGroup g),
      errorKind := none, error := none }
  | .error err =>
    { name := e.name, kind := e.kind?, text := e.text, properties := none,
      errorKind := some err.kind, error := some err.message }

/-- What a manifest has to be shown as, by the outcomes of its entities. -/
def shownManifest (g : Grammar) (reg : Registry) (m : Manifest) : ShownReport where
  entities := m.entities.map fun e => shownOutcome e (e.outcome g reg)
  passed := m.entities.countP fun e => (errorKind? (e.outcome g reg)).isNone
  failed := m.entities.countP fun e => (errorKind? (e.outcome g reg)).isSome

theorem shownEntity_report (g : Grammar) (reg : Registry) (e : Entity) :
    shownEntity (e.report g reg) = shownOutcome e (e.outcome g reg) := by
  rw [shownEntity, Entity.report]
  cases e.outcome g reg <;> rfl

theorem shownReport_checkManifest (s : Session) (m : Manifest) :
    shownReport (s.checkManifest m).1 = shownManifest s.grammar s.registry m := by
  have hstep := s.inStep_checkManifest m
  have hentities := s.entities_checkManifest m
  rw [shownReport, hstep.passed_eq, hstep.failed_eq, hentities, List.map_map, List.countP_map,
    List.countP_map, shownManifest]
  congr 1
  · exact List.map_congr_left fun e _ => shownEntity_report s.grammar s.registry e
  · refine List.countP_congr fun e _ => ?_
    simp [EntityReport.isOk, Entity.report]

/-! ## What is read -/

def readString? : Data → Option String
  | .str s => some s
  | _ => none

def readCount? : Data → Option Nat
  | .int n => n.toNat?
  | _ => none

def readList? {α : Type} (read : Data → Option α) : Data → Option (List α)
  | .list items => items.mapM read
  | _ => none

/-- A kind by its name, or that there is none. -/
def readKind? : Data → Option (Option Kind)
  | .null => some none
  | .str name => (Kind.ofName? name).map some
  | _ => none

def errorKindOf? (code : String) : Option ErrorKind :=
  ErrorKind.all.find? (·.code == code)

def readErrorKind? : Data → Option (Option ErrorKind)
  | .str code =>
    if code = ErrorKind.outcomeCode none then some none else (errorKindOf? code).map some
  | _ => none

/-- Reads the value of a key that has to be there. -/
def readField? {α : Type} (read : Data → Option α) (d : Data) (key : String) : Option α :=
  (d.get? key).bind read

/-- Reads the value of a key that may be left out. -/
def readOptional? {α : Type} (read : Data → Option α) (d : Data) (key : String) :
    Option (Option α) :=
  match d.get? key with
  | some x => (read x).map some
  | none => some none

def readSimple? (d : Data) : Option (SimpleProperty String) := do
  let name ← readField? readString? d "name"
  let rule ← readField? readString? d "rule"
  some ⟨name, rule⟩

def readComplex? (d : Data) : Option (ComplexProperty String) := do
  let name ← readField? readString? d "name"
  let subs ← readField? (readList? readString?) d "sub_properties"
  let rule ← readField? readString? d "rule"
  some ⟨name, subs, rule⟩

def readGroup? (d : Data) : Option ShownGroup := do
  let simple ← readField? (readList? readSimple?) d "simple_properties"
  let complex ← readField? (readList? readComplex?) d "complex_properties"
  some ⟨simple, complex⟩

def readEntity? (d : Data) : Option ShownEntity := do
  let name ← readField? readString? d "name"
  let kind ← readField? readKind? d "kind"
  let text ← readField? readString? d "annotation"
  let properties ← readOptional? readGroup? d "properties"
  let errorKind ← readField? readErrorKind? d "error_kind"
  let error ← readOptional? readString? d "error"
  some ⟨name, kind, text, properties, errorKind, error⟩

def readReport? (d : Data) : Option ShownReport := do
  let entities ← readField? (readList? readEntity?) d "entities"
  let passed ← readField? readCount? d "passed"
  let failed ← readField? readCount? d "failed"
  some ⟨entities, passed, failed⟩

/-! ## The trees of groups -/

theorem isExact_groupData (g : BoundGroup) : IsExact (groupData g) := by
  have hsimple : ∀ p, IsExact (simpleData p) := fun p =>
    .cons (.str p.name) (.cons (.str p.rule.label.name) .nil)
  have hcomplex : ∀ p, IsExact (complexData p) := fun p =>
    .cons (.str p.name) (.cons (.map .str p.subs) (.cons (.str p.rule.label.name) .nil))
  exact .cons (.map hsimple g.simple) (.cons (.map hcomplex g.complex) .nil)

/-- What stands for values is read back as what is shown of them, one by one. -/
theorem readList?_map {α β : Type} {read : Data → Option β} {write : α → Data} {shown : α → β}
    (h : ∀ a, read (write a) = some (shown a)) (as : List α) :
    readList? read (.list (as.map write)) = some (as.map shown) := by
  rw [readList?, List.mapM_map]
  have hread : read ∘ write = fun a => some (shown a) := funext h
  rw [hread]
  exact List.mapM_pure

theorem readList?_texts (items : List String) :
    readList? readString? (.texts items) = some items := by
  have hread : ∀ s, readString? (.str s) = some (id s) := fun _ => rfl
  rw [Data.texts, readList?_map hread, List.map_id]

theorem readSimple?_simpleData (p : SimpleProperty SimpleRule) :
    readSimple? (simpleData p) = some ⟨p.name, p.rule.label.name⟩ :=
  rfl

theorem readComplex?_complexData (p : ComplexProperty ComplexRule) :
    readComplex? (complexData p) = some ⟨p.name, p.subs, p.rule.label.name⟩ := by
  have hsubs : readField? (readList? readString?) (complexData p) "sub_properties" = some p.subs :=
    readList?_texts p.subs
  rw [readComplex?, hsubs]
  rfl

theorem readGroup?_groupData (g : BoundGroup) : readGroup? (groupData g) = some (shownGroup g) := by
  have hsimple : readField? (readList? readSimple?) (groupData g) "simple_properties" =
      some (shownGroup g).simple := readList?_map readSimple?_simpleData g.simple
  have hcomplex : readField? (readList? readComplex?) (groupData g) "complex_properties" =
      some (shownGroup g).complex := readList?_map readComplex?_complexData g.complex
  rw [readGroup?, hsimple, hcomplex]
  rfl

/-! ## The trees of reports -/

theorem isExact_optionalEntry {key : String} {d? : Option Data} (h : ∀ d ∈ d?, IsExact d) :
    IsExact (.table (optionalEntry key d?)) := by
  cases d? with
  | none => exact .nil
  | some d => exact .cons (h d rfl) .nil

theorem isExact_kindData (kind : Option Kind) : IsExact (kindData kind) := by
  cases kind with
  | none => exact .null
  | some kind => exact .str kind.name

theorem isExact_entityData (r : EntityReport) : IsExact (entityData r) := by
  have hproperties : ∀ d ∈ r.properties.map groupData, IsExact d := by
    intro d hd
    obtain ⟨g, -, rfl⟩ := Option.map_eq_some_iff.mp hd
    exact isExact_groupData g
  have herror : ∀ d ∈ r.error.map Data.str, IsExact d := by
    intro d hd
    obtain ⟨text, -, rfl⟩ := Option.map_eq_some_iff.mp hd
    exact .str text
  have hfront : IsExact (.table [("name", .str r.name), ("kind", kindData r.kind),
      ("annotation", .str r.text)]) :=
    .cons (.str r.name) (.cons (isExact_kindData r.kind) (.cons (.str r.text) .nil))
  exact ((hfront.append (isExact_optionalEntry hproperties)).append (.cons (.str _) .nil)).append
    (isExact_optionalEntry herror)

theorem isExact_reportData (r : Report) : IsExact (reportData r) :=
  .cons (.map isExact_entityData r.entities) (.cons (.int _) (.cons (.int _) .nil))

theorem code_ne_outcomeCode_none (kind : ErrorKind) :
    kind.code ≠ ErrorKind.outcomeCode none := by
  cases kind <;> decide

theorem errorKindOf?_code (kind : ErrorKind) : errorKindOf? kind.code = some kind := by
  cases kind <;> decide

theorem ofName?_name (kind : Kind) : Kind.ofName? kind.name = some kind := by
  cases kind <;> decide

theorem readKind?_kindData (kind : Option Kind) : readKind? (kindData kind) = some kind := by
  cases kind with
  | none => rfl
  | some kind => rw [kindData, readKind?, ofName?_name, Option.map_some]

theorem readErrorKind?_outcomeCode (kind : Option ErrorKind) :
    readErrorKind? (.str (ErrorKind.outcomeCode kind)) = some kind := by
  cases kind with
  | none => rfl
  | some kind =>
    have hcode : ErrorKind.outcomeCode (some kind) = kind.code := rfl
    rw [readErrorKind?, hcode, if_neg (code_ne_outcomeCode_none kind), errorKindOf?_code, Option.map_some]

/-- A value that is left out is read as left out. -/
theorem readOptional?_eq_map {α β : Type} {read : Data → Option β} {write : α → Data} {shown : α → β}
    (h : ∀ a, read (write a) = some (shown a)) {d : Data} {key : String} {a? : Option α}
    (hget : d.get? key = a?.map write) : readOptional? read d key = some (a?.map shown) := by
  rw [readOptional?, hget]
  cases a? with
  | none => rfl
  | some a => simp [h]

theorem get?_properties_entityData (r : EntityReport) :
    (entityData r).get? "properties" = r.properties.map groupData := by
  obtain ⟨name, kind, text, properties, errorKind, error⟩ := r
  cases properties <;> cases error <;> rfl

theorem get?_error_entityData (r : EntityReport) :
    (entityData r).get? "error" = r.error.map .str := by
  obtain ⟨name, kind, text, properties, errorKind, error⟩ := r
  cases properties <;> cases error <;> rfl

/-- The keys that are always there are found, whichever of the others are left out. -/
theorem get?_entityData (r : EntityReport) :
    (entityData r).get? "name" = some (.str r.name) ∧
      (entityData r).get? "kind" = some (kindData r.kind) ∧
      (entityData r).get? "annotation" = some (.str r.text) ∧
      (entityData r).get? "error_kind" = some (.str (ErrorKind.outcomeCode r.errorKind)) := by
  obtain ⟨name, kind, text, properties, errorKind, error⟩ := r
  cases properties <;> cases error <;> exact ⟨rfl, rfl, rfl, rfl⟩

theorem readEntity?_entityData (r : EntityReport) :
    readEntity? (entityData r) = some (shownEntity r) := by
  obtain ⟨hname, hkind, htext, hcode⟩ := get?_entityData r
  have hproperties : readOptional? readGroup? (entityData r) "properties" =
      some (shownEntity r).properties :=
    readOptional?_eq_map readGroup?_groupData (get?_properties_entityData r)
  have hstr : ∀ s, readString? (.str s) = some (id s) := fun _ => rfl
  have herror : readOptional? readString? (entityData r) "error" = some (r.error.map id) :=
    readOptional?_eq_map hstr (get?_error_entityData r)
  rw [readEntity?, hproperties, herror]
  simp only [readField?, hname, hkind, htext, hcode, Option.bind_some, readKind?_kindData,
    readErrorKind?_outcomeCode, Option.map_id]
  rfl

theorem readReport?_reportData (r : Report) :
    readReport? (reportData r) = some (shownReport r) := by
  have hentities : readField? (readList? readEntity?) (reportData r) "entities" =
      some (r.entities.map shownEntity) := readList?_map readEntity?_entityData r.entities
  have hpassed : readField? readCount? (reportData r) "passed" = some r.passed := rfl
  have hfailed : readField? readCount? (reportData r) "failed" = some r.failed := rfl
  rw [readReport?, hentities, hpassed, hfailed]
  rfl

/-! ## JSON texts -/

theorem Format.read?_render {d : Data} (hd : IsExact d) {format : Format} (h : format ≠ .text)
    (text : String) : Json.read? (format.render text d) = some d := by
  cases format with
  | text => exact absurd rfl h
  | json => exact Json.read?_write hd .compact
  | jsonPretty => exact Json.read?_write hd .indented

/-- **JSON reports are faithful.** Both JSON texts of a report are read as one tree, and all that
is shown is read from this tree: the entities in order with their names, kinds and annotations,
their properties, error kinds and messages as far as they have any, and both counters. Of the
report on a manifest these are the properties of just those entities that are parsed, the kinds and
messages of the errors of just the others, and how many there are of either. Reports with the same
JSON text agree in all of this. The same holds of groups. -/
theorem json_faithful :
    (∀ (r : Report) (colored : Bool), ∃ d,
      Json.read? (formatReport .json colored r) = some d ∧
        Json.read? (formatReport .jsonPretty colored r) = some d ∧
        readReport? d = some (shownReport r)) ∧
    (∀ (s : Session) (m : Manifest),
      shownReport (s.checkManifest m).1 = shownManifest s.grammar s.registry m) ∧
    (∀ (r r' : Report) (colored colored' : Bool) (format : Format), format ≠ .text →
      formatReport format colored r = formatReport format colored' r' →
        shownReport r = shownReport r') ∧
    (∀ (g : BoundGroup) (colored : Bool), ∃ d,
      Json.read? (formatGroup .json colored g) = some d ∧
        Json.read? (formatGroup .jsonPretty colored g) = some d ∧
        readGroup? d = some (shownGroup g)) ∧
    (∀ (g g' : BoundGroup) (colored colored' : Bool) (format : Format), format ≠ .text →
      formatGroup format colored g = formatGroup format colored' g' →
        shownGroup g = shownGroup g') := by
  have hreport : ∀ (r : Report) (colored : Bool) {format : Format}, format ≠ .text →
      Json.read? (formatReport format colored r) = some (reportData r) :=
    fun r colored _ h => Format.read?_render (isExact_reportData r) h (reportText colored r)
  have hgroup : ∀ (g : BoundGroup) (colored : Bool) {format : Format}, format ≠ .text →
      Json.read? (formatGroup format colored g) = some (groupData g) :=
    fun g colored _ h => Format.read?_render (isExact_groupData g) h (groupText colored g)
  refine ⟨fun r colored => ⟨reportData r, hreport r colored nofun, hreport r colored nofun,
    readReport?_reportData r⟩, shownReport_checkManifest, ?_, fun g colored => ⟨groupData g, hgroup g colored nofun,
    hgroup g colored nofun, readGroup?_groupData g⟩, ?_⟩
  · intro r r' colored colored' format hformat heq
    have hdata : reportData r = reportData r' := by
      rw [← Option.some.injEq, ← hreport r colored hformat, ← hreport r' colored' hformat, heq]
    rw [← Option.some.injEq, ← readReport?_reportData r, ← readReport?_reportData r', hdata]
  · intro g g' colored colored' format hformat heq
    have hdata : groupData g = groupData g' := by
      rw [← Option.some.injEq, ← hgroup g colored hformat, ← hgroup g' colored' hformat, heq]
    rw [← Option.some.injEq, ← readGroup?_groupData g, ← readGroup?_groupData g', hdata]

end EntityProps.Output
