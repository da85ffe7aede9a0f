import EntityProps.Manifest
import EntityProps.Parser

/-!
# Reports

The entities of a manifest are parsed one after another in one session. The
report has one part per entity, in the order of the manifest, and a failure of
one entity does not touch the others.

A part keeps what came of its entity in three fields, and the report counts its
parts while they are added.
-/

namespace EntityProps

structure EntityReport where
  name : String
  /-- The kind that was given or that the marker showed. -/
  kind : Option Kind
  /-- The annotation as it was given. -/
  text : String
  properties : Option BoundGroup
  errorKind : Option ErrorKind
  /-- The message of the error. -/
  error : Option String

def EntityReport.isOk (r : EntityReport) : Bool :=
  r.errorKind.isNone

structure Report where
  entities : List EntityReport := []
  /-- Number of entities whose annotations were parsed. -/
  passed : Nat := 0
  /-- Number of entities whose annotations were rejected. -/
  failed : Nat := 0

namespace Report

/-- Adds the report on an entity and counts it. -/
def push (b : Report) (r : EntityReport) : Report :=
  if r.isOk then { b with entities := b.entities ++ [r], passed := b.passed + 1 }
  else { b with entities := b.entities ++ [r], failed := b.failed + 1 }

def isOk (b : Report) : Bool :=
  b.failed == 0

end Report

namespace Session

/-- What is expected of an annotation whose entity has no kind. -/
def anyMarker : String := "a known entity marker"

/-- Parses the annotation of an entity with an empty slot. Without a kind there is nothing to
parse, and the slot stays empty. -/
def check (s : Session) (e : Entity) : EntityReport × Session :=
  let s := s.clean
  let kind := e.kind.or (Kind.ofMarker? e.text)
  let (outcome, s) :=
    match kind with
    | some k => s.parse k e.text
    | none => (.error (.wrongMarker anyMarker), s)
  -- The three records on success are written here, and only here.
  match outcome with
  | .ok g =>
    ({ name := e.name, kind, text := e.text, properties := some g, errorKind := none,
       error := none }, s)
  | .error err =>
    ({ name := e.name, kind, text := e.text, properties := none, errorKind := some err.kind,
       error := some err.message }, s)

def checkAll (s : Session) (b : Report) : List Entity → Report × Session
  | [] => (b, s)
  | e :: es =>
    let (r, s) := s.check e
    s.checkAll (b.push r) es

def checkManifest (s : Session) (m : Manifest) : Report × Session :=
  s.checkAll {} m.entities

end Session

end EntityProps
