import EntityProps.Output.Group
import EntityProps.Report

/-!
# Showing reports

A report shows a line for each entity that passed, two for each that failed,
and at the end how many there are of either.
-/

namespace EntityProps.Output

def kindWord : Option Kind → String
  | some kind => kind.name
  | none => "?"

def entityText (colored : Bool) (r : EntityReport) : String :=
  let subject := Paint.cyan.apply colored r.name ++ " (" ++ kindWord r.kind ++ ")"
  -- Whether an entity passed is read off its properties here, and off the counter in the summary.
  match r.properties with
  | some g =>
    Paint.green.apply colored "OK" ++ " " ++ subject ++ " " ++
      Paint.dimmed.apply colored g.text ++ "\n"
  | none =>
    Paint.red.apply colored "ERROR" ++ " " ++ subject ++ " - " ++ r.error.getD "" ++ " (" ++
      Paint.dimmed.apply colored (ErrorKind.outcomeCode r.errorKind) ++ ")\n  " ++
      Paint.dimmed.apply colored "annotation:" ++ " " ++ r.text ++ "\n"

def summary (colored : Bool) (r : Report) : String :=
  if 0 < r.failed then
    toString r.entities.length ++ " entities, " ++
      Paint.red.apply colored (toString r.failed) ++ " failed\n"
  else
    Paint.green.apply colored "OK" ++ " " ++ toString r.passed ++ " entities parsed\n"

def reportText (colored : Bool) (r : Report) : String :=
  String.join (r.entities.map (entityText colored)) ++ "\n" ++ summary colored r

def kindData : Option Kind → Data
  | some kind => .str kind.name
  | none => .null

/-- An entity of a report as a tree. Properties and the error are left out if there are none. -/
def entityData (r : EntityReport) : Data :=
  .table ([("name", .str r.name), ("kind", kindData r.kind), ("annotation", .str r.text)] ++
    optionalEntry "properties" (r.properties.map groupData) ++
    [("error_kind", .str (ErrorKind.outcomeCode r.errorKind))] ++
    optionalEntry "error" (r.error.map .str))

def reportData (r : Report) : Data :=
  .table [("entities", .list (r.entities.map entityData)), ("passed", .nat r.passed),
    ("failed", .nat r.failed)]

def formatReport (format : Format) (colored : Bool) (r : Report) : String :=
  format.render (reportText colored r) (reportData r)

end EntityProps.Output
