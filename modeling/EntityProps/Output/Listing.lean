import EntityProps.Output.Format
import EntityProps.Output.Paint
import EntityProps.Registry

/-!
# Showing rules

A listing shows a line for each registered rule, in the order of search.
-/

namespace EntityProps.Output

def sortWord (complex : Bool) : String :=
  if complex then "complex" else "simple"

def ruleLine (colored : Bool) (r : RuleInfo) : String :=
  let origin := match r.origin with
    | .native => Paint.yellow.apply colored r.origin.name
    | .user => Paint.plain.apply colored r.origin.name
  let description := if r.label.description.isEmpty then "" else " - " ++ r.label.description
  Paint.cyan.apply colored r.label.name ++ " [" ++ origin ++ ", " ++ sortWord r.complex ++ "]" ++
    description ++ "\n"

def ruleData (r : RuleInfo) : Data :=
  .table [("name", .str r.label.name), ("description", .str r.label.description),
    ("complex", .bool r.complex), ("origin", .str r.origin.name)]

def formatRules (format : Format) (colored : Bool) (rules : List RuleInfo) : String :=
  format.render (String.join (rules.map (ruleLine colored))) (.list (rules.map ruleData))

end EntityProps.Output
