import EntityProps.Output.Format
import EntityProps.Output.Paint
import EntityProps.Rule

/-!
# Showing property groups

A group shows a line for each property, numbered within its sort, with the name
of the rule that the property is bound to.
-/

namespace EntityProps.Output

def ruleNote (colored : Bool) (rule : String) : String :=
  Paint.dimmed.apply colored ("rule: " ++ rule)

def indexMark (index : Nat) : String :=
  "  [" ++ toString index ++ "] "

def simpleLine (colored : Bool) (p : SimpleProperty SimpleRule) (index : Nat) : String :=
  indexMark index ++ Paint.cyan.apply colored p.name ++ " " ++
    ruleNote colored p.rule.label.name ++ "\n"

def complexLine (colored : Bool) (p : ComplexProperty ComplexRule) (index : Nat) : String :=
  indexMark index ++ Paint.cyan.apply colored p.name ++ "(" ++ ", ".intercalate p.subs ++ ") " ++
    ruleNote colored p.rule.label.name ++ "\n"

def groupText (colored : Bool) (g : BoundGroup) : String :=
  if g.isEmpty then Paint.dimmed.apply colored "(no properties)" ++ "\n"
  else
    String.join (g.simple.zipIdx.map fun (p, index) => simpleLine colored p index) ++
      String.join (g.complex.zipIdx.map fun (p, index) => complexLine colored p index)

def simpleData (p : SimpleProperty SimpleRule) : Data :=
  .table [("name", .str p.name), ("rule", .str p.rule.label.name)]

def complexData (p : ComplexProperty ComplexRule) : Data :=
  .table [("name", .str p.name), ("sub_properties", .texts p.subs),
    ("rule", .str p.rule.label.name)]

def groupData (g : BoundGroup) : Data :=
  .table [("simple_properties", .list (g.simple.map simpleData)),
    ("complex_properties", .list (g.complex.map complexData))]

def formatGroup (format : Format) (colored : Bool) (g : BoundGroup) : String :=
  format.render (groupText colored g) (groupData g)

end EntityProps.Output
