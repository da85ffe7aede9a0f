import EntityProps.Registry
import EntityProps.Text.Numeral
import EntityProps.Text.Unprintable

/-!
# Inspecting values

For diagnostics a value is shown by the name of its type and its fields, on one
line or with one field a line.
-/

namespace EntityProps.Output

/-- What diagnostics show of a value. -/
inductive Inspection where
  | atom (text : String)
  | list (items : List Inspection)
  | record (name : String) (fields : List (String × Inspection))

namespace Inspection

def escape (c : Char) : List Char :=
  if c = '\x00' then ['\\', '0']
  else if c = '\t' then ['\\', 't']
  else if c = '\r' then ['\\', 'r']
  else if c = '\n' then ['\\', 'n']
  else if c = '\\' then ['\\', '\\']
  else if c = '"' then ['\\', '"']
  else if Text.isUnprintable c then
    '\\' :: 'u' :: '\x7b' :: Text.numeral 16 c.toNat ++ ['\x7d']
  else [c]

def quoted (text : String) : Inspection :=
  .atom (String.ofList ('"' :: text.toList.flatMap escape ++ ['"']))

def nat (n : Nat) : Inspection :=
  .atom (toString n)

mutual

def oneLine : Inspection → String
  | .atom text => text
  | .list items => "[" ++ ", ".intercalate (lineOfItems items) ++ "]"
  | .record name [] => name
  | .record name (f :: fs) =>
    name ++ " \x7b " ++ ", ".intercalate (lineOfFields (f :: fs)) ++ " \x7d"

def lineOfItems : List Inspection → List String
  | [] => []
  | x :: xs => x.oneLine :: lineOfItems xs

def lineOfFields : List (String × Inspection) → List String
  | [] => []
  | (field, x) :: fs => (field ++ ": " ++ x.oneLine) :: lineOfFields fs

end

def indent (depth : Nat) : String :=
  String.ofList (List.replicate (4 * depth) ' ')

mutual

/-- A value with its members on lines of their own, one level below this depth. -/
def indented (depth : Nat) : Inspection → String
  | .atom text => text
  | .list [] => "[]"
  | .list (x :: xs) => "[\n" ++ linesOfItems (depth + 1) (x :: xs) ++ indent depth ++ "]"
  | .record name [] => name
  | .record name (f :: fs) =>
    name ++ " \x7b\n" ++ linesOfFields (depth + 1) (f :: fs) ++ indent depth ++ "\x7d"

def linesOfItems (depth : Nat) : List Inspection → String
  | [] => ""
  | x :: xs => indent depth ++ x.indented depth ++ ",\n" ++ linesOfItems depth xs

def linesOfFields (depth : Nat) : List (String × Inspection) → String
  | [] => ""
  | (field, x) :: fs =>
    indent depth ++ field ++ ": " ++ x.indented depth ++ ",\n" ++ linesOfFields depth fs

end

end Inspection

open Inspection in
/-- What diagnostics show of a group. A rule is shown by its name. -/
def inspectGroup (g : BoundGroup) : Inspection :=
  .record "PropertyGroup"
    [("simple_properties", .list (g.simple.map fun p =>
        .record "SimpleProperty"
          [("name", quoted p.name), ("rule", quoted p.rule.label.name)])),
     ("complex_properties", .list (g.complex.map fun p =>
        .record "ComplexProperty"
          [("name", quoted p.name), ("sub_properties", .list (p.subs.map quoted)),
           ("rule", quoted p.rule.label.name)]))]

/-- What diagnostics show of a registry: how many rules there are of each sort. -/
def inspectRegistry (r : Registry) : Inspection :=
  .record "RuleRegistry"
    [("simple_rules", .nat r.simpleCount), ("complex_rules", .nat r.complexCount)]

end EntityProps.Output
