import EntityProps.Text.Property
import EntityProps.Text.Script

/-!
# Names of properties

Properties, categories and scripts are looked up by name. Letter case, spaces,
hyphens and underscores do not count, nor does a leading `is`.
-/

namespace EntityProps.Text

/-- The part of a name after a leading `is`, if it has one. -/
def afterIs? : List Char → Option (List Char)
  | i :: s :: rest => if i.toLower = 'i' ∧ s.toLower = 's' then some rest else none
  | _ => none

/-- What counts of the letters of a name. -/
def looseLetters (name : List Char) : List Char :=
  (name.filter fun c => c.toNat < 128 && c != ' ' && c != '_' && c != '-').map Char.toLower

/-- The form in which names are compared. The name `isc` keeps its first letters, since it is not
meant as the category `c`. -/
def looseName (name : List Char) : List Char :=
  match afterIs? name with
  | some rest => if looseLetters rest = ['c'] then ['i', 's', 'c'] else looseLetters rest
  | none => looseLetters name

def hasName (loose : List Char) (names : List String) : Bool :=
  names.any fun name => looseName name.toList == loose

/-- The first set that has a name of the given loose form. -/
def findNamed? (sets : List NamedRanges) (loose : List Char) : Option Ranges :=
  (sets.find? fun s => hasName loose s.names).map (·.ranges)

def categoryNamed? (loose : List Char) : Option Ranges :=
  findNamed? (Category.all ++ Category.groups) loose

/-- Loose names that mean a category although a property has them too. -/
def categoryFirst : List String :=
  ["cf", "lc", "sc"]

/-- The set that a name without a value stands for: a property, a category or a script. -/
def setNamed? (name : List Char) : Option Ranges :=
  let loose := looseName name
  let property := (Property.all.find? fun p => hasName loose p.names).map (·.ranges)
  let other := (categoryNamed? loose).or (findNamed? Script.all loose)
  if categoryFirst.contains (String.ofList loose) then other else property.or other

def setValued? (property value : List Char) : Option Ranges :=
  match String.ofList (looseName property) with
  | "gc" | "generalcategory" => categoryNamed? (looseName value)
  | "sc" | "script" => findNamed? Script.all (looseName value)
  | "scx" | "scriptextensions" => findNamed? Script.extended (looseName value)
  | _ => none

end EntityProps.Text
