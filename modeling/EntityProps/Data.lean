/-!
# Trees of data

What a settings file, a manifest or a report holds before it is given a
meaning: scalars, lists, and tables whose entries keep their order.
-/

namespace EntityProps

inductive Data where
  | null
  | bool (value : Bool)
  | int (value : Int)
  /-- A number with a fraction or an exponent, by its text. -/
  | float (text : String)
  /-- A date or a time, by its text. -/
  | moment (text : String)
  | str (value : String)
  | list (items : List Data)
  | table (entries : List (String × Data))

/-- The members of a table in source order. -/
abbrev Entries := List (String × Data)

namespace Data

def texts (items : List String) : Data :=
  .list (items.map .str)

def nat (n : Nat) : Data :=
  .int n

/-- The value of the last entry with this key. -/
def get? (d : Data) (key : String) : Option Data :=
  match d with
  | table entries => (entries.reverse.find? (·.1 == key)).map (·.2)
  | _ => none

end Data

def optionalEntry (key : String) : Option Data → Entries
  | some d => [(key, d)]
  | none => []

end EntityProps
