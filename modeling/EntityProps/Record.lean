import EntityProps.Data
import EntityProps.Grammar

/-!
# Records

A record is read from a tree: from a table by the names of its fields, or from
a list by their order. Fields that are not known are ignored, fields that are
not given keep their default, and the first field that cannot be read is the
failure of the record.
-/

namespace EntityProps

inductive DataFault where
  /-- A value is of the wrong sort or out of range, or a required one is not there. -/
  | shape
  /-- The grammar characters do not go together. -/
  | grammar (fault : GrammarFault)
deriving DecidableEq

/-- The notation a tree was written in. It decides some details of reading records. -/
inductive Dialect where
  | json
  | toml
deriving DecidableEq

namespace Dialect

/-- Puts an entry into a table that is sorted by key, in place of one with the same key. -/
def insertSorted (key : String) (d : Data) : Entries → Entries
  | [] => [(key, d)]
  | (k, x) :: rest =>
    if key < k then (key, d) :: (k, x) :: rest
    else if key = k then (key, d) :: rest
    else (k, x) :: insertSorted key d rest

/-- The entries of a table in the order in which they are read. In JSON that is the order of the
keys, and the last of several entries with one key counts; in TOML keys are given once. -/
def order : Dialect → Entries → Entries
  | json, entries => entries.foldl (fun sorted (key, d) => insertSorted key d sorted) []
  | toml, entries => entries

/-- A list may be longer than the record or the fixed row that is read from it. -/
def toleratesRest : Dialect → Bool
  | json => false
  | toml => true

/-- A tree that holds nothing, as beside the name of a variant. -/
def isNothing : Dialect → Data → Bool
  | json, .null => true
  | toml, .table [] => true
  | toml, .list [] => true
  | _, _ => false

end Dialect

namespace Data

def asText : Data → Except DataFault String
  | str s => .ok s
  | _ => .error .shape

def asChar : Data → Except DataFault Char
  | str s =>
    match s.toList with
    | [c] => .ok c
    | _ => .error .shape
  | _ => .error .shape

def asBool : Data → Except DataFault Bool
  | bool b => .ok b
  | _ => .error .shape

def asCount : Data → Except DataFault Nat
  | int n => if 0 ≤ n ∧ n < 0x10000000000000000 then .ok n.toNat else .error .shape
  | _ => .error .shape

def asOption {α : Type} (read : Data → Except DataFault α) : Data → Except DataFault (Option α)
  | null => .ok none
  | d => (read d).map some

def asList {α : Type} (read : Data → Except DataFault α) : Data → Except DataFault (List α)
  | list items => items.mapM read
  | _ => .error .shape

end Data

structure Record (α : Type) where
  /-- The fields in the order in which a list gives them. -/
  fields : List String
  /-- Fields without a default. -/
  required : List String := []
  /-- The record in which all fields have their defaults. -/
  default : α
  /-- Sets a field. Other names leave the record as it is. -/
  set : α → String → Data → Except DataFault α

namespace Record

variable {α : Type}

def fill (r : Record α) (entries : Entries) : Except DataFault α := do
  let a ← entries.foldlM (fun a (key, d) => r.set a key d) r.default
  if r.required.all fun key => entries.any (·.1 == key) then .ok a else .error .shape

/-- Reads a record. A moment is a table whose fields are not known. -/
def read (r : Record α) (dialect : Dialect) : Data → Except DataFault α
  | .table entries => r.fill (dialect.order entries)
  | .moment _ => r.fill []
  | .list items => do
    -- Items are given to the fields in order, and too few are like missing entries.
    let a ← r.fill (r.fields.zip items)
    if dialect.toleratesRest ∨ items.length ≤ r.fields.length then .ok a else .error .shape
  | _ => .error .shape

end Record

end EntityProps
