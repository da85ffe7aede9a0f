import EntityProps.Data

/-!
# Tables under construction

A TOML document may add to a table at several places, and what may still be
added depends on how the table came about: by a header of its own, as a step of
the path of another header, or as a step of a dotted key. A table that a value
holds is finished where it stands.
-/

namespace EntityProps.Toml

/-- How a table came about. -/
inductive Standing where
  /-- It is the root, has a header of its own, or is an element of an array of tables. -/
  | stated
  /-- It is a step of the path of a header. -/
  | implied
  /-- It is a step of a dotted key. -/
  | dotted
deriving DecidableEq

/-- What a key of a table under construction leads to. -/
inductive Node where
  | value (d : Data)
  | table (standing : Standing) (members : List (String × Node))
  /-- An array of tables. -/
  | tables (elements : List (List (String × Node)))

/-- Members of a table under construction, in the order in which they were added. -/
abbrev Members := List (String × Node)

/-- A key with the path of the table that holds it. -/
structure Key where
  path : List String
  last : String

namespace Members

def find? : Members → String → Option Node
  | [], _ => none
  | (k, n) :: rest, key => if k = key then some n else find? rest key

/-- The members without this key. -/
def erase (m : Members) (key : String) : Members :=
  m.filter (·.1 != key)

/-- Puts a node in the place of the one that the key leads to, or at the end. -/
def put : Members → String → Node → Members
  | [], key, n => [(key, n)]
  | (k, x) :: rest, key, n => if k = key then (key, n) :: rest else (k, x) :: put rest key n

/-- Changes the last of some tables. -/
def changeLast (change : Members → Option Members) : List Members → Option (List Members)
  | [] => none
  | [m] => (change m).map ([·])
  | m :: rest => (changeLast change rest).map (m :: ·)

/-- Changes the table that a path leads to, and makes the tables that are missing on the way. Of
an array of tables the last one is meant. A dotted key does not lead through a stated table. -/
def within (made : Standing) (change : Standing → Members → Option Members) :
    List String → Standing → Members → Option Members
  | [], standing, m => change standing m
  | key :: path, _, m =>
    match m.find? key with
    | none => (within made change path made []).map fun t => m.put key (.table made t)
    | some (.value _) => none
    -- Only the last table of an array still grows.
    | some (.tables ts) =>
      (changeLast (within made change path .stated) ts).map fun ts => m.put key (.tables ts)
    | some (.table standing t) =>
      if made = .dotted ∧ standing = .stated then none
      else (within made change path standing t).map fun t => m.put key (.table standing t)

/-- Gives a key its value. A key is given once; only a dotted key adds to a table that dotted
keys have made. -/
def assign (m : Members) (key : Key) (d : Data) : Option Members :=
  within .dotted add key.path .stated m
where
  add (standing : Standing) (m : Members) : Option Members :=
    if standing = .dotted ↔ key.path = [] then none
    else if (m.find? key.last).isSome then none
    else some (m ++ [(key.last, .value d)])

/-- Gives keys their values in order. -/
def assignAll (m : Members) (pairs : List (Key × Data)) : Option Members :=
  pairs.foldlM (fun m (key, d) => m.assign key d) m

/-- Adds what stands under the header of a table. The table may have been implied by earlier
headers; it then moves to the end. -/
def addTable (m : Members) (key : Key) (pairs : List (Key × Data)) : Option Members :=
  within .implied add key.path .stated m
where
  add (_ : Standing) (m : Members) : Option Members :=
    match m.find? key.last with
    | none => (assignAll [] pairs).map fun t => m ++ [(key.last, .table .stated t)]
    | some (.table .implied t) =>
      (assignAll t pairs).map fun t => m.erase key.last ++ [(key.last, .table .stated t)]
    | some _ => none

/-- Adds what stands under the header of an element of an array of tables. -/
def addElement (m : Members) (key : Key) (pairs : List (Key × Data)) : Option Members :=
  within .implied add key.path .stated m
where
  add (_ : Standing) (m : Members) : Option Members :=
    match m.find? key.last with
    | none => (assignAll [] pairs).map fun t => m.put key.last (.tables [t])
    | some (.tables ts) => (assignAll [] pairs).map fun t => m.put key.last (.tables (ts ++ [t]))
    | some _ => none

end Members

/-! ## Finished tables -/

mutual

def Node.data : Node → Data
  | .value d => d
  | .table _ m => .table (dataOfMembers m)
  | .tables ts => .list (dataOfElements ts)

def dataOfMembers : List (String × Node) → Entries
  | [] => []
  | (key, n) :: rest => (key, n.data) :: dataOfMembers rest

def dataOfElements : List (List (String × Node)) → List Data
  | [] => []
  | t :: rest => .table (dataOfMembers t) :: dataOfElements rest

end

end EntityProps.Toml
