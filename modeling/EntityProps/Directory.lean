/-!
# Directories

A directory holds text files under paths; every proper start of a path is a
directory too. A path is followed name by name, and may lead up and out of the
directory. Reading and writing fail as they do in a file system.
-/

namespace EntityProps

inductive FileFault where
  | notFound
  | notDirectory
  | isDirectory
  | nameTooLong
  | denied
  | other (message : String)
deriving DecidableEq

def FileFault.message : FileFault → String
  | notFound => "No such file or directory (os error 2)"
  | notDirectory => "Not a directory (os error 20)"
  | isDirectory => "Is a directory (os error 21)"
  | nameTooLong => "File name too long (os error 36)"
  | denied => "Permission denied (os error 13)"
  | other message => message

inductive FileState where
  | text (content : String)
  /-- A file that cannot be read as text. -/
  | unreadable (fault : FileFault)
  /-- Nothing, or something else than a file. -/
  | noFile (fault : FileFault)

abbrev Files := String → FileState

namespace FileState

def isFile : FileState → Bool
  | noFile _ => false
  | _ => true

def content : FileState → Except FileFault String
  | text content => .ok content
  | unreadable fault => .error fault
  | noFile fault => .error fault

end FileState

/-- Where a path leads: the names from the directory down. A way up is a step `..`, and a place that
does not depend on the directory starts with `/`. -/
abbrev Place := List String

/-- Text files by place, and what is around the directory. -/
structure Directory where
  files : List (Place × String) := []
  /-- The directories found at the root. -/
  roots : List String :=
    ["bin", "boot", "dev", "etc", "home", "lib", "media", "mnt", "opt", "proc", "root", "run",
      "sbin", "srv", "sys", "tmp", "usr", "var"]
  /-- Places at or below which no file may be written. -/
  sealed : List Place := []

namespace Directory

def nameLimit : Nat := 255

def pathLimit : Nat := 4096

/-! ## Paths -/

def parts : List Char → List (List Char)
  | [] => [[]]
  | c :: rest =>
    if c = '/' then [] :: parts rest
    else match parts rest with
      | part :: others => (c :: part) :: others
      | [] => [[c]]

/-- The names in a path. Slashes beside each other count once. -/
def names (path : String) : List String :=
  ((parts path.toList).filter (· ≠ [])).map String.ofList

def origin (path : String) : Place :=
  if path.toList.head? == some '/' then ["/"] else []

/-- The path ends with a slash, so it can only mean a directory. -/
def endsWithSlash (path : String) : Bool :=
  path.toList.getLast? == some '/'

/-- The name is `.` or `..`, which every directory has. -/
def isDots (name : String) : Bool :=
  name == "." || name == ".."

/-- The directory around a place. The root is its own. -/
def above (place : Place) : Place :=
  match place.getLast? with
  | none => [".."]
  | some ".." => place ++ [".."]
  | some "/" => place
  | some _ => place.dropLast

/-! ## What is at a place -/

def find? (d : Directory) (place : Place) : Option String :=
  (d.files.find? (·.1 == place)).map (·.2)

/-- There is a directory at the place, whatever files there are. -/
def isFixed (d : Directory) : Place → Bool
  | ["/"] => true
  | ["/", name] => d.roots.contains name
  | place => place.all (· == "..")

def isDirectory (d : Directory) (place : Place) : Bool :=
  d.isFixed place || d.files.any fun (file, _) => place.isPrefixOf file && place != file

def child (place : Place) (name : String) : Except FileFault Place :=
  if name = "." then .ok place
  else if name = ".." then .ok (above place)
  else if nameLimit < name.utf8ByteSize then .error .nameTooLong
  else .ok (place ++ [name])

def enter (d : Directory) (place : Place) (name : String) : Except FileFault Place := do
  let next ← child place name
  if d.isDirectory next then return next
  else if (d.find? next).isSome then throw .notDirectory
  else throw .notFound

def parent (d : Directory) (path : String) : Except FileFault Place :=
  if path = "" then .error .notFound
  else if pathLimit ≤ path.utf8ByteSize then .error .nameTooLong
  else (names path).dropLast.foldlM d.enter (origin path)

/-- The last name of a path. A path of slashes has none, and means the root itself. -/
def lastName (path : String) : String :=
  (names path).getLast?.getD "."

def fetch (d : Directory) (path : String) : Except FileFault String := do
  let place ← child (← d.parent path) (lastName path)
  if d.isDirectory place then throw .isDirectory
  match d.find? place with
  | some text => if endsWithSlash path then throw .notDirectory else return text
  | none => throw .notFound

def look (d : Directory) : Files := fun path =>
  match d.fetch path with
  | .ok text => .text text
  | .error fault => .noFile fault

/-! ## Writing -/

def isSealed (d : Directory) (place : Place) : Bool :=
  d.sealed.any (·.isPrefixOf place)

def put (d : Directory) (place : Place) (text : String) : Directory :=
  { d with files := (place, text) :: d.files.filter (·.1 != place) }

/-- Writes a text to a file, whose directory must be there. -/
def write (d : Directory) (path text : String) : Except FileFault Directory := do
  let around ← d.parent path
  let name := lastName path
  if isDots name || endsWithSlash path then throw .isDirectory
  let place ← child around name
  -- Of a directory it does not matter whether it is sealed.
  if d.isDirectory place then throw .isDirectory
  if d.isSealed place then throw .denied
  return d.put place text

def ofFiles (files : List (String × String)) : Directory :=
  { files := files.map fun (name, text) => (names name, text) }

end Directory

end EntityProps
