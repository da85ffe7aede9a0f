import EntityProps.Config.Schema
import EntityProps.Directory

/-!
# Configuration files

A configuration is kept in a TOML file. Saving one either leaves a file from
which the same configuration can be loaded, or leaves the directory as it was.
-/

namespace EntityProps

inductive LoadFault where
  | unreadable (path : String) (fault : FileFault)
  | data (fault : DataFault)
deriving DecidableEq

def LoadFault.message : LoadFault → String
  | unreadable path fault => "Failed to read file " ++ path ++ ": " ++ fault.message
  | data _ => "Invalid TOML"

def loadText (files : Files) (path : String) : Except LoadFault String :=
  (files path).content.mapError (.unreadable path)

inductive SaveFault where
  /-- A bound does not fit in a signed integer of 64 bits. -/
  | bounds
  | unwritable (fault : FileFault)
deriving DecidableEq

def SaveFault.message : SaveFault → String
  | bounds => "Failed to write TOML"
  | unwritable fault => "IO error: " ++ fault.message

namespace Config

def load (files : Files) (path : String) : Except LoadFault Config := do
  let text ← loadText files path
  (ofToml text).mapError .data

/-- The configuration in the named file, or else in the default file if it is there, or else the
default one. -/
def loadChosen (files : Files) (path : Option String) : Except LoadFault Config :=
  match path with
  | some path => load files path
  | none => if (files defaultFile).isFile then load files defaultFile else .ok {}

/-- Saves the configuration in a file. The text is made before the file is touched. What has been
changed before something fails stays changed. -/
def saving (c : Config) (path : String) : ExceptT SaveFault (StateM Directory) Unit := do
  let some text := c.toToml? | throw .bounds
  match (← get).write path text with
  | .ok d => set d
  | .error fault => throw (.unwritable fault)

def save (c : Config) (d : Directory) (path : String) : Except SaveFault Directory :=
  match c.saving path d with
  | (.ok (), d) => .ok d
  | (.error fault, _) => .error fault

end Config

end EntityProps
