import EntityProps.Command.Run

/-!
# The command line

Reads the files that an invocation names, runs it on what they hold, and shows
the outcome.
-/

namespace EntityProps

def FileFault.ofError : IO.Error → FileFault
  | .noFileOrDirectory .. => .notFound
  | .noSuchThing .. => .notFound
  | .inappropriateType .. => .isDirectory
  | e => .other (toString e)

def lookAt (path : String) : IO FileState := do
  try
    return .text (← IO.FS.readFile path)
  catch e =>
    match FileFault.ofError e with
    | .other message => return .unreadable (.other message)
    | fault => return .noFile fault

def saveTo (path : String) (config : Config) : IO (Option SaveFault) := do
  match config.toToml? with
  | none => return some .bounds
  | some text =>
    try
      IO.FS.writeFile path text
      return none
    catch e => return some (.unwritable (.ofError e))

namespace Command

def Invocation.reads (i : Invocation) : List String :=
  let manifest := match i.action with
    | .check path _ => [path]
    | _ => []
  i.config.getD Config.defaultFile :: manifest

def Outcome.print (outcome : Outcome) : IO UInt32 := do
  IO.print outcome.stdout
  if let some line := outcome.error then IO.eprintln line
  return outcome.code.toUInt32

/-- Texts on standard output are to be painted. -/
def takesColors : IO Bool := do
  let force ← IO.getEnv "CLICOLOR_FORCE"
  let plain ← IO.getEnv "NO_COLOR"
  let color ← IO.getEnv "CLICOLOR"
  return Output.wantsColors (← (← IO.getStdout).isTty) force plain color

def Invocation.perform (i : Invocation) : IO UInt32 := do
  let found ← i.reads.mapM fun path => return (path, ← lookAt path)
  let files path := ((found.find? (·.1 == path)).map (·.2)).getD (.noFile .notFound)
  match i.step (← takesColors) files with
  | .done outcome => outcome.print
  | .save config path => (Outcome.ofSave path (← saveTo path config)).print

end Command

end EntityProps

open EntityProps.Command in
def main (args : List String) : IO UInt32 := do
  match Invocation.ofArgs? args with
  | some i => i.perform
  | none =>
    IO.eprintln "usage: [-c FILE] parse TEXT [-k KIND] | check FILE | rules | init [-o FILE]"
    Outcome.misused.print
