import EntityProps.Command.Invocation
import EntityProps.Output.Listing
import EntityProps.Output.Report

/-!
# Running commands

The exit code is 0 if all went well, 1 if an annotation was rejected, and 2 if
there was nothing to work on: the arguments, a file, the configuration or the
kind were wrong. What goes wrong is said in one line of error output.
-/

namespace EntityProps.Command

inductive Refusal where
  | file (fault : LoadFault)
  | rule (fault : RuleFault)
  | unknownKind (name : String)
  /-- No kind is given, and the annotation does not show one. -/
  | noMarker (text : String)
  | save (fault : SaveFault)
deriving DecidableEq

def Refusal.message : Refusal → String
  | file fault => fault.message
  | rule fault => fault.message
  | unknownKind name => Kind.unknownMessage name
  | noMarker text => "no entity marker found in `" ++ text ++ "`, pass --kind"
  | save fault => fault.message

structure Outcome where
  code : Nat
  stdout : String := ""
  /-- The line of error output, without the break at its end. -/
  error : Option String := none
deriving DecidableEq

namespace Outcome

def misused : Outcome := { code := 2 }

def refused (r : Refusal) : Outcome :=
  { code := 2, error := some ("Error: " ++ r.message) }

/-- An annotation was rejected, and the slot holds this kind of error. -/
def rejected (e : ParseError) (slot : Option ErrorKind) : Outcome :=
  { code := 1,
    error := some ("Error: " ++ e.message ++ " (" ++ ErrorKind.outcomeCode slot ++ ")") }

/-- A result is shown, with a line break after it. -/
def shown (code : Nat) (text : String) : Outcome :=
  { code, stdout := text ++ "\n" }

end Outcome

def openSession (files : Files) (config : Option String) : Except Refusal Session := do
  let c ← (Config.loadChosen files config).mapError .file
  let registry ← c.registry.mapError .rule
  return { grammar := c.grammar, registry }

/-! ## Commands -/

def chooseKind (text : String) : Option String → Except Refusal Kind
  | some name =>
    match Kind.ofText? name with
    | some kind => .ok kind
    | none => .error (.unknownKind name)
  | none =>
    match Kind.ofMarker? text with
    | some kind => .ok kind
    | none => .error (.noMarker text)

def parseText (colored : Bool) (s : Session) (text : String) (kind : Option String)
    (format : Output.Format) : Except Refusal Outcome := do
  let kind ← chooseKind text kind
  let (outcome, s) := s.parse kind text
  match outcome with
  | .ok g => return .shown 0 (Output.formatGroup format colored g)
  | .error e => return .rejected e s.slot

def checkManifest (colored : Bool) (files : Files) (s : Session) (path : String)
    (format : Output.Format) : Except Refusal Outcome := do
  let manifest ← (Manifest.load files path).mapError .file
  let report := (s.checkManifest manifest).1
  return .shown (if report.isOk then 0 else 1) (Output.formatReport format colored report)

def listRules (colored : Bool) (s : Session) (format : Output.Format) : Outcome :=
  .shown 0 (Output.formatRules format colored s.registry.listing)

/-- A command that is done, or the configuration that it has to save first. -/
inductive Step where
  | done (outcome : Outcome)
  | save (config : Config) (path : String)

/-- Runs an action up to the saving of a file. -/
def Invocation.step (colored : Bool) (files : Files) (i : Invocation) : Step :=
  match i.action with
  | .init path => .save {} path
  | .parse text kind format => settle do
    parseText colored (← openSession files i.config) text kind format
  | .check path format => settle do
    checkManifest colored files (← openSession files i.config) path format
  | .rules format => settle do
    return listRules colored (← openSession files i.config) format
where
  settle (result : Except Refusal Outcome) : Step :=
    match result with
    | .ok outcome => .done outcome
    | .error r => .done (.refused r)

def Outcome.ofSave (path : String) : Option SaveFault → Outcome
  | none => .shown 0 ("Wrote " ++ path)
  | some fault => .refused (.save fault)

/-- Runs a command in a directory. Texts are painted if standard output takes colours. -/
def run (d : Directory) (args : List String) (colored : Bool := false) : Outcome × Directory :=
  match Invocation.ofArgs? args with
  | none => (.misused, d)
  | some i =>
    match i.step colored d.look with
    | .done outcome => (outcome, d)
    | .save config path =>
      -- No other command changes a file.
      match config.saving path d with
      | (.ok (), d) => (.ofSave path none, d)
      | (.error fault, d) => (.ofSave path (some fault), d)

end EntityProps.Command
