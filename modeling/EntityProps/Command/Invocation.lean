import EntityProps.Config
import EntityProps.Output.Format

/-!
# Invocations

An invocation names a command, with options before and after it. Every option
takes a value, which is attached to it or is the next argument. The
configuration may be named before or after the command, and there the last one
counts; otherwise an option is given once.
-/

namespace EntityProps.Command

open Output (Format)

inductive Opt where
  | config
  | kind
  | format
  | output
deriving DecidableEq

namespace Opt

def short : Opt → Char
  | config => 'c'
  | kind => 'k'
  | format => 'f'
  | output => 'o'

def long : Opt → List Char
  | config => ['c', 'o', 'n', 'f', 'i', 'g']
  | kind => ['k', 'i', 'n', 'd']
  | format => ['f', 'o', 'r', 'm', 'a', 't']
  | output => ['o', 'u', 't', 'p', 'u', 't']

end Opt

/-- Arguments by their meaning, in order. -/
structure Given where
  options : List (Opt × String) := []
  positionals : List String := []

inductive Token where
  /-- The mark after which no argument is an option. -/
  | endOfOptions
  /-- An option, with the value that is attached to it. -/
  | opt (opt : Opt) (value : Option String)
  | positional
  | unknown

/-- The argument looks like an option. A lone hyphen does not. -/
def isOptionLike (arg : String) : Bool :=
  match arg.toList with
  | '-' :: _ :: _ => true
  | _ => false

def Token.ofArg (known : List Opt) (arg : String) : Token :=
  match arg.toList with
  | ['-', '-'] => .endOfOptions
  | '-' :: '-' :: rest =>
    let (name, value) := rest.span (· != '=')
    match known.find? (·.long == name) with
    | some o => .opt o (value.tail?.map String.ofList)
    | none => .unknown
  | '-' :: c :: rest =>
    match known.find? (·.short == c) with
    | some o =>
      match rest with
      | [] => .opt o none
      | '=' :: rest => .opt o (some (String.ofList rest))
      | rest => .opt o (some (String.ofList rest))
    | none => .unknown
  | _ => .positional

def Given.ofArgs (known : List Opt) : List String → Option Given
  | [] => some {}
  | arg :: rest =>
    match Token.ofArg known arg with
    | .endOfOptions => some { positionals := rest }
    | .opt o (some value) => add o value (ofArgs known rest)
    | .opt o none =>
      match rest with
      | value :: rest => if isOptionLike value then none else add o value (ofArgs known rest)
      | [] => none
    | .positional =>
      (ofArgs known rest).map fun g => { g with positionals := arg :: g.positionals }
    | .unknown => none
where
  add (o : Opt) (value : String) (g : Option Given) : Option Given :=
    g.map fun g => { g with options := (o, value) :: g.options }

namespace Given

/-- The value of an option, which must not be given twice. Nothing in the outer sense if it is. -/
def value? (g : Given) (o : Opt) : Option (Option String) :=
  match g.options.filter (·.1 = o) with
  | [] => some none
  | [(_, value)] => some (some value)
  | _ => none

/-- The value of an option that is a path, which must not be empty. -/
def path? (g : Given) (o : Opt) : Option (Option String) := do
  match ← g.value? o with
  | some "" => none
  | value => some value

def format? (g : Given) : Option Format := do
  match ← g.value? .format with
  | some name => Format.ofName? name
  | none => some .text

end Given

inductive Action where
  /-- Parse one annotation, for the kind with the given name or the kind that the marker shows. -/
  | parse (text : String) (kind : Option String) (format : Format)
  /-- Parse the annotations of a manifest. -/
  | check (manifest : String) (format : Format)
  /-- List the registered rules. -/
  | rules (format : Format)
  /-- Write the default configuration to a file. -/
  | init (output : String)

/-- An action, and the configuration file that is named for it. -/
structure Invocation where
  config : Option String
  action : Action

namespace Invocation

def known? : String → Option (List Opt)
  | "parse" => some [.config, .kind, .format]
  | "check" => some [.config, .format]
  | "rules" => some [.config, .format]
  | "init" => some [.config, .output]
  | _ => none

def action? (command : String) (g : Given) : Option Action :=
  match command, g.positionals with
  | "parse", [text] => do
    let kind ← g.value? .kind
    let format ← g.format?
    some (.parse text kind format)
  | "check", [manifest] => do
    if manifest = "" then none
    else
      let format ← g.format?
      some (.check manifest format)
  | "rules", [] => do
    let format ← g.format?
    some (.rules format)
  | "init", [] => do
    let output ← g.path? .output
    some (.init (output.getD Config.defaultFile))
  | _, _ => none

/-- The arguments up to the command: the options among them, the command, and what follows it. -/
def splitCommand : List String → Option (List (Opt × String) × String × List String)
  | [] => none
  | arg :: rest =>
    match Token.ofArg [.config] arg with
    | .opt o (some value) => add o value (splitCommand rest)
    | .opt o none =>
      match rest with
      | value :: rest => if isOptionLike value then none else add o value (splitCommand rest)
      | [] => none
    | .positional => some ([], arg, rest)
    | _ => none
where
  add (o : Opt) (value : String) (found : Option (List (Opt × String) × String × List String)) :
      Option (List (Opt × String) × String × List String) :=
    found.map fun (options, rest) => ((o, value) :: options, rest)

def ofArgs? (args : List String) : Option Invocation := do
  let (options, command, rest) ← splitCommand args
  let known ← known? command
  let before : Given := { options := options }
  let after ← Given.ofArgs known rest
  -- The option stands before the command or after it, and the latter wins.
  let outer ← before.path? .config
  let inner ← after.path? .config
  let action ← action? command after
  some { config := inner.or outer, action }

end Invocation

end EntityProps.Command
