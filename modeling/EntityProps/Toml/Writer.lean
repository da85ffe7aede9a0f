import EntityProps.Data
import EntityProps.Toml.Scalar

/-!
# Writing TOML

A document is written with the plain values of its root first, then its tables
and arrays of tables, each under its header and in its order. A list of two or
more items has each of them on a line of its own. A text is written in the
plainest of the four ways to quote it that needs no escape, if there is one.
-/

namespace EntityProps.Toml

/-! ## Text -/

/-- A way to quote a text. -/
inductive Quoting where
  /-- In double quotes, with escapes. -/
  | basic
  /-- In single quotes. -/
  | literal
  /-- In three double quotes, maybe over several lines, with escapes. -/
  | basicBlock
  /-- In three single quotes, maybe over several lines. -/
  | literalBlock
deriving DecidableEq

/-- The length of the longest run of a character. `run` of them stand right before the text. -/
def longestRun (c : Char) (run : Nat) : List Char → Nat
  | [] => run
  | d :: rest => if d = c then longestRun c (run + 1) rest else max run (longestRun c 0 rest)

/-- The character can only be written as an escape. -/
def needsEscape (c : Char) : Bool :=
  (c < ' ' ∧ c ≠ '\t' ∧ c ≠ '\n') ∨ c = '\x7f'

/-- The way to quote a text: on one line rather than on several, then in double quotes rather than
in single ones, as long as nothing has to be escaped. -/
def quoting (text : List Char) : Quoting :=
  let coded := text.any needsEscape
  let slashed := text.contains '\\'
  let broken := text.contains '\n'
  let doubles := longestRun '"' 0 text
  let singles := longestRun '\'' 0 text
  if !coded && !slashed && doubles == 0 && !broken then .basic
  else if !coded && singles == 0 && !broken then .literal
  else if !coded && !slashed && doubles ≤ 2 then .basicBlock
  else if !coded && singles ≤ 2 then .literalBlock
  else if broken then .basicBlock
  else .basic

/-- A character other than a quote between double quotes. -/
def escape (block : Bool) (c : Char) : List Char :=
  if c = '\\' then ['\\', '\\']
  else if c = '\x08' then ['\\', 'b']
  else if c = '\t' then ['\\', 't']
  else if c = '\n' then if block then ['\n'] else ['\\', 'n']
  else if c = '\x0c' then ['\\', 'f']
  else if c = '\r' then ['\\', 'r']
  else if needsEscape c then
    ['\\', 'u', '0', '0', (Text.digitChar (c.toNat / 16)).toUpper,
      (Text.digitChar (c.toNat % 16)).toUpper]
  else [c]

/-- A text between double quotes. On several lines two quotes in a row stand as they are, and a
third one is escaped; `run` of them stand right before the text. -/
def escapeAll (block : Bool) (run : Nat) : List Char → List Char
  | [] => []
  | c :: rest =>
    if c = '"' then
      if block && run < 2 then '"' :: escapeAll block (run + 1) rest
      else '\\' :: '"' :: escapeAll block 0 rest
    else escape block c ++ escapeAll block 0 rest

/-- What three quotes have between them: a text of several lines starts on a line of its own. -/
def blockBody (text inner : List Char) : List Char :=
  if text.contains '\n' then '\n' :: inner else inner

def quoted (text : List Char) : List Char :=
  match quoting text with
  | .basic => '"' :: escapeAll false 0 text ++ ['"']
  | .literal => '\'' :: text ++ ['\'']
  | .basicBlock =>
    '"' :: '"' :: '"' :: blockBody text (escapeAll true 0 text) ++ ['"', '"', '"']
  | .literalBlock => '\'' :: '\'' :: '\'' :: blockBody text text ++ ['\'', '\'', '\'']

/-! ## Values -/

/-- A scalar. There is none for null, for tables and lists, and for integers out of range. -/
def scalarChars? : Data → Option (List Char)
  | .bool true => some ['t', 'r', 'u', 'e']
  | .bool false => some ['f', 'a', 'l', 's', 'e']
  | .int n => if isStorable n then some (Text.integer n) else none
  | .float text => some text.toList
  | .moment text => some text.toList
  | .str text => some (quoted text.toList)
  | _ => none

def itemChars : List (List Char) → List Char
  | [] => []
  | [item] => item
  | items => items.flatMap (fun item => '\n' :: ' ' :: ' ' :: ' ' :: ' ' :: item ++ [',']) ++ ['\n']

def valueChars? : Data → Option (List Char)
  | .list items => (items.mapM scalarChars?).map fun items => '[' :: itemChars items ++ [']']
  | d => scalarChars? d

/-! ## Documents -/

/-- A key and its value on a line. The key stands without quotes, so it should be a bare one. -/
def pairChars? (entry : String × Data) : Option (List Char) :=
  (valueChars? entry.2).map fun value =>
    entry.1.toList ++ ' ' :: '=' :: ' ' :: value ++ ['\n']

def pairsChars? (entries : Entries) : Option (List Char) :=
  (entries.mapM pairChars?).map List.flatten

def sectionChars? (opening closing : List Char) (key : String) (entries : Entries) :
    Option (List Char) :=
  (pairsChars? entries).map (opening ++ key.toList ++ closing ++ '\n' :: ·)

def elementChars? (key : String) : Data → Option (List Char)
  | .table entries => sectionChars? ['[', '['] [']', ']'] key entries
  | _ => none

/-- The sections of an entry that does not fit on a line: a table, or an array of tables. -/
def sectionsChars? : String × Data → Option (List (List Char))
  | (key, .table entries) => (sectionChars? ['['] [']'] key entries).map ([·])
  | (key, .list items) => items.mapM (elementChars? key)
  | _ => none

/-- The entry stands under a header of its own: it is a table, or a list that starts with one. -/
def isSection : String × Data → Bool
  | (_, .table _) => true
  | (_, .list (.table _ :: _)) => true
  | _ => false

/-- The TOML document of a table, with an empty line before every header that something
precedes. There is none if the table holds null or an integer out of range, or nests deeper than
a list in a table in an array. -/
def write? (entries : Entries) : Option String := do
  -- A pair below a header would belong to its table, so pairs are written first.
  let (deep, flat) := entries.partition isSection
  let pairs ← pairsChars? flat
  let sections ← deep.mapM sectionsChars?
  let blocks := if pairs.isEmpty then sections.flatten else pairs :: sections.flatten
  some (String.ofList (List.intercalate ['\n'] blocks))

end EntityProps.Toml
