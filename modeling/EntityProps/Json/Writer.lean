import EntityProps.Data
import EntityProps.Text.Numeral

/-!
# Writing JSON

A tree is written either without any space or with one member a line, indented
by two spaces for each level. In both layouts an empty list or table is a pair
of brackets.
-/

namespace EntityProps.Json

inductive Layout where
  | compact
  | indented
deriving DecidableEq

/-- What stands before a member, or before a closing bracket, at this depth. -/
def Layout.gap : Layout → Nat → List Char
  | compact, _ => []
  | indented, depth => '\n' :: List.replicate (2 * depth) ' '

def Layout.colon : Layout → List Char
  | compact => [':']
  | indented => [':', ' ']

/-- A character inside quotes. Only quotes, backslashes and control characters are escaped. -/
def escape (c : Char) : List Char :=
  if c = '"' then ['\\', '"']
  else if c = '\\' then ['\\', '\\']
  else if c = '\x08' then ['\\', 'b']
  else if c = '\x0c' then ['\\', 'f']
  else if c = '\n' then ['\\', 'n']
  else if c = '\r' then ['\\', 'r']
  else if c = '\t' then ['\\', 't']
  else if c < ' ' then
    ['\\', 'u', '0', '0', Text.digitChar (c.toNat / 16), Text.digitChar (c.toNat % 16)]
  else [c]

def quote (text : String) : List Char :=
  '"' :: text.toList.flatMap escape ++ ['"']

mutual

/-- A tree whose members stand one level below this depth. -/
def chars (l : Layout) (depth : Nat) : Data → List Char
  | .null => ['n', 'u', 'l', 'l']
  | .bool true => ['t', 'r', 'u', 'e']
  | .bool false => ['f', 'a', 'l', 's', 'e']
  | .int n => Text.integer n
  | .float text => text.toList
  | .moment text => quote text
  | .str text => quote text
  | .list [] => ['[', ']']
  | .list (d :: ds) =>
    '[' :: (l.gap (depth + 1) ++ chars l (depth + 1) d ++ charsOfItems l (depth + 1) ds
      ++ l.gap depth ++ [']'])
  | .table [] => ['\x7b', '\x7d']
  | .table ((key, d) :: es) =>
    '\x7b' :: (l.gap (depth + 1) ++ quote key ++ l.colon ++ chars l (depth + 1) d
      ++ charsOfEntries l (depth + 1) es ++ l.gap depth ++ ['\x7d'])

def charsOfItems (l : Layout) (depth : Nat) : List Data → List Char
  | [] => []
  | d :: ds => ',' :: (l.gap depth ++ chars l depth d ++ charsOfItems l depth ds)

def charsOfEntries (l : Layout) (depth : Nat) : Entries → List Char
  | [] => []
  | (key, d) :: es =>
    ',' :: (l.gap depth ++ quote key ++ l.colon ++ chars l depth d ++ charsOfEntries l depth es)

end

def write (l : Layout) (d : Data) : String :=
  String.ofList (chars l 0 d)

end EntityProps.Json
