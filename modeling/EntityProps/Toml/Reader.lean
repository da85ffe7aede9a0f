import EntityProps.Toml.Scalar
import EntityProps.Toml.Table
import EntityProps.Toml.Text

/-!
# Reading TOML

A document is read line by line into statements: a key with its value, the
header of a table, or the header of an element of an array of tables. The
statements then build the table that the document stands for.
-/

namespace EntityProps.Toml

/-! ## Keys -/

/-- A character of a key without quotes. -/
def isKeyChar (c : Char) : Bool :=
  c.isAlphanum || c == '_' || c == '-'

def readSimpleKey (text : List Char) : Option (String × List Char) :=
  match text with
  | '"' :: rest => readQuoted '"' rest
  | '\'' :: rest => readQuoted '\'' rest
  | text =>
    match text.span isKeyChar with
    | ([], _) => none
    | (cs, rest) => some (String.ofList cs, rest)

/-- A key has fewer parts than this, and values nest less deep. -/
def depthLimit : Nat := 80

/-- Reads a key of at most `parts` parts, with the space around each. -/
def readKeyParts : Nat → List Char → Option (Key × List Char)
  | 0, _ => none
  | parts + 1, text => do
    let (part, rest) ← readSimpleKey (skipBlank text)
    match skipBlank rest with
    | '.' :: rest =>
      let (key, rest) ← readKeyParts parts rest
      some ({ key with path := part :: key.path }, rest)
    | rest => some (⟨[], part⟩, rest)

def readKey (text : List Char) : Option (Key × List Char) :=
  readKeyParts (depthLimit - 1) text

/-! ## Values -/

/-- The text after space, line breaks and comments. The first argument tells whether the text
starts inside a comment. -/
def skipLines : Bool → List Char → List Char
  | _, [] => []
  | _, '\n' :: rest => skipLines false rest
  | _, '\r' :: '\n' :: rest => skipLines false rest
  | true, c :: rest => if isPlain c then skipLines true rest else c :: rest
  | false, c :: rest =>
    if c = '#' then skipLines true rest
    else if isBlank c then skipLines false rest
    else c :: rest

/-- Reads items up to the bracket that closes their list. A comma may follow the last one. Every
item takes a character, so a list as long as the text is fuel enough. -/
def readItems (value : List Char → Option (Data × List Char)) :
    (fuel : List Char) → List Char → Option (List Data × List Char)
  | [], _ => none
  | _ :: fuel, text =>
    match skipLines false text with
    | ']' :: rest => some ([], rest)
    | text => do
      let (d, rest) ← value text
      match skipLines false rest with
      | ',' :: rest =>
        let (ds, rest) ← readItems value fuel rest
        some (d :: ds, rest)
      | ']' :: rest => some ([d], rest)
      | _ => none

def readPair (value : List Char → Option (Data × List Char)) (text : List Char) :
    Option ((Key × Data) × List Char) := do
  let (key, rest) ← readKey text
  match rest with
  | '=' :: rest =>
    let (d, rest) ← value (skipBlank rest)
    some ((key, d), rest)
  | _ => none

/-- Reads pairs up to the brace that closes their table, all on one line. Every pair takes a
character, so a list as long as the text is fuel enough. -/
def readPairs (value : List Char → Option (Data × List Char)) :
    (fuel : List Char) → List Char → Option (List (Key × Data) × List Char)
  | [], _ => none
  | _ :: fuel, text => do
    let (pair, rest) ← readPair value text
    match skipBlank rest with
    | ',' :: rest =>
      let (pairs, rest) ← readPairs value fuel rest
      some (pair :: pairs, rest)
    | '\x7d' :: rest => some ([pair], rest)
    | _ => none

def inlineTable (pairs : List (Key × Data)) : Option Data :=
  (Members.assignAll [] pairs).map fun m => .table (dataOfMembers m)

/-- Reads a value in which lists and tables nest at most this deep. -/
def readValue : Nat → List Char → Option (Data × List Char)
  | depth, text =>
    match text with
    | '"' :: _ => (readText text).map fun (s, rest) => (.str s, rest)
    | '\'' :: _ => (readText text).map fun (s, rest) => (.str s, rest)
    | '[' :: rest =>
      match depth with
      | 0 => none
      | depth + 1 =>
        (readItems (readValue depth) rest rest).map fun (ds, rest) => (.list ds, rest)
    | '\x7b' :: rest =>
      match depth with
      | 0 => none
      | depth + 1 =>
        match skipBlank rest with
        | '\x7d' :: rest => some (.table [], rest)
        | rest => do
          let (pairs, rest) ← readPairs (readValue depth) rest rest
          let table ← inlineTable pairs
          some (table, rest)
    | text => readScalar text

/-! ## Statements -/

/-- A line of a document. -/
inductive Statement where
  | blank
  | pair (key : Key) (d : Data)
  | table (key : Key)
  | element (key : Key)

/-- The text after the end of a line, before which a comment may stand. -/
def afterLine? (text : List Char) : Option (List Char) :=
  let rest := match skipBlank text with
    | '#' :: rest => rest.dropWhile isPlain
    | rest => rest
  if rest.isEmpty then some [] else afterBreak? rest

/-- Reads the key of a header, the brackets that close it, and the end of the line. -/
def readHeader (closing : List Char) (text : List Char) : Option (Key × List Char) := do
  let (key, rest) ← readKey text
  let rest ← closing.isPrefixOf? rest
  let rest ← afterLine? rest
  some (key, rest)

/-- Reads a statement that starts right here, and the end of its line. -/
def readStatement (text : List Char) : Option (Statement × List Char) :=
  match text with
  | '[' :: '[' :: rest =>
    (readHeader [']', ']'] rest).map fun (key, rest) => (.element key, rest)
  | '[' :: rest => (readHeader [']'] rest).map fun (key, rest) => (.table key, rest)
  | '#' :: _ => (afterLine? text).map (.blank, ·)
  | '\n' :: _ => (afterBreak? text).map (.blank, ·)
  | '\r' :: _ => (afterBreak? text).map (.blank, ·)
  | text => do
    let ((key, d), rest) ← readPair (readValue (depthLimit - 1)) text
    let rest ← afterLine? rest
    some (.pair key d, rest)

/-- Reads the statements of a document. Every statement takes a character, so a list one longer
than the text is fuel enough. -/
def readStatements : (fuel : List Char) → List Char → Option (List Statement)
  | [], _ => none
  | _ :: fuel, text =>
    match skipBlank text with
    | [] => some []
    | text => do
      let (s, rest) ← readStatement text
      let ss ← readStatements fuel rest
      some (s :: ss)

/-! ## Documents -/

/-- The pairs before the first header, and the statements from there on. -/
def spanPairs : List Statement → List (Key × Data) × List Statement
  | .pair key d :: rest => ((key, d) :: (spanPairs rest).1, (spanPairs rest).2)
  | .blank :: rest => spanPairs rest
  | rest => ([], rest)

def addSections (m : Members) : List Statement → Option Members
  | .table key :: rest => do addSections (← m.addTable key (spanPairs rest).1) rest
  | .element key :: rest => do addSections (← m.addElement key (spanPairs rest).1) rest
  | _ :: rest => addSections m rest
  | [] => some m

def build (statements : List Statement) : Option Members := do
  let root ← Members.assignAll [] (spanPairs statements).1
  addSections root statements

/-- The text without the mark that may open a file. -/
def withoutMark : List Char → List Char
  | '\ufeff' :: rest => rest
  | text => text

def read? (text : String) : Option Data := do
  let cs := withoutMark text.toList
  let statements ← readStatements ('\n' :: cs) cs
  let root ← build statements
  some (.table (dataOfMembers root))

end EntityProps.Toml
