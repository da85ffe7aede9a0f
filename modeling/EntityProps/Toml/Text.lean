import EntityProps.Text.Numeral

/-!
# Text in TOML

A text stands in double quotes, where a backslash starts an escape, or in
single quotes, where every character is itself. Either quote written three
times opens a text of several lines.
-/

namespace EntityProps.Toml

/-- A character that stands for itself inside quotes and comments. A tab does, other control
characters do not. -/
def isPlain (c : Char) : Bool :=
  c = '\t' ∨ (' ' ≤ c ∧ c ≠ '\x7f')

def isBlank (c : Char) : Bool :=
  c = ' ' ∨ c = '\t'

def skipBlank (text : List Char) : List Char :=
  text.dropWhile isBlank

def afterBreak? : List Char → Option (List Char)
  | '\n' :: rest => some rest
  | '\r' :: '\n' :: rest => some rest
  | _ => none

/-! ## Escapes -/

def readCode (digits : Nat) (text : List Char) : Option (Char × List Char) :=
  let code := text.take digits
  if code.length = digits then do
    let n ← Text.numeralValue? 16 code
    let c ← Text.scalar? n
    some (c, text.drop digits)
  else none

/-- Reads the character that an escape stands for, after the backslash. -/
def readEscape : List Char → Option (Char × List Char)
  | 'b' :: rest => some ('\x08', rest)
  | 't' :: rest => some ('\t', rest)
  | 'n' :: rest => some ('\n', rest)
  | 'f' :: rest => some ('\x0c', rest)
  | 'r' :: rest => some ('\r', rest)
  | '"' :: rest => some ('"', rest)
  | '\\' :: rest => some ('\\', rest)
  | 'u' :: rest => readCode 4 rest
  | 'U' :: rest => readCode 8 rest
  | _ => none

def skipFold : List Char → List Char
  | '\n' :: rest => skipFold rest
  | '\r' :: '\n' :: rest => skipFold rest
  | c :: rest => if isBlank c then skipFold rest else c :: rest
  | [] => []

/-- The text after a folded line break: one that follows a backslash, with all space and
further line breaks after it. The backslash is gone already. -/
def afterFold? (text : List Char) : Option (List Char) :=
  (afterBreak? (skipBlank text)).map skipFold

/-! ## Quoted text -/

/-- Reads a text on one line up to the quote that closes it. Every step takes a character, so a
list as long as the text is fuel enough. -/
def readLine (quote : Char) : (fuel : List Char) → List Char → Option (List Char × List Char)
  | _ :: fuel, c :: rest =>
    if c = quote then some ([], rest)
    else if c = '\\' ∧ quote = '"' then do
      let (c, rest) ← readEscape rest
      let (cs, rest) ← readLine quote fuel rest
      some (c :: cs, rest)
    else if isPlain c then do
      let (cs, rest) ← readLine quote fuel rest
      some (c :: cs, rest)
    else none
  | _, _ => none

/-- The text after three quotes that close a text, with the quotes, at most two, that stand
right before those three and belong to the text. -/
def closing? (quote : Char) : List Char → Option (List Char × List Char)
  | a :: b :: c :: rest =>
    if a = quote ∧ b = quote ∧ c = quote then
      match rest with
      | d :: e :: rest =>
        if d = quote ∧ e = quote then some ([quote, quote], rest)
        else if d = quote then some ([quote], e :: rest)
        else some ([], d :: e :: rest)
      | [d] => if d = quote then some ([quote], []) else some ([], [d])
      | [] => some ([], [])
    else none
  | _ => none

/-- Reads a text of several lines up to the quotes that close it. Every step takes a character,
so a list as long as the text is fuel enough. -/
def readBlock (quote : Char) : (fuel : List Char) → List Char → Option (List Char × List Char)
  | [], _ => none
  | _ :: fuel, text =>
    match closing? quote text with
    | some closed => some closed
    | none =>
      match afterBreak? text with
      | some rest => do
        let (cs, rest) ← readBlock quote fuel rest
        some ('\n' :: cs, rest)
      | none =>
        match text with
        | [] => none
        | c :: rest =>
          if c = '\\' ∧ quote = '"' then
            match afterFold? rest with
            | some rest => readBlock quote fuel rest
            | none => do
              let (c, rest) ← readEscape rest
              let (cs, rest) ← readBlock quote fuel rest
              some (c :: cs, rest)
          else if isPlain c then do
            let (cs, rest) ← readBlock quote fuel rest
            some (c :: cs, rest)
          else none

/-- Reads a text on one line, after its first quote. -/
def readQuoted (quote : Char) (text : List Char) : Option (String × List Char) :=
  (readLine quote text text).map fun (cs, rest) => (String.ofList cs, rest)

/-- Reads a text of several lines, after its first three quotes. A line break right after those
is no part of it. -/
def readQuotedBlock (quote : Char) (text : List Char) : Option (String × List Char) :=
  let text := (afterBreak? text).getD text
  (readBlock quote text text).map fun (cs, rest) => (String.ofList cs, rest)

def readText : List Char → Option (String × List Char)
  | '"' :: '"' :: '"' :: rest => readQuotedBlock '"' rest
  | '\'' :: '\'' :: '\'' :: rest => readQuotedBlock '\'' rest
  | '"' :: rest => readQuoted '"' rest
  | '\'' :: rest => readQuoted '\'' rest
  | _ => none

end EntityProps.Toml
