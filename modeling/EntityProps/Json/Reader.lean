import EntityProps.Data
import EntityProps.Text.Numeral

/-!
# Reading JSON

The readers below take the text at a place and give what they read with the
text that follows, or nothing when there is no JSON at that place. Entries of a
table are kept as they are written, repeated keys too.
-/

namespace EntityProps.Json

def skipSpace (text : List Char) : List Char :=
  text.dropWhile fun c => c = ' ' ∨ c = '\t' ∨ c = '\n' ∨ c = '\r'

def readUnit : List Char → Option (Nat × List Char)
  | a :: b :: c :: d :: rest => (Text.numeralValue? 16 [a, b, c, d]).map (·, rest)
  | _ => none

/-- Reads a character written by number, after its `u`. One beyond the basic plane is written
as two units. -/
def readCodePoint (text : List Char) : Option (Char × List Char) := do
  let (high, rest) ← readUnit text
  if 0xd800 ≤ high ∧ high < 0xdc00 then
    match rest with
    | '\\' :: 'u' :: rest =>
      let (low, rest) ← readUnit rest
      if 0xdc00 ≤ low ∧ low < 0xe000 then
        let c ← Text.scalar? (0x10000 + (high - 0xd800) * 0x400 + (low - 0xdc00))
        some (c, rest)
      else none
    | _ => none
  else
    let c ← Text.scalar? high
    some (c, rest)

def unescape? (letter : Char) : Option Char :=
  match letter with
  | '"' => some '"'
  | '\\' => some '\\'
  | '/' => some '/'
  | 'b' => some '\x08'
  | 'f' => some '\x0c'
  | 'n' => some '\n'
  | 'r' => some '\r'
  | 't' => some '\t'
  | _ => none

/-- Reads a text up to its closing quote. Every step takes a character, so a list as long as the
text is fuel enough. -/
def readQuoted : (fuel : List Char) → List Char → Option (List Char × List Char)
  | _ :: fuel, c :: rest =>
    if c = '"' then some ([], rest)
    else if c < ' ' then none
    else if c = '\\' then
      match rest with
      | [] => none
      | 'u' :: rest => do
        let (c, rest) ← readCodePoint rest
        let (cs, rest) ← readQuoted fuel rest
        some (c :: cs, rest)
      | letter :: rest => do
        let c ← unescape? letter
        let (cs, rest) ← readQuoted fuel rest
        some (c :: cs, rest)
    else do
      let (cs, rest) ← readQuoted fuel rest
      some (c :: cs, rest)
  | _, _ => none

def readText (text : List Char) : Option (String × List Char) :=
  (readQuoted text text).map fun (cs, rest) => (String.ofList cs, rest)

/-! ## Numbers -/

/-- The digits of a number without a needless leading zero. -/
def readDigits (text : List Char) : Option (List Char × List Char) :=
  match text with
  | '0' :: rest => some (['0'], rest)
  | text =>
    match text.span Char.isDigit with
    | ([], _) => none
    | found => some found

/-- The fraction of a number, if one follows. -/
def readFraction (text : List Char) : Option (List Char × List Char) :=
  match text with
  | '.' :: rest =>
    match rest.span Char.isDigit with
    | ([], _) => none
    | (digits, rest) => some ('.' :: digits, rest)
  | text => some ([], text)

/-- The exponent of a number, if one follows. -/
def readExponent (text : List Char) : Option (List Char × List Char) :=
  match text with
  | c :: rest =>
    if c = 'e' ∨ c = 'E' then
      let (sign, rest) := match rest with
        | '+' :: rest => (['+'], rest)
        | '-' :: rest => (['-'], rest)
        | rest => ([], rest)
      match rest.span Char.isDigit with
      | ([], _) => none
      | (digits, rest) => some (c :: sign ++ digits, rest)
    else some ([], text)
  | [] => some ([], [])

/-- The number with these parts. It is an integer if it has no fraction and no exponent and is
not a negative zero. -/
def number (negative : Bool) (digits tail : List Char) : Data :=
  let n := (Text.numeralValue? 10 digits).getD 0
  let sign := if negative then ['-'] else []
  if !tail.isEmpty ∨ (negative ∧ n = 0) then .float (String.ofList (sign ++ digits ++ tail))
  else .int (if negative then -n else n)

def readNumber (text : List Char) : Option (Data × List Char) := do
  let (negative, rest) := match text with
    | '-' :: rest => (true, rest)
    | rest => (false, rest)
  let (digits, rest) ← readDigits rest
  let (fraction, rest) ← readFraction rest
  let (exponent, rest) ← readExponent rest
  some (number negative digits (fraction ++ exponent), rest)

/-! ## Trees -/

mutual

def readValue : Nat → List Char → Option (Data × List Char)
  | 0, _ => none
  | fuel + 1, text =>
    match text with
    | 'n' :: 'u' :: 'l' :: 'l' :: rest => some (.null, rest)
    | 't' :: 'r' :: 'u' :: 'e' :: rest => some (.bool true, rest)
    | 'f' :: 'a' :: 'l' :: 's' :: 'e' :: rest => some (.bool false, rest)
    | '"' :: rest => (readText rest).map fun (s, rest) => (.str s, rest)
    | '[' :: rest =>
      match skipSpace rest with
      | ']' :: rest => some (.list [], rest)
      | rest => do
        let (d, rest) ← readValue fuel rest
        let (ds, rest) ← readItems fuel (skipSpace rest)
        some (.list (d :: ds), rest)
    | '\x7b' :: rest =>
      match skipSpace rest with
      | '\x7d' :: rest => some (.table [], rest)
      | rest => do
        let (e, rest) ← readEntry fuel rest
        let (es, rest) ← readEntries fuel (skipSpace rest)
        some (.table (e :: es), rest)
    | text => readNumber text

def readEntry : Nat → List Char → Option ((String × Data) × List Char)
  | 0, _ => none
  | fuel + 1, text =>
    match text with
    | '"' :: rest => do
      let (key, rest) ← readText rest
      match skipSpace rest with
      | ':' :: rest =>
        let (d, rest) ← readValue fuel (skipSpace rest)
        some ((key, d), rest)
      | _ => none
    | _ => none

def readItems : Nat → List Char → Option (List Data × List Char)
  | 0, _ => none
  | fuel + 1, text =>
    match text with
    | ']' :: rest => some ([], rest)
    | ',' :: rest => do
      let (d, rest) ← readValue fuel (skipSpace rest)
      let (ds, rest) ← readItems fuel (skipSpace rest)
      some (d :: ds, rest)
    | _ => none

def readEntries : Nat → List Char → Option (Entries × List Char)
  | 0, _ => none
  | fuel + 1, text =>
    match text with
    | '\x7d' :: rest => some ([], rest)
    | ',' :: rest => do
      let (e, rest) ← readEntry fuel (skipSpace rest)
      let (es, rest) ← readEntries fuel (skipSpace rest)
      some (e :: es, rest)
    | _ => none

end

/-- The tree that a JSON text stands for. Every reader above takes at least one character for
each step that it goes deeper, so the length of the text bounds the steps. -/
def read? (text : String) : Option Data := do
  let cs := text.toList
  let (d, rest) ← readValue (cs.length + 1) (skipSpace cs)
  -- Only white space may follow.
  if (skipSpace rest).isEmpty then some d else none

end EntityProps.Json
