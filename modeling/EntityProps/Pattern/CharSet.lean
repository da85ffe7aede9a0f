import EntityProps.Text.CaseFold
import EntityProps.Text.Word
import EntityProps.Text.Blank

/-!
# Sets of characters in patterns

A pattern tests one character at a time against a set built from ranges and
named classes by the operations of bracket expressions.
-/

namespace EntityProps.Pattern

/-- The classes written with a backslash and a letter. -/
inductive NamedClass where
  | digit
  | blank
  | word
deriving DecidableEq

/-- The members over all scripts. -/
def NamedClass.ranges : NamedClass → Text.Ranges
  | .digit => Text.digitRanges
  | .blank => Text.blankRanges
  | .word => Text.wordRanges

inductive SetOp where
  | intersection
  | difference
  | symmetricDifference
deriving DecidableEq

structure CharSet where
  ranges : Text.Ranges
deriving DecidableEq

namespace CharSet

def mem (s : CharSet) (c : Char) : Bool :=
  s.ranges.contains c

def ofRanges (ranges : Text.Ranges) : CharSet :=
  ⟨ranges.normal⟩

def empty : CharSet :=
  ⟨[]⟩

def all : CharSet :=
  ⟨[(0, Text.lastCode)]⟩

def range (first last : Char) : CharSet :=
  ⟨[(first.toNat, last.toNat)]⟩

def single (c : Char) : CharSet :=
  range c c

def unions (sets : List CharSet) : CharSet :=
  ofRanges (sets.flatMap (·.ranges))

def complement (s : CharSet) : CharSet :=
  ⟨s.ranges.complement⟩

def combine (op : SetOp) (s t : CharSet) : CharSet :=
  match op with
  | .intersection => ⟨s.ranges.inter t.ranges⟩
  | .difference => ⟨s.ranges.diff t.ranges⟩
  | .symmetricDifference => ⟨(s.ranges.diff t.ranges).union (t.ranges.diff s.ranges)⟩

def negateIf (negated : Bool) (s : CharSet) : CharSet :=
  if negated then s.complement else s

def caseClosed (s : CharSet) : CharSet :=
  ⟨s.ranges.closeUnder Text.foldings⟩

/-- The same for ASCII letters only. -/
def asciiCaseClosed (s : CharSet) : CharSet :=
  ⟨s.ranges.closeUnder Text.asciiFoldings⟩

def isAscii (s : CharSet) : Bool :=
  s.ranges.all (·.2 < 128)

/-- The only member of a set that has just one. -/
def only? (s : CharSet) : Option Char :=
  match s.ranges with
  | [(first, last)] => if first = last then some (Char.ofNat first) else none
  | _ => none

def ofChars (ranges : List (Char × Char)) : CharSet :=
  unions (ranges.map fun (first, last) => range first last)

/-- ASCII members of the classes written with a backslash. -/
def asciiNamed : NamedClass → CharSet
  | .digit => ofChars [('0', '9')]
  | .blank => ofChars [('\t', '\r'), (' ', ' ')]
  | .word => ofChars [('0', '9'), ('A', 'Z'), ('_', '_'), ('a', 'z')]

def ofColonName? : String → Option CharSet
  | "alnum" => some (ofChars [('0', '9'), ('A', 'Z'), ('a', 'z')])
  | "alpha" => some (ofChars [('A', 'Z'), ('a', 'z')])
  | "ascii" => some (ofChars [('\x00', '\x7f')])
  | "blank" => some (ofChars [('\t', '\t'), (' ', ' ')])
  | "cntrl" => some (ofChars [('\x00', '\x1f'), ('\x7f', '\x7f')])
  | "digit" => some (ofChars [('0', '9')])
  | "graph" => some (ofChars [('!', '~')])
  | "lower" => some (ofChars [('a', 'z')])
  | "print" => some (ofChars [(' ', '~')])
  | "punct" => some (ofChars [('!', '/'), (':', '@'), ('[', '\x60'), ('\x7b', '~')])
  | "space" => some (ofChars [('\t', '\r'), (' ', ' ')])
  | "upper" => some (ofChars [('A', 'Z')])
  | "word" => some (asciiNamed .word)
  | "xdigit" => some (ofChars [('0', '9'), ('A', 'F'), ('a', 'f')])
  | _ => none

end CharSet

end EntityProps.Pattern
