import EntityProps.Text.Ranges

/-!
# Characters as bytes

UTF-8 writes a code point in one to four bytes. A range of code points is
written as rows of byte ranges: a row stands for all sequences that take one
byte from each of its ranges.
-/

namespace EntityProps.Text

def bytesOf (n : Nat) : List Nat :=
  if n < 0x80 then [n]
  else if n < 0x800 then [0xc0 + n / 64, 0x80 + n % 64]
  else if n < 0x10000 then [0xe0 + n / 4096, 0x80 + n / 64 % 64, 0x80 + n % 64]
  else [0xf0 + n / 262144, 0x80 + n / 4096 % 64, 0x80 + n / 64 % 64, 0x80 + n % 64]

abbrev ByteRange := Nat × Nat

/-- The last code points that take one, two and three bytes. -/
def lastByLength : List Nat :=
  [0x7f, 0x7ff, 0xffff]

/-- The end of the first part of a range whose ends differ above the last digits in base 64 that make
up `size`, unless those digits run through all values. -/
def misfit? (first last size : Nat) : Option Nat :=
  if first / size = last / size then none
  else if first % size ≠ 0 then some (first / size * size + size - 1)
  else if last % size ≠ size - 1 then some (last / size * size - 1)
  else none

/-- Where the first part of a range ends that is not a single row. -/
def cut? (first last : Nat) : Option Nat :=
  match lastByLength.find? fun m => first ≤ m && m < last with
  | some m => some m
  | none => if last < 0x80 then none else [64, 4096, 262144].findSome? (misfit? first last)

/-- The rows of a range without surrogates, in ascending order. -/
def rowsOfRange (first last : Nat) : List (List ByteRange) :=
  match cut? first last with
  | some m =>
    if _h : first ≤ m ∧ m < last then rowsOfRange first m ++ rowsOfRange (m + 1) last
    else []
  | none => [(bytesOf first).zip (bytesOf last)]
termination_by last - first

def withoutSurrogates (r : Nat × Nat) : Ranges :=
  [(r.1, min r.2 0xd7ff), (max r.1 0xe000, r.2)].filter fun r => r.1 ≤ r.2

/-- The rows of a set, in ascending order. -/
def Ranges.rows (s : Ranges) : List (List ByteRange) :=
  (s.flatMap withoutSurrogates).flatMap fun (first, last) => rowsOfRange first last

end EntityProps.Text
