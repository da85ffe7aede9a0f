/-!
# Sets of characters as ranges

A set of characters is given by the list of its code point ranges, both ends
included. In normal form the ranges ascend and stay apart. Surrogates are not
characters, so a complement leaves them out.
-/

namespace EntityProps.Text

abbrev Ranges := List (Nat × Nat)

/-- The last code point. -/
def lastCode : Nat := 0x10ffff

namespace Ranges

/-- A code point lies in one of the ascending ranges. The search stops at the first range beyond it. -/
def containsCode (n : Nat) : Ranges → Bool
  | [] => false
  | (first, last) :: rest =>
    if n < first then false
    else if n ≤ last then true
    else Ranges.containsCode n rest

def contains (ranges : Ranges) (c : Char) : Bool :=
  ranges.containsCode c.toNat

/-- Joins ranges that meet or overlap. They ascend, and none starts before the one given apart. -/
def joinFrom (first last : Nat) : Ranges → Ranges
  | [] => [(first, last)]
  | (f, l) :: rest =>
    if f ≤ last + 1 then joinFrom first (max last l) rest
    else (first, last) :: joinFrom f l rest

/-- The normal form of ranges in any order. -/
def normal (ranges : Ranges) : Ranges :=
  match ranges.mergeSort fun r s => r.1 ≤ s.1 with
  | [] => []
  | (first, last) :: rest => joinFrom first last rest

/-- Every other code point of some ranges, from the first of each to the last. -/
def everyOther (ranges : Ranges) : Ranges :=
  ranges.flatMap fun (first, last) =>
    (List.range ((last - first) / 2 + 1)).map fun k => (first + 2 * k, first + 2 * k)

def union (s t : Ranges) : Ranges :=
  normal (s ++ t)

def gapsFrom (start : Nat) : Ranges → Ranges
  | [] => if start ≤ lastCode then [(start, lastCode)] else []
  | (first, last) :: rest =>
    if start < first then (start, first - 1) :: gapsFrom (last + 1) rest
    else gapsFrom (last + 1) rest

/-- The range without the surrogates at its ends, unless nothing is left. -/
def trimSurrogates? (r : Nat × Nat) : Option (Nat × Nat) :=
  let first := if 0xd800 ≤ r.1 ∧ r.1 ≤ 0xdfff then 0xe000 else r.1
  let last := if 0xd800 ≤ r.2 ∧ r.2 ≤ 0xdfff then 0xd7ff else r.2
  if first ≤ last then some (first, last) else none

/-- The characters that are not in a set in normal form. -/
def complement (s : Ranges) : Ranges :=
  (gapsFrom 0 s).filterMap trimSurrogates?

/-- The members of both sets. -/
def inter (s t : Ranges) : Ranges :=
  complement (union (complement s) (complement t))

/-- The members of the first set that are not in the second. -/
def diff (s t : Ranges) : Ranges :=
  complement (union (complement s) t)

end Ranges

end EntityProps.Text
