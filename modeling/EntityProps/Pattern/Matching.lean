import EntityProps.Pattern.Node

/-!
# Matching

A pattern leads from the places of a text at which its matches start to those
at which they end. All places are followed at once, each only once: a set of
places is a list without repeats. A repetition collects places until there are
no new ones, which happens after at most as many rounds as the text has places.
-/

namespace EntityProps.Pattern

/-! ## Places -/

/-- The places that are not marked, each once, and the marks with them. A marked place is a bit. -/
def unmarked (marks : Nat) (places : List Nat) : List Nat × Nat :=
  places.foldl (fun (new, marks) i =>
    if marks.testBit i then (new, marks) else (i :: new, marks ||| 1 <<< i)) ([], marks)

/-- The places, each once. -/
def distinct (places : List Nat) : List Nat :=
  (unmarked 0 places).1

/-- The places that exactly `n` steps lead to. A step that changes nothing is the last. -/
def exactly (step : List Nat → List Nat) : Nat → List Nat → List Nat
  | 0, places => places
  | n + 1, places =>
    let next := step places
    if next == places then places else exactly step n next

/-- The places that at most `n` steps lead to. `reached` are the places so far, which are marked, and
`latest` those among them from which no step has been tried. A step that reaches nothing new is the
last. -/
def upTo (step : List Nat → List Nat) : Nat → (latest reached : List Nat) → (marks : Nat) → List Nat
  | 0, _, reached, _ => reached
  | n + 1, latest, reached, marks =>
    let (new, marks) := unmarked marks (step latest)
    if new.isEmpty then reached else upTo step n new (new ++ reached) marks

/-! ## Patterns -/

namespace Node

/-- The character before a place. -/
def before? (text : Array Char) (i : Nat) : Option Char :=
  if i = 0 then none else text[i - 1]?

mutual

/-- Where the matches end that start at one of the places. -/
def ends (text : Array Char) : Node → List Nat → List Nat
  | one set, places => (places.filter fun i => text[i]?.any set.mem).map (· + 1)
  | look condition, places =>
    places.filter fun i => condition.holds (before? text i) text[i]?
  | seq items, places => endsInOrder text items places
  | alt options, places => distinct (endsOfAny text options places)
  | rep item least most, places =>
    let rounds := match most with
      | some m => m - least
      | none => text.size + 1
    let (first, marks) := unmarked 0 (exactly (item.ends text) least places)
    upTo (item.ends text) rounds first first marks
  | capture item, places => item.ends text places

def endsInOrder (text : Array Char) : List Node → List Nat → List Nat
  | [], places => places
  | n :: rest, places => endsInOrder text rest (n.ends text places)

def endsOfAny (text : Array Char) : List Node → List Nat → List Nat
  | [], _ => []
  | n :: rest, places => n.ends text places ++ endsOfAny text rest places

end

def matchesIn (n : Node) (text : List Char) : Bool :=
  !(n.ends text.toArray (List.range (text.length + 1))).isEmpty

end Node

end EntityProps.Pattern
