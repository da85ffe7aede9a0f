import EntityProps.Pattern.Node

/-!
# Shapes of patterns

The space that a pattern takes is counted on its shape, in which neighbouring
characters form one literal, alternatives of one character each form one set,
what alternatives start with alike stands in front of them, and repetitions of
nothing are gone.
-/

namespace EntityProps.Pattern

/-- A pattern in simplified form. -/
inductive Shape where
  | empty
  | literal (text : List Char)
  | set (members : CharSet)
  | look (condition : Look)
  | rep (item : Shape) (least : Nat) (most : Option Nat)
  | captured (item : Shape)
  | concat (parts : List Shape)
  | alt (options : List Shape)

namespace Shape

mutual

/-- Only the empty text can match. -/
def isZeroWidth : Shape → Bool
  | empty => true
  | literal _ => false
  | set _ => false
  | look _ => true
  | rep item _ most => most.isSome && item.isZeroWidth
  | captured item => item.isZeroWidth
  | concat parts => areZeroWidth parts
  | alt options => areZeroWidth options

def areZeroWidth : List Shape → Bool
  | [] => true
  | s :: rest => s.isZeroWidth && areZeroWidth rest

end

mutual

/-- The least number of characters that match, unless some part matches nothing at all. -/
def leastLength? : Shape → Option Nat
  | empty => some 0
  | literal text => some text.length
  | set members => if members.ranges.isEmpty then none else some 1
  | look _ => some 0
  | rep item least _ => item.leastLength?.map (least * ·)
  | captured item => item.leastLength?
  | concat parts => leastSum? parts
  | alt options => leastChoice? options

def leastSum? : List Shape → Option Nat
  | [] => some 0
  | s :: rest => do return (← s.leastLength?) + (← leastSum? rest)

def leastChoice? : List Shape → Option Nat
  | [] => none
  | [s] => s.leastLength?
  | s :: rest => do return min (← s.leastLength?) (← leastChoice? rest)

end

mutual

/-- A match has to start where the condition holds; with `atEnd`, to end there. -/
def requires (condition : Look) (atEnd : Bool) : Shape → Bool
  | look c => c = condition
  | rep item least _ => 0 < least && item.requires condition atEnd
  | captured item => item.requires condition atEnd
  | concat parts =>
    if atEnd then lastRequires condition parts else firstRequires condition parts
  | alt options => !options.isEmpty && allRequire condition atEnd options
  | _ => false

/-- Some shape before which nothing is matched requires the condition. -/
def firstRequires (condition : Look) : List Shape → Bool
  | [] => false
  | s :: rest => s.requires condition false || (s.isZeroWidth && firstRequires condition rest)

/-- Some shape after which nothing is matched requires the condition. -/
def lastRequires (condition : Look) : List Shape → Bool
  | [] => false
  | s :: rest =>
    lastRequires condition rest || (areZeroWidth rest && s.requires condition true)

def allRequire (condition : Look) (atEnd : Bool) : List Shape → Bool
  | [] => true
  | s :: rest => s.requires condition atEnd && allRequire condition atEnd rest

end

mutual

/-- Two shapes are the same. Two captures never are, since they count apart. -/
def same : Shape → Shape → Bool
  | empty, empty => true
  | literal s, literal t => s = t
  | set s, set t => s = t
  | look a, look b => a = b
  | rep s least most, rep t least' most' => least = least' && most = most' && s.same t
  | concat ps, concat qs => sameAll ps qs
  | alt ps, alt qs => sameAll ps qs
  | _, _ => false

def sameAll : List Shape → List Shape → Bool
  | [], [] => true
  | s :: ss, t :: ts => s.same t && sameAll ss ts
  | _, _ => false

end

/-! ## Building shapes -/

/-- The shape of a set, which is a literal if the set has one member. -/
def ofSet (s : CharSet) : Shape :=
  match s.only? with
  | some c => .literal [c]
  | none => .set s

/-- The shape of a repetition. What matches only the empty text is repeated at most once. -/
def repeated (item : Shape) (least : Nat) (most : Option Nat) : Shape :=
  let least := if item.isZeroWidth then min least 1 else least
  let most := if item.isZeroWidth then some (min (most.getD 1) 1) else most
  if least = 0 ∧ most = some 0 then .empty
  else if least = 1 ∧ most = some 1 then item
  else .rep item least most

/-- The parts that a shape adds to a concatenation. -/
def parts : Shape → List Shape
  | empty => []
  | concat parts => parts
  | s => [s]

/-- Puts a part in front of others. Two literals beside each other become one. -/
def addPart : Shape → List Shape → List Shape
  | literal s, literal t :: rest => .literal (s ++ t) :: rest
  | part, rest => part :: rest

def join (shapes : List Shape) : Shape :=
  match (shapes.flatMap parts).foldr addPart [] with
  | [] => .empty
  | [s] => s
  | parts => .concat parts

def options : Shape → List Shape
  | alt options => options
  | s => [s]

/-- The only character of a literal that has just one. -/
def single? : Shape → Option Char
  | literal [c] => some c
  | _ => none

def members? : Shape → Option CharSet
  | set members => some members
  | _ => none

/-- One shape or another. Options that are all single characters, or all sets, make one set. -/
def choose (shapes : List Shape) : Shape :=
  match shapes.flatMap options with
  | [s] => s
  | options =>
    match options.mapM single? with
    | some chars => ofSet (.unions (chars.map .single))
    | none =>
      match options.mapM members? with
      | some sets => ofSet (.unions sets)
      | none => .alt options

def commonStart : List Shape → List Shape → List Shape
  | s :: ss, t :: ts => if s.same t then s :: commonStart ss ts else []
  | _, _ => []

def concatParts? : Shape → Option (List Shape)
  | concat parts => some parts
  | _ => none

/-- One shape or another, with the parts in front that concatenations start with alike. -/
def either (shapes : List Shape) : Shape :=
  match (shapes.flatMap options).mapM concatParts? with
  | some (first :: second :: rest) =>
    let start := (second :: rest).foldl commonStart first
    if start.isEmpty then choose shapes
    else join (start ++
      [choose ((first :: second :: rest).map fun parts => join (parts.drop start.length))])
  | _ => choose shapes

end Shape

mutual

def Node.shape : Node → Shape
  | .one set => .ofSet set
  | .look condition => .look condition
  | .seq items => .join (Node.shapes items)
  | .alt options => .either (Node.shapes options)
  | .rep item least most => .repeated item.shape least most
  | .capture item => .captured item.shape

def Node.shapes : List Node → List Shape
  | [] => []
  | n :: rest => n.shape :: Node.shapes rest

end

end EntityProps.Pattern
