import EntityProps.Pattern.Reader
import EntityProps.Pattern.Machine
import EntityProps.Pattern.Matching

/-!
# Patterns

A pattern is a regular expression. It is searched for in a text, so it matches
a part of the text unless it is anchored.
-/

namespace EntityProps

structure Pattern where
  text : String
  node : Pattern.Node

namespace Pattern

inductive Fault where
  | malformed
  | tooLarge
deriving DecidableEq

/-- Groups, repetitions and the like may nest this deep. -/
def depthLimit : Nat := 250

/-- The tree that a text stands for, if it is a regular expression. -/
def tree? (text : List Char) : Option Node := do
  let r ← Reader.initial.run text
  let (node, depth) ← r.result?
  if depth ≤ depthLimit then some node else none

def compile (text : String) : Except Fault Pattern :=
  match tree? text.toList with
  | none => .error .malformed
  | some node => if node.shape.fits then .ok { text, node } else .error .tooLarge

/-- The text of a pattern put between anchors, as the check of sub-properties uses it. -/
def anchored (text : String) : String :=
  "^(?:" ++ text ++ ")$"

def isMatch (p : Pattern) (text : String) : Bool :=
  p.node.matchesIn text.toList

end Pattern

end EntityProps
