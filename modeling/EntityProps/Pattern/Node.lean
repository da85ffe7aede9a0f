import EntityProps.Pattern.CharSet

/-!
# Pattern trees

The tree says what a pattern matches. Which of several matches a search
prefers is not recorded: whether there is a match does not depend on it.
Captures are recorded, since the space that a pattern takes depends on them.
-/

namespace EntityProps.Pattern

/-- Conditions on a place between characters. -/
inductive Look where
  | textStart
  | textEnd
  | lineStart (carriage : Bool)
  | lineEnd (carriage : Bool)
  | wordBoundary (unicode : Bool)
  | noWordBoundary (unicode : Bool)
  | wordStart (unicode : Bool)
  | wordEnd (unicode : Bool)
  | wordStartHalf (unicode : Bool)
  | wordEndHalf (unicode : Bool)
deriving DecidableEq

def isWordAt (unicode : Bool) : Option Char → Bool
  | none => false
  | some c => if unicode then Text.isWord c else (CharSet.asciiNamed .word).mem c

/-- A condition holds between two neighbours, `none` standing for an end of the text. -/
def Look.holds : Look → (before after : Option Char) → Bool
  | .textStart, before, _ => before.isNone
  | .textEnd, _, after => after.isNone
  | .lineStart false, before, _ => before.isNone || before == some '\n'
  | .lineStart true, before, after =>
    before.isNone || before == some '\n' || (before == some '\r' && after != some '\n')
  | .lineEnd false, _, after => after.isNone || after == some '\n'
  | .lineEnd true, before, after =>
    after.isNone || after == some '\r' || (after == some '\n' && before != some '\r')
  | .wordBoundary u, before, after => isWordAt u before != isWordAt u after
  | .noWordBoundary u, before, after => isWordAt u before == isWordAt u after
  | .wordStart u, before, after => !isWordAt u before && isWordAt u after
  | .wordEnd u, before, after => isWordAt u before && !isWordAt u after
  | .wordStartHalf u, before, _ => !isWordAt u before
  | .wordEndHalf u, _, after => !isWordAt u after

inductive Node where
  | one (set : CharSet)
  | look (condition : Look)
  /-- One pattern after another. -/
  | seq (items : List Node)
  /-- One pattern or another. -/
  | alt (options : List Node)
  | rep (item : Node) (least : Nat) (most : Option Nat)
  /-- A part whose match is kept in mind. -/
  | capture (item : Node)

namespace Node

/-- One pattern after another, in order. A single one stands for itself. -/
def inOrder : List Node → Node
  | [n] => n
  | items => .seq items

end Node

end EntityProps.Pattern
