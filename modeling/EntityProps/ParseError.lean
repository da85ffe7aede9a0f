/-!
# Parse errors

Reading an annotation ends at its first error. An error carries what its
message names; its kind is what reports and the error slot of a session keep.
-/

namespace EntityProps

/-- First error of an annotation. -/
inductive ParseError where
  /-- The annotation does not open with the marker of the expected kind. -/
  | wrongMarker (expected : String)
  /-- No simple rule takes the name, or the rule that does refuses the group. -/
  | invalidSimple (name : String)
  /-- No complex rule takes the name, or the rule that does refuses the group. -/
  | invalidComplex (name : String)
  /-- The rule of `property` refuses the sub-property at `index`. -/
  | invalidSub (property : String) (index : Nat) (value : String)
  /-- The text ends inside the enclosers of a property. -/
  | unclosed
  /-- A close encloser is followed by something other than a property separator. -/
  | separatorMissing
deriving DecidableEq

/-- A parse error without its details. -/
inductive ErrorKind where
  | wrongMarker
  | invalidSimple
  | invalidComplex
  | invalidSub
  | unclosed
  | separatorMissing
deriving DecidableEq

namespace ErrorKind

/-- Every kind of error, in the order in which listings show them. -/
def all : List ErrorKind :=
  [.wrongMarker, .invalidSimple, .invalidComplex, .invalidSub, .unclosed, .separatorMissing]

def code : ErrorKind → String
  | .wrongMarker => "wrong_property_marker"
  | .invalidSimple => "invalid_simple_property"
  | .invalidComplex => "invalid_complex_main_property"
  | .invalidSub => "invalid_complex_sub_property"
  | .unclosed => "sub_property_end_encloser_missing"
  | .separatorMissing => "property_separator_missing"

/-- Identifier of an outcome: that of its error, or the word for none. -/
def outcomeCode : Option ErrorKind → String
  | some kind => kind.code
  | none => "none"

end ErrorKind

namespace ParseError

def kind : ParseError → ErrorKind
  | .wrongMarker _ => .wrongMarker
  | .invalidSimple _ => .invalidSimple
  | .invalidComplex _ => .invalidComplex
  | .invalidSub .. => .invalidSub
  | .unclosed => .unclosed
  | .separatorMissing => .separatorMissing

def message : ParseError → String
  | .wrongMarker expected => "wrong property marker used, expected `" ++ expected ++ "`"
  | .invalidSimple name => "invalid simple property `" ++ name ++ "`"
  | .invalidComplex name => "invalid complex main property `" ++ name ++ "`"
  | .invalidSub property index value =>
    "invalid sub-property `" ++ value ++ "` at index " ++ toString index ++ " of `" ++ property ++ "`"
  | .unclosed => "missing sub-property close encloser"
  | .separatorMissing => "missing property separator after sub-property close encloser"

end ParseError

end EntityProps
