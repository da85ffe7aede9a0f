import EntityProps.Text.Blank

/-!
# Entity kinds

A program entity that can carry properties is of one of seven kinds. The
marker of a kind opens the annotations of its entities; no marker is a prefix
of another, so an annotation has at most one kind.
-/

namespace EntityProps

inductive Kind where
  | scope
  | cls
  | struct
  | field
  | method
  | enum
  | enumValue
deriving DecidableEq

namespace Kind

/-- Every kind, in the order in which listings show them. -/
def all : List Kind :=
  [.scope, .cls, .struct, .field, .method, .enum, .enumValue]

def marker : Kind → String
  | .scope => "KGN:"
  | .cls => "KGC:"
  | .struct => "KGS:"
  | .field => "KGF:"
  | .method => "KGM:"
  | .enum => "KGE:"
  | .enumValue => "KGEV:"

def name : Kind → String
  | .scope => "namespace"
  | .cls => "class"
  | .struct => "struct"
  | .field => "field"
  | .method => "method"
  | .enum => "enum"
  | .enumValue => "enum-value"

def ofName? (text : String) : Option Kind :=
  all.find? (·.name == text)

/-- The annotation after the marker of `kind`, if it starts with that marker. -/
def body? (kind : Kind) (text : String) : Option (List Char) :=
  kind.marker.toList.isPrefixOf? text.toList

/-- The annotation starts with the marker of `kind`. -/
def opens (kind : Kind) (text : String) : Bool :=
  kind.marker.toList.isPrefixOf text.toList

/-- Takes a kind instead of the best one so far if its marker opens the annotation and is longer. -/
def better (text : String) (best : Option Kind) (kind : Kind) : Option Kind :=
  if kind.opens text && best.all (·.marker.utf8ByteSize < kind.marker.utf8ByteSize) then some kind
  else best

/-- The kind whose marker opens the annotation. The longest one wins. -/
def ofMarker? (text : String) : Option Kind :=
  all.foldl (better text) none

/-- The form in which names typed by a user are compared: no white space around them,
lower-case ASCII letters, hyphens in place of underscores. -/
def normalizeName (text : String) : String :=
  String.ofList <| (Text.trim text.toList).map fun c =>
    if c = '_' then '-' else c.toLower

/-- The kind that a user means. Case, surrounding white space and the way to join
the two words of `enum-value` are free. -/
def ofText? (text : String) : Option Kind :=
  let key := normalizeName text
  -- Joined by nothing, the two words are no name of a kind.
  if key == "enumvalue" then some .enumValue else ofName? key

def unknownMessage (text : String) : String :=
  "Unknown entity kind: " ++ text

end Kind

end EntityProps
