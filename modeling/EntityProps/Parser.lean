import EntityProps.Registry
import EntityProps.TokenGroup

/-!
# Parsing annotations

An annotation is parsed for one kind of entity. Its marker is taken off, its
body is read into token groups, each group is bound to the rule that takes its
name, and at last every rule is asked whether its property may stand in the
group. The first failure is the answer.
-/

namespace EntityProps

/-! ## Binding -/

namespace Registry

def bindSimple (r : Registry) (kind : Kind) (name : String) :
    Except ParseError (SimpleProperty SimpleRule) :=
  match r.simpleRule? name kind with
  | some rule => .ok ⟨name, rule⟩
  | none => .error (.invalidSimple name)

/-- The sub-properties that a complex property keeps: all of them, if its rule accepts each
at its index. A single empty one that the rule refuses stands for none. -/
def keptSubs (rule : ComplexRule) (name : String) (subs : List String) :
    Except ParseError (List String) :=
  match subs.zipIdx.find? fun (sub, index) => !rule.acceptsSub sub index with
  | none => .ok subs
  -- `Name()` is read with one empty sub-property.
  | some (sub, index) => if subs = [""] then .ok [] else .error (.invalidSub name index sub)

def bindComplex (r : Registry) (kind : Kind) (name : String) (subs : List String) :
    Except ParseError (ComplexProperty ComplexRule) :=
  match r.complexRule? name kind with
  | some rule => (keptSubs rule name subs).map fun subs => ⟨name, subs, rule⟩
  | none => .error (.invalidComplex name)

def bind (r : Registry) (kind : Kind) : List TokenGroup → Except ParseError BoundGroup
  | [] => .ok .empty
  | t :: rest =>
    if t.isSimple then do
      let p ← r.bindSimple kind t.main
      let g ← r.bind kind rest
      return g.consSimple p
    else do
      let p ← r.bindComplex kind t.main t.subs
      let g ← r.bind kind rest
      return g.consComplex p

end Registry

/-! ## Validity of a group -/

namespace PropertyGroup

/-- The first property, simple ones first, that its rule does not allow in the group. -/
def fault? (g : BoundGroup) : Option ParseError :=
  let outline := g.outline
  let simple := g.simple.zipIdx.find? fun (p, index) => !p.rule.allows outline index
  let complex := g.complex.zipIdx.find? fun (p, index) => !p.rule.allows outline index
  (simple.map fun (p, _) => ParseError.invalidSimple p.name).or
    (complex.map fun (p, _) => ParseError.invalidComplex p.name)

def validated (g : BoundGroup) : Except ParseError BoundGroup :=
  match g.fault? with
  | some e => .error e
  | none => .ok g

end PropertyGroup

/-! ## Annotations -/

/-- The properties that an annotation gives an entity of this kind. -/
def parse (g : Grammar) (r : Registry) (kind : Kind) (text : String) :
    Except ParseError BoundGroup :=
  match kind.body? text with
  | none => .error (.wrongMarker kind.marker)
  | some body => do
    let groups ← g.tokenGroups body
    let group ← r.bind kind groups
    group.validated

/-! ## Sessions -/

def errorKind? {α : Type} : Except ParseError α → Option ErrorKind
  | .ok _ => none
  | .error e => some e.kind

/-- Parses in a row, with a slot that holds the kind of the last error. -/
structure Session where
  grammar : Grammar
  registry : Registry
  slot : Option ErrorKind := none

namespace Session

/-- Parses an annotation. The slot afterwards tells how that went. -/
def parse (s : Session) (kind : Kind) (text : String) : Except ParseError BoundGroup × Session :=
  let outcome := EntityProps.parse s.grammar s.registry kind text
  (outcome, { s with slot := errorKind? outcome })

def parseScope (s : Session) (text : String) : Except ParseError BoundGroup × Session :=
  s.parse .scope text

def parseClass (s : Session) (text : String) : Except ParseError BoundGroup × Session :=
  s.parse .cls text

def parseStruct (s : Session) (text : String) : Except ParseError BoundGroup × Session :=
  s.parse .struct text

def parseField (s : Session) (text : String) : Except ParseError BoundGroup × Session :=
  s.parse .field text

def parseMethod (s : Session) (text : String) : Except ParseError BoundGroup × Session :=
  s.parse .method text

def parseEnum (s : Session) (text : String) : Except ParseError BoundGroup × Session :=
  s.parse .enum text

def parseEnumValue (s : Session) (text : String) : Except ParseError BoundGroup × Session :=
  s.parse .enumValue text

def entryFor : Kind → Session → String → Except ParseError BoundGroup × Session
  | .scope => parseScope
  | .cls => parseClass
  | .struct => parseStruct
  | .field => parseField
  | .method => parseMethod
  | .enum => parseEnum
  | .enumValue => parseEnumValue

def clean (s : Session) : Session :=
  { s with slot := none }

end Session

end EntityProps
