import EntityProps.Rule

/-!
# Rule registries

Rules are kept in two tiers, native ones and those of users, each in the order
of registration. A search asks the native rules first and in each tier the
newest rule first.
-/

namespace EntityProps

inductive Origin where
  | native
  | user
deriving DecidableEq

def Origin.name : Origin → String
  | .native => "native"
  | .user => "user"

structure RuleInfo where
  label : Label
  complex : Bool
  origin : Origin
deriving DecidableEq

/-- Rules by tier and sort, oldest first. -/
structure Registry where
  nativeSimple : List SimpleRule := []
  userSimple : List SimpleRule := []
  nativeComplex : List ComplexRule := []
  userComplex : List ComplexRule := []

namespace Registry

def empty : Registry := {}

def addSimple (r : Registry) (origin : Origin) (rule : SimpleRule) : Registry :=
  match origin with
  | .native => { r with nativeSimple := r.nativeSimple ++ [rule] }
  | .user => { r with userSimple := r.userSimple ++ [rule] }

def addComplex (r : Registry) (origin : Origin) (rule : ComplexRule) : Registry :=
  match origin with
  | .native => { r with nativeComplex := r.nativeComplex ++ [rule] }
  | .user => { r with userComplex := r.userComplex ++ [rule] }

def addNative (r : Registry) : Registry :=
  r.addComplex .native .template

/-- Registers the accessors of fields, as rules of the user. -/
def addAccessors (r : Registry) : Registry :=
  (r.addComplex .user .getter).addComplex .user .setter

def native : Registry :=
  empty.addNative

/-- The rules for simple properties in the order of search. -/
def simpleByPrecedence (r : Registry) : List (Origin × SimpleRule) :=
  r.nativeSimple.reverse.map (Origin.native, ·) ++ r.userSimple.reverse.map (Origin.user, ·)

def complexByPrecedence (r : Registry) : List (Origin × ComplexRule) :=
  r.nativeComplex.reverse.map (Origin.native, ·) ++ r.userComplex.reverse.map (Origin.user, ·)

/-- The first rule, in the order of search, that takes a simple property. -/
def simpleRule? (r : Registry) (name : String) (kind : Kind) : Option SimpleRule :=
  (r.simpleByPrecedence.map (·.2)).find? (·.accepts name kind)

def complexRule? (r : Registry) (name : String) (kind : Kind) : Option ComplexRule :=
  (r.complexByPrecedence.map (·.2)).find? (·.accepts name kind)

/-- All rules in the order of search, those for simple properties first. -/
def listing (r : Registry) : List RuleInfo :=
  r.simpleByPrecedence.map (fun (origin, rule) => ⟨rule.label, false, origin⟩) ++
    r.complexByPrecedence.map (fun (origin, rule) => ⟨rule.label, true, origin⟩)

def simpleCount (r : Registry) : Nat :=
  r.nativeSimple.length + r.userSimple.length

def complexCount (r : Registry) : Nat :=
  r.nativeComplex.length + r.userComplex.length

def isEmpty (r : Registry) : Bool :=
  r.simpleCount == 0 && r.complexCount == 0

end Registry

end EntityProps
