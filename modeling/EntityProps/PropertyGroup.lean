/-!
# Property groups

The properties of one entity: simple ones, which are a name, and complex ones,
which have sub-properties. Each is bound to a rule; what stands for a rule is
left open here, so that a group can be shown with rules or with their labels.
-/

namespace EntityProps

structure Label where
  name : String
  description : String
deriving DecidableEq

structure SimpleProperty (ρ : Type) where
  name : String
  rule : ρ
deriving DecidableEq

/-- A property with sub-properties, in source order. -/
structure ComplexProperty (ρ : Type) where
  name : String
  subs : List String
  rule : ρ
deriving DecidableEq

/-- All properties of one entity, those of each sort in source order. -/
structure PropertyGroup (σ χ : Type) where
  simple : List (SimpleProperty σ)
  complex : List (ComplexProperty χ)
deriving DecidableEq

variable {σ χ τ υ : Type}

def ComplexProperty.text (p : ComplexProperty χ) : String :=
  p.name ++ "(" ++ ", ".intercalate p.subs ++ ")"

namespace PropertyGroup

def empty : PropertyGroup σ χ := ⟨[], []⟩

def isEmpty (g : PropertyGroup σ χ) : Bool :=
  g.simple.isEmpty && g.complex.isEmpty

def size (g : PropertyGroup σ χ) : Nat :=
  g.simple.length + g.complex.length

def consSimple (p : SimpleProperty σ) (g : PropertyGroup σ χ) : PropertyGroup σ χ :=
  { g with simple := p :: g.simple }

def consComplex (p : ComplexProperty χ) (g : PropertyGroup σ χ) : PropertyGroup σ χ :=
  { g with complex := p :: g.complex }

def simple? (g : PropertyGroup σ χ) (name : String) : Option (SimpleProperty σ) :=
  g.simple.find? (·.name == name)

def complex? (g : PropertyGroup σ χ) (name : String) : Option (ComplexProperty χ) :=
  g.complex.find? (·.name == name)

def contains (g : PropertyGroup σ χ) (name : String) : Bool :=
  (g.simple? name).isSome || (g.complex? name).isSome

def simpleNames (g : PropertyGroup σ χ) : List String :=
  g.simple.map (·.name)

def complexNames (g : PropertyGroup σ χ) : List String :=
  g.complex.map (·.name)

/-- A name stands at this index and also before it. -/
def repeatsAt (names : List String) (index : Nat) : Bool :=
  match names[index]? with
  | some name => (names.take index).contains name
  | none => false

def repeatsSimple (g : PropertyGroup σ χ) (index : Nat) : Bool :=
  repeatsAt g.simpleNames index

def repeatsComplex (g : PropertyGroup σ χ) (index : Nat) : Bool :=
  repeatsAt g.complexNames index

/-- The same properties with other things in place of the rules. -/
def map (f : σ → τ) (h : χ → υ) (g : PropertyGroup σ χ) : PropertyGroup τ υ where
  simple := g.simple.map fun p => ⟨p.name, f p.rule⟩
  complex := g.complex.map fun p => ⟨p.name, p.subs, h p.rule⟩

/-- The canonical text of a group: the simple properties, then the complex ones. -/
def text (g : PropertyGroup σ χ) : String :=
  ", ".intercalate (g.simpleNames ++ g.complex.map (·.text))

end PropertyGroup

end EntityProps
