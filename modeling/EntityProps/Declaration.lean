import EntityProps.Kind
import EntityProps.Pattern
import EntityProps.PropertyGroup

/-!
# Declared rules

A configuration declares rules by what they demand: the kinds of entities, that
a name stands once, names that may not or must stand beside it, and for complex
properties how many sub-properties there are and what each looks like.
-/

namespace EntityProps

/-- Declaration of a rule for a simple property. No kinds of entities means all kinds. -/
structure SimpleDecl where
  name : String
  description : String := ""
  entities : List Kind := []
  unique : Bool := false
  conflictsWith : List String := []
  requires : List String := []
deriving DecidableEq

structure ComplexDecl extends SimpleDecl where
  minSubs : Nat := 0
  maxSubs : Option Nat := none
  subPattern : Option String := none
deriving DecidableEq

/-- Why a declaration is no rule. -/
inductive DeclFault where
  | emptyName
  | crossedBounds (least most : Nat)
  | badPattern (fault : Pattern.Fault)
deriving DecidableEq

structure RuleFault where
  name : String
  fault : DeclFault
deriving DecidableEq

def DeclFault.message : DeclFault → String
  | .emptyName => "rule name is empty"
  | .crossedBounds least most =>
    "min_subs " ++ toString least ++ " exceeds max_subs " ++ toString most
  | .badPattern .malformed => "regex parse error:"
  | .badPattern .tooLarge =>
    "Compiled regex exceeds size limit of " ++ toString Pattern.Machine.sizeLimit ++ " bytes."

def RuleFault.message (f : RuleFault) : String :=
  "Invalid rule `" ++ f.name ++ "`: " ++ f.fault.message

namespace SimpleDecl

def label (d : SimpleDecl) : Label :=
  ⟨d.name, d.description⟩

def admits (d : SimpleDecl) (kind : Kind) : Bool :=
  d.entities.isEmpty || d.entities.contains kind

def accepts (d : SimpleDecl) (name : String) (kind : Kind) : Bool :=
  name == d.name && d.admits kind

/-- The demands on the group around a property. `repeated` says that the name stands before
the property already. A declaration does not conflict with its own name. -/
@[inline] def allows {σ χ : Type} (d : SimpleDecl) (g : PropertyGroup σ χ) (repeated : Bool) : Bool :=
  !(d.unique && repeated) &&
    !(d.conflictsWith.any fun other => other != d.name && g.contains other) &&
    d.requires.all g.contains

end SimpleDecl

structure DeclaredSimple where
  decl : SimpleDecl
  named : decl.name ≠ ""

/-- A rule declared for a complex property, its pattern compiled between anchors. -/
structure DeclaredComplex where
  decl : ComplexDecl
  pattern : Option Pattern
  named : decl.name ≠ ""
  bounded : ∀ most, decl.maxSubs = some most → decl.minSubs ≤ most
  compiled : decl.subPattern.map (fun text => Pattern.compile (Pattern.anchored text)) =
    pattern.map .ok

/-- The rule that a declaration stands for. -/
def DeclaredSimple.ofDecl (d : SimpleDecl) : Except RuleFault DeclaredSimple :=
  if named : d.name = "" then .error ⟨d.name, .emptyName⟩ else .ok ⟨d, named⟩

namespace DeclaredComplex

/-- The rule that a declaration stands for. The name is checked first, then the bounds, then
the pattern. -/
def ofDecl (d : ComplexDecl) : Except RuleFault DeclaredComplex :=
  if named : d.name = "" then .error ⟨d.name, .emptyName⟩
  else
    match hm : d.maxSubs with
    | some most =>
      if bounded : d.minSubs ≤ most then
        withPattern d named fun m h => by rw [hm] at h; cases h; exact bounded
      else .error ⟨d.name, .crossedBounds d.minSubs most⟩
    | none => withPattern d named fun m h => by rw [hm] at h; cases h
where
  withPattern (d : ComplexDecl) (named : d.name ≠ "")
      (bounded : ∀ most, d.maxSubs = some most → d.minSubs ≤ most) :
      Except RuleFault DeclaredComplex :=
    match hp : d.subPattern with
    | none => .ok ⟨d, none, named, bounded, by simp [hp]⟩
    | some text =>
      match hc : Pattern.compile (Pattern.anchored text) with
      | .ok pattern => .ok ⟨d, some pattern, named, bounded, by simp [hp, hc]⟩
      | .error fault => .error ⟨d.name, .badPattern fault⟩

/-- What each sub-property must look like: it matches the pattern, or without one is not empty. -/
def acceptsSub (r : DeclaredComplex) (sub : String) (index : Nat) : Bool :=
  r.decl.maxSubs.all (index < ·) &&
    match r.pattern with
    | some pattern => pattern.isMatch sub
    | none => !sub.isEmpty

/-- The demands on the group around the complex property at `index`, and on the number of its
sub-properties. -/
def allows {σ χ : Type} (r : DeclaredComplex) (g : PropertyGroup σ χ) (index : Nat) : Bool :=
  match g.complex[index]? with
  | some p => decide (r.decl.minSubs ≤ p.subs.length) && r.decl.allows g (g.repeatsComplex index)
  | none => false

end DeclaredComplex

end EntityProps
