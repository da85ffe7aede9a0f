import EntityProps.Declaration

/-!
# Rules

A rule decides which property names it takes on which kinds of entities, which
sub-properties it accepts, and in the end whether a property may stand in its
group. Some rules are built in, some are declared, and others are given by
their answers.
-/

namespace EntityProps

/-- What a rule is shown of a rule for simple properties. The tag tells apart rules with the same
answers. -/
structure SimpleView where
  label : Label
  tag : Option Nat
  accepts : String → Kind → Bool

/-- What a rule is shown of a rule for complex properties. -/
structure ComplexView extends SimpleView where
  acceptsSub : String → Nat → Bool

/-- What a rule is shown of a group: names, sub-properties, and of each rule all but its judgement
of groups. -/
abbrev Outline := PropertyGroup SimpleView ComplexView

/-- A rule for simple properties, given by its answers. -/
structure CustomSimple where
  label : Label
  tag : Option Nat := none
  accepts : String → Kind → Bool
  allows : Outline → Nat → Bool := fun _ _ => true

/-- A rule for complex properties, given by its answers. -/
structure CustomComplex extends CustomSimple where
  acceptsSub : String → Nat → Bool

inductive SimpleRule where
  | declared (rule : DeclaredSimple)
  | custom (rule : CustomSimple)

inductive ComplexRule where
  /-- The code template of an entity. -/
  | template
  /-- A getter for a field. -/
  | getter
  /-- A setter for a field. -/
  | setter
  | declared (rule : DeclaredComplex)
  | custom (rule : CustomComplex)

namespace SimpleRule

def label : SimpleRule → Label
  | declared r => r.decl.label
  | custom r => r.label

def tag? : SimpleRule → Option Nat
  | declared _ => none
  | custom r => r.tag

/-- The rule takes properties with this name on entities of this kind. -/
def accepts : SimpleRule → String → Kind → Bool
  | declared r => r.decl.accepts
  | custom r => r.accepts

def view (r : SimpleRule) : SimpleView :=
  { label := r.label, tag := r.tag?, accepts := r.accepts }

/-- The property at this index among the simple ones may stand in its group. -/
def allows : SimpleRule → Outline → Nat → Bool
  | declared r, g, index => r.decl.allows g (g.repeatsSimple index)
  | custom r, g, index => r.allows g index

/-- A rule with the same answers and a tag. -/
def tagged (r : SimpleRule) (tag : Nat) : SimpleRule :=
  .custom { label := r.label, tag := some tag, accepts := r.accepts, allows := r.allows }

def any (name : String) : SimpleRule :=
  .custom { label := ⟨name, ""⟩, accepts := fun _ _ => true }

end SimpleRule

namespace ComplexRule

def getterQualifiers : List String :=
  ["const", "explicit", "*", "&"]

/-- Sub-properties of setters: those that make sense for a parameter. -/
def setterQualifiers : List String :=
  ["explicit", "*", "&"]

/-- A name of a template: ASCII letters, digits and underscores, at least one. -/
def isTemplateName (text : String) : Bool :=
  !text.isEmpty && text.toList.all fun c => c.isAlphanum || c == '_'

def hasRepeat : List String → Bool
  | [] => false
  | s :: rest => rest.contains s || hasRepeat rest

/-- The accessor at this index is the first of its name, repeats no qualifier, and is not both
by pointer and by reference. -/
def allowsAccessor (g : Outline) (index : Nat) : Bool :=
  match g.complex[index]? with
  | some p =>
    -- Sub-properties are compared as they are written.
    !g.repeatsComplex index && !hasRepeat p.subs && !(p.subs.contains "*" && p.subs.contains "&")
  | none => false

/-- The template at this index is the first of its name and has one sub-property. -/
def allowsTemplate (g : Outline) (index : Nat) : Bool :=
  match g.complex[index]? with
  | some p => p.subs.length == 1 && !g.repeatsComplex index
  | none => false

def label : ComplexRule → Label
  | template => ⟨"GenCodeTemplate", "Select the code generation template for the entity"⟩
  | getter => ⟨"Getter", "Generate a getter for the field"⟩
  | setter => ⟨"Setter", "Generate a setter for the field"⟩
  | declared r => r.decl.label
  | custom r => r.label

def tag? : ComplexRule → Option Nat
  | custom r => r.tag
  | _ => none

/-- The rule takes properties with this name on entities of this kind. -/
def accepts : ComplexRule → String → Kind → Bool
  | template, name, _ => name == template.label.name
  | getter, name, kind => name == getter.label.name && kind == .field
  | setter, name, kind => name == setter.label.name && kind == .field
  | declared r, name, kind => r.decl.accepts name kind
  | custom r, name, kind => r.accepts name kind

def acceptsSub : ComplexRule → String → Nat → Bool
  | template, sub, index => index == 0 && isTemplateName sub
  | getter, sub, _ => getterQualifiers.contains sub
  | setter, sub, _ => setterQualifiers.contains sub
  | declared r, sub, index => r.acceptsSub sub index
  | custom r, sub, index => r.acceptsSub sub index

def view (r : ComplexRule) : ComplexView :=
  { label := r.label, tag := r.tag?, accepts := r.accepts, acceptsSub := r.acceptsSub }

/-- The property at this index among the complex ones may stand in its group. -/
def allows : ComplexRule → Outline → Nat → Bool
  | template => allowsTemplate
  | getter => allowsAccessor
  | setter => allowsAccessor
  | declared r => r.allows
  | custom r => r.allows

/-- A rule with the same answers and a tag. -/
def tagged (r : ComplexRule) (tag : Nat) : ComplexRule :=
  .custom { label := r.label, tag := some tag, accepts := r.accepts, allows := r.allows,
            acceptsSub := r.acceptsSub }

def any (name : String) : ComplexRule :=
  .custom { label := ⟨name, ""⟩, accepts := fun _ _ => true, acceptsSub := fun _ _ => true }

end ComplexRule

abbrev BoundGroup := PropertyGroup SimpleRule ComplexRule

def PropertyGroup.outline (g : BoundGroup) : Outline :=
  g.map SimpleRule.view ComplexRule.view

end EntityProps
