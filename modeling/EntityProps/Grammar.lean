/-!
# Grammar settings

Four structural characters and a list of ignored ones drive the property
language. The structural characters can be told apart where they meet: the
property separator and the two enclosers differ from each other, and the
sub-property separator differs from the enclosers. It may equal the property
separator. None of the four is ignored.
-/

namespace EntityProps

/-- Grammar characters as written, before any check. -/
structure GrammarSpec where
  separator : Char := ','
  opening : Char := '('
  closing : Char := ')'
  subSeparator : Char := ','
  ignored : List Char := [' ']
deriving DecidableEq

inductive Role where
  | separator
  | opening
  | closing
  | subSeparator
deriving DecidableEq

def Role.label : Role → String
  | .separator => "property separator"
  | .opening => "sub-property open encloser"
  | .closing => "sub-property close encloser"
  | .subSeparator => "sub-property separator"

inductive GrammarFault where
  | clash (first second : Role) (c : Char)
  | subSeparatorEncloses (c : Char)
  | ignored (role : Role) (c : Char)
deriving DecidableEq

def quoteChar (c : Char) : String :=
  "`" ++ String.singleton c ++ "`"

def GrammarFault.message : GrammarFault → String
  | .clash first second c =>
    first.label ++ " and " ++ second.label ++ " are both " ++ quoteChar c
  | .subSeparatorEncloses c =>
    Role.subSeparator.label ++ " " ++ quoteChar c ++ " collides with an encloser"
  | .ignored role c =>
    role.label ++ " " ++ quoteChar c ++ " is also an ignored character"

namespace GrammarSpec

/-- The first fault: equal structural characters, then a sub-property separator that
encloses, then an ignored structural character, each in the order of the roles. -/
def fault? (g : GrammarSpec) : Option GrammarFault :=
  if g.separator = g.opening then some (.clash .separator .opening g.separator)
  else if g.separator = g.closing then some (.clash .separator .closing g.separator)
  else if g.opening = g.closing then some (.clash .opening .closing g.opening)
  else if g.subSeparator = g.opening ∨ g.subSeparator = g.closing then
    some (.subSeparatorEncloses g.subSeparator)
  else if g.separator ∈ g.ignored then some (.ignored .separator g.separator)
  else if g.opening ∈ g.ignored then some (.ignored .opening g.opening)
  else if g.closing ∈ g.ignored then some (.ignored .closing g.closing)
  else if g.subSeparator ∈ g.ignored then some (.ignored .subSeparator g.subSeparator)
  else none

/-- The characters can drive the language. -/
structure Valid (g : GrammarSpec) : Prop where
  separator_ne_opening : g.separator ≠ g.opening
  separator_ne_closing : g.separator ≠ g.closing
  opening_ne_closing : g.opening ≠ g.closing
  subSeparator_ne_opening : g.subSeparator ≠ g.opening
  subSeparator_ne_closing : g.subSeparator ≠ g.closing
  separator_kept : g.separator ∉ g.ignored
  opening_kept : g.opening ∉ g.ignored
  closing_kept : g.closing ∉ g.ignored
  subSeparator_kept : g.subSeparator ∉ g.ignored

theorem fault?_eq_none_iff (g : GrammarSpec) : g.fault? = none ↔ g.Valid := by
  unfold fault?
  constructor
  · intro h
    split at h; · simp at h
    split at h; · simp at h
    split at h; · simp at h
    split at h; · simp at h
    split at h; · simp at h
    split at h; · simp at h
    split at h; · simp at h
    split at h; · simp at h
    rename_i h₁ h₂ h₃ h₄ h₅ h₆ h₇ h₈
    exact ⟨h₁, h₂, h₃, fun e => h₄ (.inl e), fun e => h₄ (.inr e), h₅, h₆, h₇, h₈⟩
  · intro ⟨h₁, h₂, h₃, h₄, h₅, h₆, h₇, h₈, h₉⟩
    simp [h₁, h₂, h₃, h₄, h₅, h₆, h₇, h₈, h₉]

/-- The same characters with each ignored one listed once, where it first stands. -/
def distinct (g : GrammarSpec) : GrammarSpec :=
  { g with ignored := g.ignored.eraseDups }

end GrammarSpec

/-- Grammar characters that can drive the language. -/
structure Grammar extends GrammarSpec where
  valid : toGrammarSpec.Valid

namespace Grammar

/-- The settings with these characters, repeats among the ignored ones left out. -/
def ofSpec (g : GrammarSpec) : Except GrammarFault Grammar :=
  match h : g.distinct.fault? with
  | some fault => .error fault
  | none => .ok { g.distinct with valid := (g.distinct.fault?_eq_none_iff).1 h }

/-- Commas between properties and between sub-properties, round brackets, spaces ignored. -/
def standard : Grammar where
  valid := (GrammarSpec.fault?_eq_none_iff {}).1 (by decide)

instance : DecidableEq Grammar := fun a b =>
  if h : a.toGrammarSpec = b.toGrammarSpec then
    .isTrue (by cases a; cases b; cases h; rfl)
  else .isFalse (fun e => h (congrArg toGrammarSpec e))

def isIgnored (g : Grammar) (c : Char) : Bool :=
  g.ignored.contains c

def strip (g : Grammar) (text : List Char) : List Char :=
  text.filter fun c => !g.isIgnored c

end Grammar

def GrammarFault.settingsMessage (fault : GrammarFault) : String :=
  "Invalid grammar settings: " ++ fault.message

end EntityProps
