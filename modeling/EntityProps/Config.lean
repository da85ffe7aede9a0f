import EntityProps.Grammar
import EntityProps.Registry

/-!
# Configurations

A configuration gives the grammar characters, says which of the built-in rules
are registered, and declares further rules.
-/

namespace EntityProps

structure RuleSets where
  native : Bool := true
  accessors : Bool := false
deriving DecidableEq

structure Config where
  grammar : Grammar := .standard
  rules : RuleSets := {}
  simpleRules : List SimpleDecl := []
  complexRules : List ComplexDecl := []
deriving DecidableEq

namespace Config

def defaultFile : String := "kgprops.toml"

def builtin (c : Config) : Registry :=
  let r := if c.rules.native then Registry.native else .empty
  if c.rules.accessors then r.addAccessors else r

/-- The registry of the built-in and the declared rules. The first declaration that is no rule
is the failure, and those of simple properties come first. -/
def registry (c : Config) : Except RuleFault Registry := do
  let simple ← c.simpleRules.mapM DeclaredSimple.ofDecl
  let complex ← c.complexRules.mapM DeclaredComplex.ofDecl
  -- In file order, so the last of two declarations for a name is the one that is found.
  let r := simple.foldl (fun r d => r.addSimple .user (.declared d)) c.builtin
  return complex.foldl (fun r d => r.addComplex .user (.declared d)) r

end Config

end EntityProps
