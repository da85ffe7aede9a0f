import EntityProps.Parser
import EntityProps.Proofs.Precedence

/-!
# Histories of registrations

A registry comes to be by registrations, one after another: native rules and
those of users, for simple properties and for complex ones, in any order. Each
tier holds what was registered for it, oldest first (`simpleTier_registerAll`,
`complexTier_registerAll`), and that is all a registry keeps of its history.

So a search is answered by the history (`registerAll_spec`). Registrations for
another tier may come in between, and those for the other sort of properties do
not count.
-/

namespace EntityProps

/-! ## Registrations -/

/-- A rule is registered in a tier. -/
inductive Registration where
  | simple (origin : Origin) (rule : SimpleRule)
  | complex (origin : Origin) (rule : ComplexRule)

namespace Registration

/-- The rule, if it is one for simple properties and goes to this tier. -/
def simple? (origin : Origin) : Registration → Option SimpleRule
  | simple o rule => if o = origin then some rule else none
  | complex _ _ => none

/-- The rule, if it is one for complex properties and goes to this tier. -/
def complex? (origin : Origin) : Registration → Option ComplexRule
  | simple _ _ => none
  | complex o rule => if o = origin then some rule else none

def info : Registration → RuleInfo
  | simple origin rule => ⟨rule.label, false, origin⟩
  | complex origin rule => ⟨rule.label, true, origin⟩

/-- The rules for simple properties that a history registers in a tier, oldest
first. -/
def simpleRules (history : List Registration) (origin : Origin) : List SimpleRule :=
  history.filterMap (simple? origin)

/-- The rules for complex properties that a history registers in a tier, oldest
first. -/
def complexRules (history : List Registration) (origin : Origin) : List ComplexRule :=
  history.filterMap (complex? origin)

end Registration

namespace Registry

open Registration (simpleRules complexRules)

def register (r : Registry) : Registration → Registry
  | .simple origin rule => r.addSimple origin rule
  | .complex origin rule => r.addComplex origin rule

def registerAll (r : Registry) (history : List Registration) : Registry :=
  history.foldl register r

/-- The rules of a tier for simple properties, oldest first. -/
def simpleTier (r : Registry) : Origin → List SimpleRule
  | .native => r.nativeSimple
  | .user => r.userSimple

/-- The rules of a tier for complex properties, oldest first. -/
def complexTier (r : Registry) : Origin → List ComplexRule
  | .native => r.nativeComplex
  | .user => r.userComplex

variable {r r' : Registry} {history history' : List Registration} {origin : Origin}

theorem eq_of_tiers (hsimple : ∀ origin, r.simpleTier origin = r'.simpleTier origin)
    (hcomplex : ∀ origin, r.complexTier origin = r'.complexTier origin) : r = r' := by
  obtain ⟨nativeSimple, userSimple, nativeComplex, userComplex⟩ := r
  obtain rfl : nativeSimple = r'.nativeSimple := hsimple .native
  obtain rfl : userSimple = r'.userSimple := hsimple .user
  obtain rfl : nativeComplex = r'.nativeComplex := hcomplex .native
  obtain rfl : userComplex = r'.userComplex := hcomplex .user
  rfl

/-! ## Tiers after registrations -/

theorem registerAll_cons (r : Registry) (s : Registration) (history : List Registration) :
    r.registerAll (s :: history) = (r.register s).registerAll history := rfl

/-- A registration adds to the end of one tier and leaves the others as they are. -/
theorem simpleTier_register (r : Registry) (s : Registration) (origin : Origin) :
    (r.register s).simpleTier origin = r.simpleTier origin ++ (s.simple? origin).toList := by
  cases s with
  | simple o rule =>
    cases o <;> cases origin <;> simp [register, addSimple, simpleTier, Registration.simple?]
  | complex o rule =>
    cases o <;> cases origin <;> simp [register, addComplex, simpleTier, Registration.simple?]

theorem complexTier_register (r : Registry) (s : Registration) (origin : Origin) :
    (r.register s).complexTier origin = r.complexTier origin ++ (s.complex? origin).toList := by
  cases s with
  | simple o rule =>
    cases o <;> cases origin <;> simp [register, addSimple, complexTier, Registration.complex?]
  | complex o rule =>
    cases o <;> cases origin <;> simp [register, addComplex, complexTier, Registration.complex?]

/-- A tier holds what was registered for it, in the order of registration. -/
theorem simpleTier_registerAll (r : Registry) (history : List Registration) (origin : Origin) :
    (r.registerAll history).simpleTier origin =
      r.simpleTier origin ++ simpleRules history origin := by
  induction history generalizing r with
  | nil => simp [registerAll, simpleRules]
  | cons s history ih =>
    rw [registerAll_cons, ih, simpleTier_register, simpleRules, simpleRules,
      List.filterMap_cons, List.append_assoc]
    cases s.simple? origin <;> rfl

theorem complexTier_registerAll (r : Registry) (history : List Registration) (origin : Origin) :
    (r.registerAll history).complexTier origin =
      r.complexTier origin ++ complexRules history origin := by
  induction history generalizing r with
  | nil => simp [registerAll, complexRules]
  | cons s history ih =>
    rw [registerAll_cons, ih, complexTier_register, complexRules, complexRules,
      List.filterMap_cons, List.append_assoc]
    cases s.complex? origin <;> rfl

/-! ## Listings after registrations -/

theorem simpleByPrecedence_addSimple (r : Registry) (origin : Origin) (rule : SimpleRule) :
    (r.addSimple origin rule).simpleByPrecedence.Perm ((origin, rule) :: r.simpleByPrecedence) := by
  cases origin <;> simp [addSimple, simpleByPrecedence]

theorem complexByPrecedence_addComplex (r : Registry) (origin : Origin) (rule : ComplexRule) :
    (r.addComplex origin rule).complexByPrecedence.Perm
      ((origin, rule) :: r.complexByPrecedence) := by
  cases origin <;> simp [addComplex, complexByPrecedence]

/-- A registration adds one entry to the listing. -/
theorem listing_register (r : Registry) (s : Registration) :
    (r.register s).listing.Perm (s.info :: r.listing) := by
  rw [listing_eq, listing_eq]
  -- A rule leads the entries of its tier, not the listing, so this is up to order.
  cases s with
  | simple origin rule =>
    have hcomplex : (r.register (.simple origin rule)).complexByPrecedence =
        r.complexByPrecedence := by
      cases origin <;> rfl
    rw [hcomplex]
    exact ((simpleByPrecedence_addSimple r origin rule).map RuleInfo.ofSimple).append_right _
  | complex origin rule =>
    have hsimple : (r.register (.complex origin rule)).simpleByPrecedence =
        r.simpleByPrecedence := by
      cases origin <;> rfl
    rw [hsimple]
    have hentry := (complexByPrecedence_addComplex r origin rule).map RuleInfo.ofComplex
    exact (hentry.append_left _).trans List.perm_middle

/-- A listing has one entry for each registration. -/
theorem listing_registerAll (r : Registry) (history : List Registration) :
    (r.registerAll history).listing.Perm (r.listing ++ history.map (·.info)) := by
  induction history generalizing r with
  | nil => simp [registerAll]
  | cons s history ih =>
    rw [registerAll_cons]
    refine (ih (r.register s)).trans ?_
    refine ((listing_register r s).append_right _).trans ?_
    exact List.perm_middle.symm

/-! ## Searches after registrations -/

/-- Two histories register the same rules for simple properties in each tier. -/
def SameSimple (history history' : List Registration) : Prop :=
  ∀ origin, simpleRules history origin = simpleRules history' origin

/-- Two histories register the same rules for complex properties in each tier. -/
def SameComplex (history history' : List Registration) : Prop :=
  ∀ origin, complexRules history origin = complexRules history' origin

theorem simpleRule?_registerAll_iff (r : Registry) (history : List Registration)
    (name : String) (kind : Kind) (found : Option SimpleRule) :
    (r.registerAll history).simpleRule? name kind = found ↔
      Preferred (fun rule => rule.accepts name kind = true)
        (r.nativeSimple ++ simpleRules history .native)
        (r.userSimple ++ simpleRules history .user) found := by
  rw [simpleRule?_eq_iff_preferred]
  have hnative := simpleTier_registerAll r history .native
  have huser := simpleTier_registerAll r history .user
  simp only [simpleTier] at hnative huser
  rw [hnative, huser]

theorem complexRule?_registerAll_iff (r : Registry) (history : List Registration)
    (name : String) (kind : Kind) (found : Option ComplexRule) :
    (r.registerAll history).complexRule? name kind = found ↔
      Preferred (fun rule => rule.accepts name kind = true)
        (r.nativeComplex ++ complexRules history .native)
        (r.userComplex ++ complexRules history .user) found := by
  rw [complexRule?_eq_iff_preferred]
  have hnative := complexTier_registerAll r history .native
  have huser := complexTier_registerAll r history .user
  simp only [complexTier] at hnative huser
  rw [hnative, huser]

/-- All that a registry keeps of its history is what each tier was given. -/
theorem registerAll_eq_of_same (r : Registry) (hsimple : SameSimple history history')
    (hcomplex : SameComplex history history') :
    r.registerAll history = r.registerAll history' := by
  refine eq_of_tiers ?_ ?_
  · intro origin
    rw [simpleTier_registerAll, simpleTier_registerAll, hsimple]
  · intro origin
    rw [complexTier_registerAll, complexTier_registerAll, hcomplex]

/-- **Native rules first, newer rules first.** Let any rules be registered one after
another, in any tiers: in a registry without rules, in that of the native rules,
or in another. A search finds the newest native rule that takes the name, else
the newest rule of a user that does, and nothing only if no registered rule does.
What is registered for the other sort of properties does not count, and neither
does how the registrations for different tiers are interleaved. A listing has one
entry for each registration. -/
theorem registerAll_spec (r : Registry) (history : List Registration) :
    (∀ name kind found, (r.registerAll history).simpleRule? name kind = found ↔
      Preferred (fun rule => rule.accepts name kind = true)
        (r.nativeSimple ++ simpleRules history .native)
        (r.userSimple ++ simpleRules history .user) found) ∧
    (∀ name kind found, (r.registerAll history).complexRule? name kind = found ↔
      Preferred (fun rule => rule.accepts name kind = true)
        (r.nativeComplex ++ complexRules history .native)
        (r.userComplex ++ complexRules history .user) found) ∧
    (∀ history', SameSimple history history' → ∀ name kind,
      (r.registerAll history).simpleRule? name kind =
        (r.registerAll history').simpleRule? name kind) ∧
    (∀ history', SameComplex history history' → ∀ name kind,
      (r.registerAll history).complexRule? name kind =
        (r.registerAll history').complexRule? name kind) ∧
    (∀ history', SameSimple history history' → SameComplex history history' →
      (r.registerAll history).listing = (r.registerAll history').listing ∧
      ∀ g kind text, parse g (r.registerAll history) kind text =
        parse g (r.registerAll history') kind text) ∧
    (r.registerAll history).listing.Perm (r.listing ++ history.map (·.info)) := by
  refine ⟨simpleRule?_registerAll_iff r history, complexRule?_registerAll_iff r history,
    ?_, ?_, ?_, listing_registerAll r history⟩
  -- What the one run finds is what is preferred in the tiers of the other.
  · intro history' hsame name kind
    rw [simpleRule?_registerAll_iff, hsame .native, hsame .user]
    exact (simpleRule?_registerAll_iff r history' name kind _).mp rfl
  · intro history' hsame name kind
    rw [complexRule?_registerAll_iff, hsame .native, hsame .user]
    exact (complexRule?_registerAll_iff r history' name kind _).mp rfl
  · intro history' hsimple hcomplex
    rw [registerAll_eq_of_same r hsimple hcomplex]
    exact ⟨rfl, fun _ _ _ => rfl⟩

end Registry

end EntityProps
