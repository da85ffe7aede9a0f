import EntityProps.Config
import EntityProps.Proofs.Results
import Mathlib.Tactic.Tauto

/-!
# Configured rules

The registry of a configuration holds its built-in rules and one rule for each
declaration, in the order of the declarations (`registry_eq_ok_iff`). So what a
search finds there is built in or declared (`simpleRule?_eq_some`,
`complexRule?_eq_some`).
-/

namespace EntityProps

/-! ## Declarations -/

theorem DeclaredSimple.ofDecl_eq_ok_iff {d : SimpleDecl} {s : DeclaredSimple} :
    DeclaredSimple.ofDecl d = .ok s ↔ s.decl = d := by
  obtain ⟨decl, named⟩ := s
  rw [ofDecl]
  constructor
  · intro h
    split at h
    · cases h
    · cases h; rfl
  · rintro rfl
    rw [dif_neg named]

namespace DeclaredComplex

theorem withPattern_eq_ok {d : ComplexDecl} {named bounded} {s : DeclaredComplex}
    (h : ofDecl.withPattern d named bounded = .ok s) : s.decl = d := by
  rw [ofDecl.withPattern] at h
  split at h
  · cases h; rfl
  · split at h
    · cases h; rfl
    · cases h

theorem withPattern_of_compiled {d : ComplexDecl} {pattern : Option Pattern} {named bounded}
    (compiled : d.subPattern.map (fun text => Pattern.compile (Pattern.anchored text)) =
      pattern.map .ok) :
    ofDecl.withPattern d named bounded = .ok ⟨d, pattern, named, bounded, compiled⟩ := by
  rw [ofDecl.withPattern]
  split
  · next hp =>
    have hnone := compiled
    rw [hp] at hnone
    cases pattern with
    | none => rfl
    | some p => cases hnone
  · next text hp =>
    have hsome := compiled
    rw [hp] at hsome
    cases pattern with
    | none => cases hsome
    | some p =>
      have hc : Pattern.compile (Pattern.anchored text) = .ok p := Option.some.inj hsome
      split
      · next p' hc' =>
        rw [hc] at hc'
        cases hc'
        rfl
      · next hc' => rw [hc] at hc'; cases hc'

/-- A declared rule is the only rule of its declaration. -/
theorem ofDecl_eq_ok_iff {d : ComplexDecl} {s : DeclaredComplex} :
    ofDecl d = .ok s ↔ s.decl = d := by
  constructor
  · intro h
    rw [ofDecl] at h
    split at h
    · cases h
    · split at h
      · split at h
        · exact withPattern_eq_ok h
        · cases h
      · exact withPattern_eq_ok h
  · rintro rfl
    rw [ofDecl, dif_neg s.named]
    split
    · next most hm =>
      rw [dif_pos (s.bounded most hm)]
      exact withPattern_of_compiled s.compiled
    · exact withPattern_of_compiled s.compiled

end DeclaredComplex

/-! ## The registry -/

namespace Config

variable {c : Config} {r : Registry}

/-- The registry of the built-in rules and these declared ones. -/
def registryWith (c : Config) (simple : List DeclaredSimple) (complex : List DeclaredComplex) :
    Registry where
  userSimple := simple.map .declared
  nativeComplex := if c.rules.native then [.template] else []
  userComplex :=
    (if c.rules.accessors then [.getter, .setter] else []) ++ complex.map .declared

theorem foldl_addSimple (r : Registry) (l : List DeclaredSimple) :
    l.foldl (fun r d => r.addSimple .user (.declared d)) r =
      { r with userSimple := r.userSimple ++ l.map .declared } := by
  induction l generalizing r with
  | nil => simp
  | cons d l ih =>
    rw [List.foldl_cons, ih]
    simp [Registry.addSimple]

theorem foldl_addComplex (r : Registry) (l : List DeclaredComplex) :
    l.foldl (fun r d => r.addComplex .user (.declared d)) r =
      { r with userComplex := r.userComplex ++ l.map .declared } := by
  induction l generalizing r with
  | nil => simp
  | cons d l ih =>
    rw [List.foldl_cons, ih]
    simp [Registry.addComplex]

theorem builtin_eq (c : Config) : c.builtin = c.registryWith [] [] := by
  cases hn : c.rules.native <;> cases ha : c.rules.accessors <;>
    simp [builtin, registryWith, hn, ha, Registry.native, Registry.empty, Registry.addNative,
      Registry.addAccessors, Registry.addComplex]

theorem mapM_simple_eq_ok_iff {ds : List SimpleDecl} {simple : List DeclaredSimple} :
    ds.mapM DeclaredSimple.ofDecl = .ok simple ↔ simple.map (·.decl) = ds := by
  simp only [mapM_eq_ok_iff_forall₂, DeclaredSimple.ofDecl_eq_ok_iff, forall₂_eq_iff_map_eq]

theorem mapM_complex_eq_ok_iff {ds : List ComplexDecl} {complex : List DeclaredComplex} :
    ds.mapM DeclaredComplex.ofDecl = .ok complex ↔ complex.map (·.decl) = ds := by
  simp only [mapM_eq_ok_iff_forall₂, DeclaredComplex.ofDecl_eq_ok_iff, forall₂_eq_iff_map_eq]

theorem foldl_builtin (c : Config) (simple : List DeclaredSimple)
    (complex : List DeclaredComplex) :
    complex.foldl (fun r d => r.addComplex .user (.declared d))
        (simple.foldl (fun r d => r.addSimple .user (.declared d)) c.builtin) =
      c.registryWith simple complex := by
  rw [foldl_addSimple, foldl_addComplex, builtin_eq]
  simp [registryWith]

/-- A configuration has a registry if there is a rule for each declaration. The
rules stand in the order of the declarations, after the built-in ones. -/
theorem registry_eq_ok_iff :
    c.registry = .ok r ↔ ∃ simple complex,
      simple.map (·.decl) = c.simpleRules ∧ complex.map (·.decl) = c.complexRules ∧
        r = c.registryWith simple complex := by
  rw [registry]
  simp only [bind_eq_ok_iff_exists, mapM_simple_eq_ok_iff, mapM_complex_eq_ok_iff, pure,
    Except.pure, Except.ok.injEq, foldl_builtin, exists_and_left, eq_comm (b := r)]

/-- A rule found for a simple property is declared, for properties of this name
and kind. -/
theorem simpleRule?_eq_some (h : c.registry = .ok r) {name : String} {kind : Kind}
    {rule : SimpleRule} (hfound : r.simpleRule? name kind = some rule) :
    ∃ d, rule = .declared d ∧ d.decl ∈ c.simpleRules ∧ d.decl.accepts name kind = true := by
  obtain ⟨simple, complex, hsimple, -, rfl⟩ := registry_eq_ok_iff.mp h
  have haccepts := List.find?_some hfound
  have hmem := List.mem_of_find?_eq_some hfound
  obtain ⟨d, hd, rfl⟩ : ∃ d ∈ simple, SimpleRule.declared d = rule := by
    simpa [Registry.simpleByPrecedence, registryWith] using hmem
  exact ⟨d, rfl, hsimple ▸ List.mem_map_of_mem hd, haccepts⟩

/-- A rule found for a complex property is built in, or it is declared for
properties of this name and kind. -/
theorem complexRule?_eq_some (h : c.registry = .ok r) {name : String} {kind : Kind}
    {rule : ComplexRule} (hfound : r.complexRule? name kind = some rule) :
    rule = .template ∨ rule = .getter ∨ rule = .setter ∨
      ∃ d, rule = .declared d ∧ d.decl ∈ c.complexRules ∧ d.decl.accepts name kind = true := by
  obtain ⟨simple, complex, -, hcomplex, rfl⟩ := registry_eq_ok_iff.mp h
  have haccepts := List.find?_some hfound
  have hmem := List.mem_of_find?_eq_some hfound
  have hcases : rule = .template ∨ rule = .getter ∨ rule = .setter ∨
      ∃ d ∈ complex, ComplexRule.declared d = rule := by
    cases hn : c.rules.native <;> cases ha : c.rules.accessors <;>
      simp [Registry.complexByPrecedence, registryWith, hn, ha] at hmem <;> tauto
  rcases hcases with rfl | rfl | rfl | ⟨d, hd, rfl⟩
  · exact Or.inl rfl
  · exact Or.inr (Or.inl rfl)
  · exact Or.inr (Or.inr (Or.inl rfl))
  · exact Or.inr (Or.inr (Or.inr ⟨d, rfl, hcomplex ▸ List.mem_map_of_mem hd, haccepts⟩))

end Config

end EntityProps
