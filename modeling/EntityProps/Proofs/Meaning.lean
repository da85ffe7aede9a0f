import EntityProps.Proofs.Demands
import EntityProps.Proofs.Precedence

/-!
# What a configuration means

A configuration has a registry if all its declarations are sound; otherwise its
failure is the first fault of its first faulty declaration.

The rule that the registry finds for a name can be read off the configuration:
the last declaration for the name and the kind counts, but the template rule
comes before all declarations and the accessors come after them. Declarations
for other kinds of entities are passed over, so an older declaration of the same
name may count.

- `DeclaredComplex.ofDecl_eq_error_iff`, `Config.registry_eq_error_iff`: the first
  fault, said without the order in which the checks are made.
- `Config.FindsSimple`, `Config.FindsComplex`: what a search finds, by the
  declarations alone.
- `Config.registry_meaning`: the registry of a configuration is as said.
-/

namespace EntityProps

/-- A declaration is for properties with this name on entities of this kind. -/
structure SimpleDecl.IsFor (d : SimpleDecl) (name : String) (kind : Kind) : Prop where
  named : d.name = name
  admitted : d.entities = [] ∨ kind ∈ d.entities

theorem SimpleDecl.accepts_iff_isFor {d : SimpleDecl} {name : String} {kind : Kind} :
    d.accepts name kind = true ↔ d.IsFor name kind := by
  rw [accepts_iff]
  constructor
  · rintro ⟨hname, hkind⟩
    exact ⟨hname.symm, hkind⟩
  · rintro ⟨hname, hkind⟩
    exact ⟨hname.symm, hkind⟩

/-! ## Faults of declarations -/

/-- The declaration of a simple property has this fault. -/
inductive SimpleDecl.Faulty (d : SimpleDecl) : DeclFault → Prop
  | emptyName (hname : d.name = "") : Faulty d .emptyName

/-- The first fault of the declaration of a complex property: of the name, then of
the bounds, then of the pattern. -/
inductive ComplexDecl.Faulty (d : ComplexDecl) : DeclFault → Prop
  | emptyName (hname : d.name = "") : Faulty d .emptyName
  | crossedBounds {most : Nat} (named : d.name ≠ "") (hmost : d.maxSubs = some most)
      (hcrossed : most < d.minSubs) : Faulty d (.crossedBounds d.minSubs most)
  | badPattern {text : String} {fault : Pattern.Fault} (named : d.name ≠ "")
      (bounded : ∀ most, d.maxSubs = some most → d.minSubs ≤ most)
      (htext : d.subPattern = some text)
      (hcompile : Pattern.compile (Pattern.anchored text) = .error fault) :
      Faulty d (.badPattern fault)

/-- There is a rule for the declaration of a complex property. -/
structure ComplexDecl.Sound (d : ComplexDecl) : Prop where
  named : d.name ≠ ""
  bounded : ∀ most, d.maxSubs = some most → d.minSubs ≤ most
  compiles : ∀ text, d.subPattern = some text →
    ∃ pattern, Pattern.compile (Pattern.anchored text) = .ok pattern

theorem DeclaredSimple.exists_ofDecl_iff {d : SimpleDecl} :
    (∃ s, ofDecl d = .ok s) ↔ d.name ≠ "" := by
  constructor
  · rintro ⟨s, hs⟩
    obtain rfl := ofDecl_eq_ok_iff.mp hs
    exact s.named
  · intro hname
    exact ⟨⟨d, hname⟩, ofDecl_eq_ok_iff.mpr rfl⟩

theorem DeclaredSimple.ofDecl_eq_error_iff {d : SimpleDecl} {f : RuleFault} :
    ofDecl d = .error f ↔ ∃ fault, d.Faulty fault ∧ f = ⟨d.name, fault⟩ := by
  rw [ofDecl]
  constructor
  · intro h
    split at h
    · next hname =>
      cases h
      exact ⟨_, .emptyName hname, rfl⟩
    · cases h
  · rintro ⟨fault, ⟨hname⟩, rfl⟩
    rw [dif_pos hname]

theorem ComplexDecl.sound_or_faulty (d : ComplexDecl) : d.Sound ∨ ∃ fault, d.Faulty fault := by
  -- In the order of the checks, since a fault counts only if no check before it fails.
  by_cases named : d.name = ""
  · exact Or.inr ⟨_, .emptyName named⟩
  by_cases bounded : ∀ most, d.maxSubs = some most → d.minSubs ≤ most
  · by_cases compiles : ∀ text, d.subPattern = some text →
        ∃ pattern, Pattern.compile (Pattern.anchored text) = .ok pattern
    · exact Or.inl ⟨named, bounded, compiles⟩
    · push Not at compiles
      obtain ⟨text, htext, hno⟩ := compiles
      cases hcompile : Pattern.compile (Pattern.anchored text) with
      | ok pattern => exact absurd hcompile (hno pattern)
      | error fault => exact Or.inr ⟨_, .badPattern named bounded htext hcompile⟩
  · push Not at bounded
    obtain ⟨most, hmost, hcrossed⟩ := bounded
    exact Or.inr ⟨_, .crossedBounds named hmost hcrossed⟩

namespace DeclaredComplex

variable {d : ComplexDecl}

theorem withPattern_of_badPattern {named bounded} {text : String} {fault : Pattern.Fault}
    (htext : d.subPattern = some text)
    (hcompile : Pattern.compile (Pattern.anchored text) = .error fault) :
    ofDecl.withPattern d named bounded = .error ⟨d.name, .badPattern fault⟩ := by
  rw [ofDecl.withPattern]
  split
  · next hnone => rw [hnone] at htext; cases htext
  · next text' htext' =>
    obtain rfl : text' = text := Option.some.inj (htext'.symm.trans htext)
    split
    · next hok => rw [hok] at hcompile; cases hcompile
    · next fault' herror =>
      rw [herror] at hcompile
      cases hcompile
      rfl

theorem ofDecl_of_faulty {fault : DeclFault} (h : d.Faulty fault) :
    ofDecl d = .error ⟨d.name, fault⟩ := by
  rw [ofDecl]
  cases h with
  | emptyName hname => rw [dif_pos hname]
  | @crossedBounds most named hmost hcrossed =>
    rw [dif_neg named]
    split
    · next most' hmost' =>
      obtain rfl : most' = most := Option.some.inj (hmost'.symm.trans hmost)
      rw [dif_neg (Nat.not_le.mpr hcrossed)]
    · next hnone => rw [hnone] at hmost; cases hmost
  | badPattern named bounded htext hcompile =>
    rw [dif_neg named]
    split
    · next most hmost =>
      rw [dif_pos (bounded most hmost)]
      exact withPattern_of_badPattern htext hcompile
    · exact withPattern_of_badPattern htext hcompile

theorem exists_ofDecl_iff : (∃ s, ofDecl d = .ok s) ↔ d.Sound := by
  constructor
  · rintro ⟨s, hs⟩
    rcases d.sound_or_faulty with hsound | ⟨fault, hfaulty⟩
    · exact hsound
    · rw [ofDecl_of_faulty hfaulty] at hs
      cases hs
  · rintro ⟨named, bounded, compiles⟩
    cases htext : d.subPattern with
    | none =>
      exact ⟨⟨d, none, named, bounded, by rw [htext]; rfl⟩, ofDecl_eq_ok_iff.mpr rfl⟩
    | some text =>
      obtain ⟨pattern, hpattern⟩ := compiles text htext
      have compiled : d.subPattern.map (fun text => Pattern.compile (Pattern.anchored text)) =
          (some pattern).map .ok := by
        rw [htext, Option.map_some, hpattern]
        rfl
      exact ⟨⟨d, some pattern, named, bounded, compiled⟩, ofDecl_eq_ok_iff.mpr rfl⟩

/-- A declaration that is no rule fails with its first fault. -/
theorem ofDecl_eq_error_iff {f : RuleFault} :
    ofDecl d = .error f ↔ ∃ fault, d.Faulty fault ∧ f = ⟨d.name, fault⟩ := by
  constructor
  · intro h
    rcases d.sound_or_faulty with hsound | ⟨fault, hfaulty⟩
    · obtain ⟨s, hs⟩ := exists_ofDecl_iff.mpr hsound
      rw [hs] at h
      cases h
    · rw [ofDecl_of_faulty hfaulty] at h
      exact ⟨fault, hfaulty, (Except.error.inj h).symm⟩
  · rintro ⟨fault, hfaulty, rfl⟩
    exact ofDecl_of_faulty hfaulty

/-- There is one rule for a declaration. -/
theorem eq_of_decl {s s' : DeclaredComplex} (h : s.decl = s'.decl) : s = s' :=
  Except.ok.inj ((ofDecl_eq_ok_iff.mpr h).symm.trans (ofDecl_eq_ok_iff.mpr rfl))

end DeclaredComplex

theorem DeclaredSimple.eq_of_decl {s s' : DeclaredSimple} (h : s.decl = s'.decl) : s = s' :=
  Except.ok.inj ((ofDecl_eq_ok_iff.mpr h).symm.trans (ofDecl_eq_ok_iff.mpr rfl))

namespace Config

variable {c : Config} {r : Registry}

/-! ## Faults of configurations -/

/-- There is a rule for each declaration. -/
structure Sound (c : Config) : Prop where
  simple : ∀ d ∈ c.simpleRules, d.name ≠ ""
  complex : ∀ d ∈ c.complexRules, d.Sound

/-- The first fault of the first declaration that is no rule. Declarations of simple
properties come first. -/
inductive FirstFault (c : Config) : RuleFault → Prop
  | simple {before after : List SimpleDecl} {d : SimpleDecl} {fault : DeclFault}
      (hsplit : c.simpleRules = before ++ d :: after) (hbefore : ∀ e ∈ before, e.name ≠ "")
      (hfaulty : d.Faulty fault) : FirstFault c ⟨d.name, fault⟩
  | complex {before after : List ComplexDecl} {d : ComplexDecl} {fault : DeclFault}
      (hsimple : ∀ e ∈ c.simpleRules, e.name ≠ "")
      (hsplit : c.complexRules = before ++ d :: after) (hbefore : ∀ e ∈ before, e.Sound)
      (hfaulty : d.Faulty fault) : FirstFault c ⟨d.name, fault⟩

/-- A configuration has a registry exactly if there is a rule for each declaration. -/
theorem exists_registry_iff : (∃ r, c.registry = .ok r) ↔ c.Sound := by
  have hsimple : (∃ simple, c.simpleRules.mapM DeclaredSimple.ofDecl = .ok simple) ↔
      ∀ d ∈ c.simpleRules, d.name ≠ "" := by
    simp only [exists_mapM_eq_ok_iff, DeclaredSimple.exists_ofDecl_iff]
  have hcomplex : (∃ complex, c.complexRules.mapM DeclaredComplex.ofDecl = .ok complex) ↔
      ∀ d ∈ c.complexRules, d.Sound := by
    simp only [exists_mapM_eq_ok_iff, DeclaredComplex.exists_ofDecl_iff]
  constructor
  · rintro ⟨r, hr⟩
    obtain ⟨simple, hs, hrest⟩ := bind_eq_ok_iff_exists.mp hr
    obtain ⟨complex, hc, -⟩ := bind_eq_ok_iff_exists.mp hrest
    exact ⟨hsimple.mp ⟨simple, hs⟩, hcomplex.mp ⟨complex, hc⟩⟩
  · rintro ⟨hs, hc⟩
    obtain ⟨simple, hs⟩ := hsimple.mpr hs
    obtain ⟨complex, hc⟩ := hcomplex.mpr hc
    exact ⟨_, registry_eq_ok_iff.mpr ⟨simple, complex, mapM_simple_eq_ok_iff.mp hs,
      mapM_complex_eq_ok_iff.mp hc, rfl⟩⟩

/-- A configuration without a registry fails with its first fault. -/
theorem registry_eq_error_iff {f : RuleFault} : c.registry = .error f ↔ c.FirstFault f := by
  rw [registry]
  simp only [bind_eq_error_iff_or, pure, Except.pure, reduceCtorEq, and_false, exists_false,
    or_false, mapM_eq_error_iff, DeclaredSimple.exists_ofDecl_iff,
    DeclaredSimple.ofDecl_eq_error_iff, DeclaredComplex.exists_ofDecl_iff,
    DeclaredComplex.ofDecl_eq_error_iff]
  constructor
  · rintro (⟨before, d, after, hsplit, hbefore, fault, hfaulty, rfl⟩ |
      ⟨simple, hsimple, before, d, after, hsplit, hbefore, fault, hfaulty, rfl⟩)
    · exact .simple hsplit hbefore hfaulty
    · refine .complex ?_ hsplit hbefore hfaulty
      intro e he
      exact DeclaredSimple.exists_ofDecl_iff.mp (exists_mapM_eq_ok_iff.mp ⟨simple, hsimple⟩ e he)
  · rintro (@⟨before, after, d, fault, hsplit, hbefore, hfaulty⟩ |
      @⟨before, after, d, fault, hsimple, hsplit, hbefore, hfaulty⟩)
    · exact Or.inl ⟨before, d, after, hsplit, hbefore, fault, hfaulty, rfl⟩
    · obtain ⟨simple, hs⟩ := exists_mapM_eq_ok_iff.mpr fun e he =>
        DeclaredSimple.exists_ofDecl_iff.mpr (hsimple e he)
      exact Or.inr ⟨simple, hs, before, d, after, hsplit, hbefore, fault, hfaulty, rfl⟩

/-! ## What a search finds -/

/-- What the declarations say of a search for a simple property: the last one for
this name and kind counts. -/
inductive FindsSimple (c : Config) (name : String) (kind : Kind) : Option SimpleRule → Prop
  | declared {d : DeclaredSimple} (hlast : IsLast (·.IsFor name kind) c.simpleRules d.decl) :
      FindsSimple c name kind (some (.declared d))
  | none (hdeclared : ∀ e ∈ c.simpleRules, ¬ e.IsFor name kind) : FindsSimple c name kind none

/-- What the declarations say of a search for a complex property: the template rule
counts if it is there, then the last declaration for this name and kind, then the
accessors if they are there. -/
inductive FindsComplex (c : Config) (name : String) (kind : Kind) : Option ComplexRule → Prop
  | template (hnative : c.rules.native = true) (hname : name = "GenCodeTemplate") :
      FindsComplex c name kind (some .template)
  | declared {d : DeclaredComplex}
      (htemplate : ¬ (c.rules.native = true ∧ name = "GenCodeTemplate"))
      (hlast : IsLast (·.IsFor name kind) c.complexRules d.decl) :
      FindsComplex c name kind (some (.declared d))
  | getter (hdeclared : ∀ e ∈ c.complexRules, ¬ e.IsFor name kind)
      (haccessors : c.rules.accessors = true) (hkind : kind = .field) (hname : name = "Getter") :
      FindsComplex c name kind (some .getter)
  | setter (hdeclared : ∀ e ∈ c.complexRules, ¬ e.IsFor name kind)
      (haccessors : c.rules.accessors = true) (hkind : kind = .field) (hname : name = "Setter") :
      FindsComplex c name kind (some .setter)
  | none (htemplate : ¬ (c.rules.native = true ∧ name = "GenCodeTemplate"))
      (hdeclared : ∀ e ∈ c.complexRules, ¬ e.IsFor name kind)
      (haccessor : ¬ (c.rules.accessors = true ∧ kind = .field ∧
        (name = "Getter" ∨ name = "Setter"))) :
      FindsComplex c name kind none

variable {name : String} {kind : Kind}

/-! ### Simple properties -/

theorem preferred_of_findsSimple {simple : List DeclaredSimple}
    (hsimple : simple.map (·.decl) = c.simpleRules) {found : Option SimpleRule}
    (h : c.FindsSimple name kind found) :
    Preferred (fun rule => rule.accepts name kind = true) [] (simple.map .declared) found := by
  have hnative : ∀ q ∈ ([] : List SimpleRule), ¬ q.accepts name kind = true :=
    fun _ hq => absurd hq List.not_mem_nil
  cases h with
  | declared hlast =>
    rw [← hsimple, isLast_map_iff] at hlast
    obtain ⟨s, hs, hlast⟩ := hlast
    obtain rfl := DeclaredSimple.eq_of_decl hs
    -- The tier holds the rules in the order of the declarations.
    refine .user hnative (isLast_map_iff.mpr ⟨s, rfl, hlast.congr ?_⟩)
    intro b
    exact SimpleDecl.accepts_iff_isFor.symm
  | none hdeclared =>
    refine .none hnative ?_
    intro q hq
    obtain ⟨s, hs, rfl⟩ := List.mem_map.mp hq
    rw [SimpleRule.accepts, SimpleDecl.accepts_iff_isFor]
    exact hdeclared s.decl (hsimple ▸ List.mem_map_of_mem hs)

theorem exists_findsSimple {simple : List DeclaredSimple}
    (hsimple : simple.map (·.decl) = c.simpleRules) (name : String) (kind : Kind) :
    ∃ found, c.FindsSimple name kind found := by
  rcases isLast_or_forall_not (·.IsFor name kind) c.simpleRules with ⟨e, hlast⟩ | hdeclared
  · have he : e ∈ simple.map (·.decl) := hsimple ▸ hlast.mem
    obtain ⟨d, -, rfl⟩ := List.mem_map.mp he
    exact ⟨_, .declared hlast⟩
  · exact ⟨_, .none hdeclared⟩

/-- The registry finds for a simple property what the declarations say. -/
theorem simpleRule?_eq_iff_finds (hr : c.registry = .ok r) {found : Option SimpleRule} :
    r.simpleRule? name kind = found ↔ c.FindsSimple name kind found := by
  obtain ⟨simple, complex, hsimple, -, rfl⟩ := registry_eq_ok_iff.mp hr
  -- The declarations always say something, so this direction gives the other.
  have hfinds : ∀ found, c.FindsSimple name kind found →
      (c.registryWith simple complex).simpleRule? name kind = found := fun found h =>
    Registry.simpleRule?_eq_iff_preferred.mpr (preferred_of_findsSimple hsimple h)
  constructor
  · rintro rfl
    obtain ⟨found, h⟩ := exists_findsSimple hsimple name kind
    rw [hfinds found h]
    exact h
  · exact hfinds found

/-! ### Complex properties -/

theorem accepts_template_iff :
    ComplexRule.template.accepts name kind = true ↔ name = "GenCodeTemplate" := by
  simp [ComplexRule.accepts, ComplexRule.label]

theorem accepts_getter_iff :
    ComplexRule.getter.accepts name kind = true ↔ name = "Getter" ∧ kind = .field := by
  simp [ComplexRule.accepts, ComplexRule.label]

theorem accepts_setter_iff :
    ComplexRule.setter.accepts name kind = true ↔ name = "Setter" ∧ kind = .field := by
  simp [ComplexRule.accepts, ComplexRule.label]

/-- The native rules of a configuration take no name but that of the template rule. -/
theorem not_accepts_native (htemplate : ¬ (c.rules.native = true ∧ name = "GenCodeTemplate"))
    (kind : Kind) : ∀ q ∈ if c.rules.native then [ComplexRule.template] else [],
      ¬ q.accepts name kind = true := by
  intro q hq haccepts
  obtain ⟨hnative, hq⟩ := List.mem_ite_nil_right.mp hq
  obtain rfl := List.mem_singleton.mp hq
  exact htemplate ⟨hnative, accepts_template_iff.mp haccepts⟩

theorem not_accepts_accessors
    (haccessor : ¬ (c.rules.accessors = true ∧ kind = .field ∧
      (name = "Getter" ∨ name = "Setter"))) :
    ∀ q ∈ if c.rules.accessors then [ComplexRule.getter, .setter] else [],
      ¬ q.accepts name kind = true := by
  intro q hq haccepts
  obtain ⟨haccessors, hq⟩ := List.mem_ite_nil_right.mp hq
  rcases List.mem_pair.mp hq with rfl | rfl
  · obtain ⟨hname, hkind⟩ := accepts_getter_iff.mp haccepts
    exact haccessor ⟨haccessors, hkind, Or.inl hname⟩
  · obtain ⟨hname, hkind⟩ := accepts_setter_iff.mp haccepts
    exact haccessor ⟨haccessors, hkind, Or.inr hname⟩

theorem preferred_of_findsComplex {complex : List DeclaredComplex}
    (hcomplex : complex.map (·.decl) = c.complexRules) {found : Option ComplexRule}
    (h : c.FindsComplex name kind found) :
    Preferred (fun rule => rule.accepts name kind = true)
      (if c.rules.native then [.template] else [])
      ((if c.rules.accessors then [.getter, .setter] else []) ++ complex.map .declared)
      found := by
  have hrefused : (∀ e ∈ c.complexRules, ¬ e.IsFor name kind) →
      ∀ q ∈ complex.map ComplexRule.declared, ¬ q.accepts name kind = true := by
    intro hdeclared q hq
    obtain ⟨s, hs, rfl⟩ := List.mem_map.mp hq
    rw [ComplexRule.accepts, SimpleDecl.accepts_iff_isFor]
    exact hdeclared s.decl (hcomplex ▸ List.mem_map_of_mem hs)
  cases h with
  | template hnative hname =>
    rw [if_pos hnative]
    exact .native (isLast_append_singleton [] (accepts_template_iff.mpr hname))
  | declared htemplate hlast =>
    rw [← hcomplex, isLast_map_iff] at hlast
    obtain ⟨s, hs, hlast⟩ := hlast
    obtain rfl := DeclaredComplex.eq_of_decl hs
    -- The accessors are older than every declared rule.
    refine .user (not_accepts_native htemplate kind) (IsLast.append_left ?_ _)
    refine isLast_map_iff.mpr ⟨s, rfl, hlast.congr ?_⟩
    intro b
    exact SimpleDecl.accepts_iff_isFor.symm
  | getter hdeclared haccessors hkind hname =>
    subst hkind hname
    rw [if_pos haccessors]
    refine .user (not_accepts_native (fun h => by simp at h) _)
      (IsLast.append_right ⟨[], [.setter], rfl, rfl, ?_⟩ (hrefused hdeclared))
    decide
  | setter hdeclared haccessors hkind hname =>
    subst hkind hname
    rw [if_pos haccessors]
    -- The setter is registered last of the two, but they never take the same name.
    refine .user (not_accepts_native (fun h => by simp at h) _)
      (IsLast.append_right ⟨[.getter], [], rfl, rfl, ?_⟩ (hrefused hdeclared))
    decide
  | none htemplate hdeclared haccessor =>
    refine .none (not_accepts_native htemplate kind) ?_
    intro q hq
    rcases List.mem_append.mp hq with hq | hq
    · exact not_accepts_accessors haccessor q hq
    · exact hrefused hdeclared q hq

theorem exists_findsComplex {complex : List DeclaredComplex}
    (hcomplex : complex.map (·.decl) = c.complexRules) (name : String) (kind : Kind) :
    ∃ found, c.FindsComplex name kind found := by
  by_cases htemplate : c.rules.native = true ∧ name = "GenCodeTemplate"
  · exact ⟨_, .template htemplate.1 htemplate.2⟩
  rcases isLast_or_forall_not (·.IsFor name kind) c.complexRules with ⟨e, hlast⟩ | hdeclared
  · have he : e ∈ complex.map (·.decl) := hcomplex ▸ hlast.mem
    obtain ⟨d, -, rfl⟩ := List.mem_map.mp he
    exact ⟨_, .declared htemplate hlast⟩
  by_cases haccessor : c.rules.accessors = true ∧ kind = .field ∧
      (name = "Getter" ∨ name = "Setter")
  · obtain ⟨haccessors, hkind, hname | hname⟩ := haccessor
    · exact ⟨_, .getter hdeclared haccessors hkind hname⟩
    · exact ⟨_, .setter hdeclared haccessors hkind hname⟩
  · exact ⟨_, .none htemplate hdeclared haccessor⟩

/-- The registry finds for a complex property what the configuration says. -/
theorem complexRule?_eq_iff_finds (hr : c.registry = .ok r) {found : Option ComplexRule} :
    r.complexRule? name kind = found ↔ c.FindsComplex name kind found := by
  obtain ⟨simple, complex, -, hcomplex, rfl⟩ := registry_eq_ok_iff.mp hr
  have hfinds : ∀ found, c.FindsComplex name kind found →
      (c.registryWith simple complex).complexRule? name kind = found := fun found h =>
    Registry.complexRule?_eq_iff_preferred.mpr (preferred_of_findsComplex hcomplex h)
  constructor
  · rintro rfl
    obtain ⟨found, h⟩ := exists_findsComplex hcomplex name kind
    rw [hfinds found h]
    exact h
  · exact hfinds found

/-! ### Names in listings -/

/-- A listing shows a rule that was found under the name that was searched. -/
theorem label_name_of_findsSimple {rule : SimpleRule} (h : c.FindsSimple name kind (some rule)) :
    rule.label.name = name := by
  cases h with
  | declared hlast => exact hlast.holds.named

theorem label_name_of_findsComplex {rule : ComplexRule}
    (h : c.FindsComplex name kind (some rule)) : rule.label.name = name := by
  cases h with
  | template _ hname => exact hname.symm
  | declared _ hlast => exact hlast.holds.named
  | getter _ _ _ hname => exact hname.symm
  | setter _ _ _ hname => exact hname.symm

/-- **What a configuration means.** A configuration has a registry exactly if its
declarations are sound, and otherwise fails with the first fault of the first one
that is not. The registry finds for a name and a kind what the configuration says:
the last declaration for them, after the template rule and before the accessors.
The rule that is found is shown under its name, by the first entry of the listing
for its sort whose rule takes the name. -/
theorem registry_meaning (c : Config) :
    ((∃ r, c.registry = .ok r) ↔ c.Sound) ∧
    (∀ f, c.registry = .error f ↔ c.FirstFault f) ∧
    ∀ r, c.registry = .ok r → ∀ name kind,
      (∀ found, r.simpleRule? name kind = found ↔ c.FindsSimple name kind found) ∧
      (∀ found, r.complexRule? name kind = found ↔ c.FindsComplex name kind found) ∧
      (∀ rule, r.simpleRule? name kind = some rule → rule.label.name = name ∧
        ShownFirst r.simpleByPrecedence .ofSimple (·.accepts name kind)
          (r.listing.filter (!·.complex)) rule) ∧
      (∀ rule, r.complexRule? name kind = some rule → rule.label.name = name ∧
        ShownFirst r.complexByPrecedence .ofComplex (·.accepts name kind)
          (r.listing.filter (·.complex)) rule) := by
  refine ⟨exists_registry_iff, fun f => registry_eq_error_iff, ?_⟩
  intro r hr name kind
  refine ⟨fun found => simpleRule?_eq_iff_finds hr, fun found => complexRule?_eq_iff_finds hr,
    ?_, ?_⟩
  · intro rule hrule
    exact ⟨label_name_of_findsSimple ((simpleRule?_eq_iff_finds hr).mp hrule),
      Registry.shownFirst_of_simpleRule? hrule⟩
  · intro rule hrule
    exact ⟨label_name_of_findsComplex ((complexRule?_eq_iff_finds hr).mp hrule),
      Registry.shownFirst_of_complexRule? hrule⟩

end Config

namespace Sample

def anyRange : DeclaredComplex where
  decl := { name := "Range" }
  pattern := none
  named := by decide
  bounded := fun _ hmost => nomatch hmost
  compiled := rfl

/-- The newer one, for fields only. -/
def fieldRange : DeclaredComplex where
  decl := { name := "Range", entities := [.field], minSubs := 2, maxSubs := some 2 }
  pattern := none
  named := by decide
  bounded := fun _ hmost => Nat.le_of_eq (Option.some.inj hmost)
  compiled := rfl

def clashing : Config where
  rules := { accessors := true }
  complexRules := [anyRange.decl, fieldRange.decl]

end Sample

theorem registry_meaning_clashing : ∃ r, Sample.clashing.registry = .ok r ∧
    r.complexRule? "Range" .field = some (.declared Sample.fieldRange) ∧
    r.complexRule? "Range" .method = some (.declared Sample.anyRange) ∧
    r.complexRule? "Setter" .field = some .setter ∧ r.complexRule? "Setter" .method = none := by
  have hr : Sample.clashing.registry =
      .ok (Sample.clashing.registryWith [] [Sample.anyRange, Sample.fieldRange]) :=
    Config.registry_eq_ok_iff.mpr ⟨[], [Sample.anyRange, Sample.fieldRange], rfl, rfl, rfl⟩
  obtain ⟨-, -, hmeans⟩ := Config.registry_meaning Sample.clashing
  have hfinds := fun name kind found => ((hmeans _ hr name kind).2.1 found).mpr
  refine ⟨_, hr, hfinds _ _ _ (.declared (by decide) ?_), hfinds _ _ _ (.declared (by decide) ?_),
    hfinds _ _ _ (.setter ?_ rfl rfl rfl), hfinds _ _ _ (.none (by decide) ?_ (by decide))⟩
  · exact ⟨[Sample.anyRange.decl], [], rfl, ⟨rfl, by decide⟩, fun _ hb => absurd hb List.not_mem_nil⟩
  · refine ⟨[], [Sample.fieldRange.decl], rfl, ⟨rfl, by decide⟩, ?_⟩
    -- The newer rule is not for methods.
    intro e he hfor
    obtain rfl := List.mem_singleton.mp he
    exact absurd hfor.admitted (by decide)
  · intro e he hfor
    rcases List.mem_pair.mp he with rfl | rfl <;> exact absurd hfor.named (by decide)
  · intro e he hfor
    rcases List.mem_pair.mp he with rfl | rfl <;> exact absurd hfor.named (by decide)

end EntityProps
