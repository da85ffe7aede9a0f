import EntityProps.Proofs.Outcome
import EntityProps.Proofs.Precedence

/-!
# Adding a rule of a user

A rule that a user declares and adds to a registry changes only what it is for.
An annotation is parsed as before if the rule is not meant for the kind of
entity, if a native rule takes its name, or if no token group of its sort has its
name. Otherwise the token groups with its name are bound to it, and all others as
before. So no rule of a user takes a name away from a native rule.

The outcome of parsing depends on the registry only through the rules that are
found for the main tokens of the annotation (`parse_congr`). The demands of these
rules on the group and the choice of the first error need no look.
-/

namespace EntityProps

/-! ## Parsing depends on the rules that are found -/

/-- Two registries find the same rule for a token group. -/
def Registry.AgreeOn (r r' : Registry) (kind : Kind) (t : TokenGroup) : Prop :=
  if t.isSimple then r.simpleRule? t.main kind = r'.simpleRule? t.main kind
  else r.complexRule? t.main kind = r'.complexRule? t.main kind

/-- The token groups of an annotation, if it has the marker of the kind and its body can
be read. -/
def HasGroups (g : Grammar) (kind : Kind) (text : String) (ts : List TokenGroup) : Prop :=
  ∃ body, kind.body? text = some body ∧ g.tokenGroups body = .ok ts

section Congruence

variable {g : Grammar} {r r' : Registry} {kind : Kind} {text : String}

theorem Registry.bind_congr {ts : List TokenGroup} (h : ∀ t ∈ ts, r.AgreeOn r' kind t) :
    r.bind kind ts = r'.bind kind ts := by
  induction ts with
  | nil => rfl
  | cons t ts ih =>
    have hrest : r.bind kind ts = r'.bind kind ts :=
      ih fun u hu => h u (List.mem_cons_of_mem t hu)
    have ht : r.AgreeOn r' kind t := h t List.mem_cons_self
    cases hsimple : t.isSimple with
    | true =>
      rw [AgreeOn, if_pos hsimple] at ht
      rw [bind_cons_of_simple ts hsimple, bind_cons_of_simple ts hsimple, bindSimple, bindSimple,
        ht, hrest]
    | false =>
      rw [AgreeOn, if_neg (by simp [hsimple])] at ht
      rw [bind_cons_of_complex ts hsimple, bind_cons_of_complex ts hsimple, bindComplex,
        bindComplex, ht, hrest]

/-- Registries that find the same rules for the token groups of an annotation give it the
same outcome. -/
theorem parse_congr (h : ∀ ts, HasGroups g kind text ts → ∀ t ∈ ts, r.AgreeOn r' kind t) :
    parse g r kind text = parse g r' kind text := by
  cases hbody : kind.body? text with
  | none =>
    -- Without a body that can be read, no rule is asked for.
    have hmarker := Kind.body?_eq_none_iff.mp hbody
    rw [parse_of_wrongMarker hmarker, parse_of_wrongMarker hmarker]
  | some body =>
    cases hread : g.tokenGroups body with
    | error e =>
      rw [parse_of_body hbody, parse_of_body hbody, hread]
      rfl
    | ok ts =>
      rw [parse_of_read hbody hread, parse_of_read hbody hread,
        Registry.bind_congr (h ts ⟨body, hbody, hread⟩)]

end Congruence

/-! ## Searches after a rule was added -/

section Added

variable {ρ : Type} {takes : ρ → Prop} {native user : List ρ} {rule : ρ} {found : Option ρ}

/-- A rule of a user that does not take what is searched is not found, and neither is one
that takes what a native rule takes. -/
theorem Preferred.append_user (h : Preferred takes native user found)
    (hrule : ¬ takes rule ∨ ∃ q ∈ native, takes q) :
    Preferred takes native (user ++ [rule]) found := by
  -- The new rule is asked only if no native rule takes what is searched.
  have hrefused : (∀ q ∈ native, ¬ takes q) → ∀ q ∈ [rule], ¬ takes q := by
    intro hnative q hq
    rw [List.mem_singleton.mp hq]
    rcases hrule with hrule | ⟨q', hq', htakes⟩
    · exact hrule
    · exact absurd htakes (hnative q' hq')
  cases h with
  | native hlast => exact .native hlast
  | user hnative hlast => exact .user hnative (hlast.append_right (hrefused hnative))
  | none hnative huser =>
    refine .none hnative ?_
    intro q hq
    rcases List.mem_append.mp hq with hq | hq
    · exact huser q hq
    · exact hrefused hnative q hq

end Added

namespace Registry

variable {r : Registry} {name : String} {kind : Kind}

theorem simpleRule?_addSimple_of_refused {rule : SimpleRule}
    (h : ¬ rule.accepts name kind = true ∨ ∃ q ∈ r.nativeSimple, q.accepts name kind = true) :
    (r.addSimple .user rule).simpleRule? name kind = r.simpleRule? name kind :=
  simpleRule?_eq_iff_preferred.mpr ((simpleRule?_eq_iff_preferred.mp rfl).append_user h)

theorem complexRule?_addComplex_of_refused {rule : ComplexRule}
    (h : ¬ rule.accepts name kind = true ∨ ∃ q ∈ r.nativeComplex, q.accepts name kind = true) :
    (r.addComplex .user rule).complexRule? name kind = r.complexRule? name kind :=
  complexRule?_eq_iff_preferred.mpr ((complexRule?_eq_iff_preferred.mp rfl).append_user h)

theorem simpleRule?_addSimple_of_taken {rule : SimpleRule} (h : rule.accepts name kind = true)
    (hnative : ∀ q ∈ r.nativeSimple, ¬ q.accepts name kind = true) :
    (r.addSimple .user rule).simpleRule? name kind = some rule :=
  simpleRule?_eq_iff_preferred.mpr (.user hnative (isLast_append_singleton r.userSimple h))

theorem complexRule?_addComplex_of_taken {rule : ComplexRule}
    (h : rule.accepts name kind = true)
    (hnative : ∀ q ∈ r.nativeComplex, ¬ q.accepts name kind = true) :
    (r.addComplex .user rule).complexRule? name kind = some rule :=
  complexRule?_eq_iff_preferred.mpr (.user hnative (isLast_append_singleton r.userComplex h))

theorem complexRule?_addSimple (r : Registry) (rule : SimpleRule) (name : String) (kind : Kind) :
    (r.addSimple .user rule).complexRule? name kind = r.complexRule? name kind := rfl

theorem simpleRule?_addComplex (r : Registry) (rule : ComplexRule) (name : String)
    (kind : Kind) : (r.addComplex .user rule).simpleRule? name kind = r.simpleRule? name kind := rfl

/-! ## Declared rules that are added -/

/-- Simple token groups with the name of a declared rule are bound to it, and all other
token groups to the rules of the registry. -/
structure BindsWithSimple (r : Registry) (d : DeclaredSimple) (kind : Kind)
    (ts : List TokenGroup) (group : BoundGroup) : Prop where
  simple : List.Forall₂ (fun t p => p.name = t.main ∧
    (t.main = d.decl.name → p.rule = .declared d) ∧
    (t.main ≠ d.decl.name → r.BindsSimple kind t p)) (ts.filter (·.isSimple)) group.simple
  complex : List.Forall₂ (r.BindsComplex kind) (ts.filter (!·.isSimple)) group.complex

/-- Complex token groups with the name of a declared rule are bound to it, and all other
token groups to the rules of the registry. -/
structure BindsWithComplex (r : Registry) (d : DeclaredComplex) (kind : Kind)
    (ts : List TokenGroup) (group : BoundGroup) : Prop where
  simple : List.Forall₂ (r.BindsSimple kind) (ts.filter (·.isSimple)) group.simple
  complex : List.Forall₂ (fun t p => p.name = t.main ∧
    (t.main = d.decl.name → p.rule = .declared d) ∧
    (t.main ≠ d.decl.name → r.BindsComplex kind t p)) (ts.filter (!·.isSimple)) group.complex

section Declared

variable {ts : List TokenGroup} {group : BoundGroup}

/-- A declared rule does not change a search for another name, on entities of another
kind, or for a name that a native rule takes. -/
theorem simpleRule?_addSimple_declared {d : DeclaredSimple}
    (h : name ≠ d.decl.name ∨ d.decl.admits kind = false ∨
      ∃ q ∈ r.nativeSimple, q.accepts name kind = true) :
    (r.addSimple .user (.declared d)).simpleRule? name kind = r.simpleRule? name kind := by
  refine simpleRule?_addSimple_of_refused ?_
  rcases h with hname | hkind | hnative
  · exact Or.inl (by simp [SimpleRule.accepts, SimpleDecl.accepts, hname])
  · exact Or.inl (by simp [SimpleRule.accepts, SimpleDecl.accepts, hkind])
  · exact Or.inr hnative

theorem complexRule?_addComplex_declared {d : DeclaredComplex}
    (h : name ≠ d.decl.name ∨ d.decl.admits kind = false ∨
      ∃ q ∈ r.nativeComplex, q.accepts name kind = true) :
    (r.addComplex .user (.declared d)).complexRule? name kind = r.complexRule? name kind := by
  refine complexRule?_addComplex_of_refused ?_
  rcases h with hname | hkind | hnative
  · exact Or.inl (by simp [ComplexRule.accepts, SimpleDecl.accepts, hname])
  · exact Or.inl (by simp [ComplexRule.accepts, SimpleDecl.accepts, hkind])
  · exact Or.inr hnative

theorem bindsWithSimple_of_binds {d : DeclaredSimple} (hkind : d.decl.admits kind = true)
    (hnative : ∀ q ∈ r.nativeSimple, ¬ q.accepts d.decl.name kind = true)
    (h : (r.addSimple .user (.declared d)).Binds kind ts group) :
    r.BindsWithSimple d kind ts group := by
  constructor
  · refine h.simple.imp ?_
    rintro t p ⟨hname, hfound⟩
    refine ⟨hname, ?_, ?_⟩
    · intro hmain
      have haccepts : (SimpleRule.declared d).accepts d.decl.name kind = true := by
        simp [SimpleRule.accepts, SimpleDecl.accepts, hkind]
      rw [hmain, simpleRule?_addSimple_of_taken haccepts hnative] at hfound
      exact (Option.some.inj hfound).symm
    · intro hmain
      rw [simpleRule?_addSimple_declared (Or.inl hmain)] at hfound
      exact ⟨hname, hfound⟩
  · refine h.complex.imp ?_
    rintro t p ⟨hname, hfound, hsubs, haccepted⟩
    rw [complexRule?_addSimple] at hfound
    exact ⟨hname, hfound, hsubs, haccepted⟩

theorem bindsWithComplex_of_binds {d : DeclaredComplex} (hkind : d.decl.admits kind = true)
    (hnative : ∀ q ∈ r.nativeComplex, ¬ q.accepts d.decl.name kind = true)
    (h : (r.addComplex .user (.declared d)).Binds kind ts group) :
    r.BindsWithComplex d kind ts group := by
  constructor
  · refine h.simple.imp ?_
    rintro t p ⟨hname, hfound⟩
    rw [simpleRule?_addComplex] at hfound
    exact ⟨hname, hfound⟩
  · refine h.complex.imp ?_
    rintro t p ⟨hname, hfound, hsubs, haccepted⟩
    refine ⟨hname, ?_, ?_⟩
    · intro hmain
      have haccepts : (ComplexRule.declared d).accepts d.decl.name kind = true := by
        simp [ComplexRule.accepts, SimpleDecl.accepts, hkind]
      rw [hmain, complexRule?_addComplex_of_taken haccepts hnative] at hfound
      exact (Option.some.inj hfound).symm
    · intro hmain
      rw [complexRule?_addComplex_declared (Or.inl hmain)] at hfound
      exact ⟨hname, hfound, hsubs, haccepted⟩

end Declared

end Registry

section Annotations

variable {g : Grammar} {r : Registry} {kind : Kind} {text : String}

theorem parse_addSimple_declared {d : DeclaredSimple}
    (h : d.decl.admits kind = false ∨ (∃ q ∈ r.nativeSimple, q.accepts d.decl.name kind = true) ∨
      ∀ ts, HasGroups g kind text ts → ∀ t ∈ ts, t.isSimple = true → t.main ≠ d.decl.name) :
    parse g (r.addSimple .user (.declared d)) kind text = parse g r kind text := by
  refine parse_congr ?_
  intro ts hts t ht
  cases hsimple : t.isSimple with
  | false =>
    rw [Registry.AgreeOn, if_neg (by simp [hsimple])]
    exact Registry.complexRule?_addSimple r (.declared d) t.main kind
  | true =>
    rw [Registry.AgreeOn, if_pos hsimple]
    refine Registry.simpleRule?_addSimple_declared ?_
    rcases h with hkind | hnative | hnames
    · exact Or.inr (Or.inl hkind)
    · by_cases hmain : t.main = d.decl.name
      · rw [hmain]
        exact Or.inr (Or.inr hnative)
      · exact Or.inl hmain
    · exact Or.inl (hnames ts hts t ht hsimple)

theorem parse_addComplex_declared {d : DeclaredComplex}
    (h : d.decl.admits kind = false ∨ (∃ q ∈ r.nativeComplex, q.accepts d.decl.name kind = true) ∨
      ∀ ts, HasGroups g kind text ts → ∀ t ∈ ts, t.isSimple = false → t.main ≠ d.decl.name) :
    parse g (r.addComplex .user (.declared d)) kind text = parse g r kind text := by
  refine parse_congr ?_
  intro ts hts t ht
  cases hsimple : t.isSimple with
  | true =>
    rw [Registry.AgreeOn, if_pos hsimple]
    exact Registry.simpleRule?_addComplex r (.declared d) t.main kind
  | false =>
    rw [Registry.AgreeOn, if_neg (by simp [hsimple])]
    refine Registry.complexRule?_addComplex_declared ?_
    rcases h with hkind | hnative | hnames
    · exact Or.inr (Or.inl hkind)
    · by_cases hmain : t.main = d.decl.name
      · rw [hmain]
        exact Or.inr (Or.inr hnative)
      · exact Or.inl hmain
    · exact Or.inl (hnames ts hts t ht hsimple)

/-- **Adding a declared rule is a conservative extension.** An annotation is parsed as
before if the rule is not meant for the kind, if a native rule of its sort takes its
name, or if no token group of its sort has its name. In every other case in which the
token groups are bound, those of its sort with its name are bound to it, and all
others as before. What a native rule takes is still bound to the rule that was found
for it before. -/
theorem parse_addUser (g : Grammar) (r : Registry) (kind : Kind) (text : String) :
    (∀ d : DeclaredSimple,
      (d.decl.admits kind = false ∨ (∃ q ∈ r.nativeSimple, q.accepts d.decl.name kind = true) ∨
          (∀ ts, HasGroups g kind text ts → ∀ t ∈ ts, t.isSimple = true →
            t.main ≠ d.decl.name) →
        parse g (r.addSimple .user (.declared d)) kind text = parse g r kind text) ∧
      (d.decl.admits kind = true → (∀ q ∈ r.nativeSimple, ¬ q.accepts d.decl.name kind = true) →
        ∀ ts group, (r.addSimple .user (.declared d)).bind kind ts = .ok group →
          r.BindsWithSimple d kind ts group) ∧
      ∀ name, (∃ q ∈ r.nativeSimple, q.accepts name kind = true) →
        (r.addSimple .user (.declared d)).simpleRule? name kind = r.simpleRule? name kind) ∧
    (∀ d : DeclaredComplex,
      (d.decl.admits kind = false ∨ (∃ q ∈ r.nativeComplex, q.accepts d.decl.name kind = true) ∨
          (∀ ts, HasGroups g kind text ts → ∀ t ∈ ts, t.isSimple = false →
            t.main ≠ d.decl.name) →
        parse g (r.addComplex .user (.declared d)) kind text = parse g r kind text) ∧
      (d.decl.admits kind = true → (∀ q ∈ r.nativeComplex, ¬ q.accepts d.decl.name kind = true) →
        ∀ ts group, (r.addComplex .user (.declared d)).bind kind ts = .ok group →
          r.BindsWithComplex d kind ts group) ∧
      ∀ name, (∃ q ∈ r.nativeComplex, q.accepts name kind = true) →
        (r.addComplex .user (.declared d)).complexRule? name kind = r.complexRule? name kind) := by
  constructor
  · intro d
    refine ⟨parse_addSimple_declared, ?_, ?_⟩
    · intro hkind hnative ts group hbind
      exact Registry.bindsWithSimple_of_binds hkind hnative (Registry.bind_eq_ok_iff.mp hbind)
    · intro name hnative
      exact Registry.simpleRule?_addSimple_declared (Or.inr (Or.inr hnative))
  · intro d
    refine ⟨parse_addComplex_declared, ?_, ?_⟩
    · intro hkind hnative ts group hbind
      exact Registry.bindsWithComplex_of_binds hkind hnative (Registry.bind_eq_ok_iff.mp hbind)
    · intro name hnative
      exact Registry.complexRule?_addComplex_declared (Or.inr (Or.inr hnative))

end Annotations

namespace Sample

/-- A rule of a user with the name of the template rule, which takes any text. -/
def impostor : DeclaredComplex where
  decl := { name := "GenCodeTemplate" }
  pattern := none
  named := by decide
  bounded := by simp
  compiled := rfl

end Sample

theorem parse_template_beside_impostor :
    (∃ q ∈ Registry.native.nativeComplex, q.accepts Sample.impostor.decl.name .cls = true) ∧
    parse .standard (Registry.native.addComplex .user (.declared Sample.impostor)) .cls
        "KGC:GenCodeTemplate(a-b)" =
      parse .standard Registry.native .cls "KGC:GenCodeTemplate(a-b)" ∧
    ∃ group, (Registry.empty.addComplex .user (.declared Sample.impostor)).bind .cls
        [⟨"GenCodeTemplate", ["a-b"]⟩] = .ok group ∧
      Registry.empty.BindsWithComplex Sample.impostor .cls [⟨"GenCodeTemplate", ["a-b"]⟩]
        group := by
  have hnative : ∃ q ∈ Registry.native.nativeComplex,
      q.accepts Sample.impostor.decl.name .cls = true :=
    ⟨.template, List.mem_singleton_self _, rfl⟩
  obtain ⟨-, hcomplex⟩ := parse_addUser .standard .native .cls "KGC:GenCodeTemplate(a-b)"
  obtain ⟨hsame, -, -⟩ := hcomplex Sample.impostor
  refine ⟨hnative, hsame (Or.inr (Or.inl hnative)),
    ⟨[], [⟨"GenCodeTemplate", ["a-b"], .declared Sample.impostor⟩]⟩, rfl, ?_⟩
  -- Without native rules, the rule of the user is bound.
  obtain ⟨-, hcomplex⟩ := parse_addUser .standard .empty .cls "KGC:GenCodeTemplate(a-b)"
  obtain ⟨-, hbinds, -⟩ := hcomplex Sample.impostor
  exact hbinds rfl (fun _ hq => absurd hq List.not_mem_nil) _ _ rfl

end EntityProps
