import EntityProps.Proofs.Demands
import EntityProps.Proofs.Pattern.Anchored

/-!
# Complex properties with nothing between the enclosers

`Name()` gives a complex property one sub-token, which is empty. Most rules do
not accept the empty text as a sub-property. They make this a property without
sub-properties. A rule that does accept it keeps it as the only sub-property.
Which rules these are is `ComplexRule.TakesEmpty`: none of the built-in ones, and
of the declared ones those whose pattern matches the empty text.

- `ComplexRule.acceptsSub_empty_iff`: these are the rules that accept it.
- `subs_of_parse`: what the properties of an accepted annotation keep, and which
  rules that demand sub-properties allow `Name()`.
- `not_forall_subs_eq_nil`: a rule for which `Name()` has a sub-property.
-/

namespace EntityProps

open Pattern

/-- The rule accepts the empty text as a first sub-property. -/
inductive ComplexRule.TakesEmpty : ComplexRule → Prop
  /-- A declared rule does by its pattern, if it allows sub-properties at all. -/
  | declared {d : DeclaredComplex} {pattern : Pattern} (hpattern : d.pattern = some pattern)
      (hmatch : Matches #[] pattern.node 0 0) (hroom : d.decl.maxSubs ≠ some 0) :
      TakesEmpty (.declared d)
  | custom {c : CustomComplex} (haccepts : c.acceptsSub "" 0 = true) : TakesEmpty (.custom c)

/-- Nothing but the empty match is found in the empty text. -/
theorem Pattern.isMatch_empty_iff {pattern : Pattern} :
    pattern.isMatch "" = true ↔ Matches #[] pattern.node 0 0 := by
  rw [Pattern.isMatch, matchesIn_iff]
  constructor
  · rintro ⟨i, hi, j, h⟩
    obtain rfl : i = 0 := Nat.le_zero.mp hi
    rcases h.advances with rfl | ⟨hlt, hle⟩
    · exact h
    · exact absurd (Nat.lt_of_lt_of_le hlt hle) (Nat.not_lt_zero _)
  · intro h
    exact ⟨0, Nat.zero_le _, 0, h⟩

namespace DeclaredComplex

variable {d : DeclaredComplex}

theorem acceptsSub_empty_iff :
    d.acceptsSub "" 0 = true ↔ (ComplexRule.declared d).TakesEmpty := by
  constructor
  · intro h
    obtain ⟨hbound, hmatch⟩ := Bool.and_eq_true_iff.mp h
    cases hpattern : d.pattern with
    | none =>
      rw [hpattern] at hmatch
      cases hmatch
    | some pattern =>
      rw [hpattern] at hmatch
      refine .declared hpattern (isMatch_empty_iff.mp hmatch) ?_
      intro hroom
      rw [hroom] at hbound
      cases hbound
  · intro h
    cases h with
    | declared hpattern hmatch hroom =>
      rw [acceptsSub, hpattern, Bool.and_eq_true]
      refine ⟨?_, isMatch_empty_iff.mpr hmatch⟩
      cases hmost : d.decl.maxSubs with
      | none => rfl
      | some most =>
        have hne : most ≠ 0 := fun h => hroom (hmost.trans (congrArg some h))
        exact decide_eq_true (Nat.pos_of_ne_zero hne)

end DeclaredComplex

/-- The rules that take the empty text are those that accept it at the first place. -/
theorem ComplexRule.acceptsSub_empty_iff {rule : ComplexRule} :
    rule.acceptsSub "" 0 = true ↔ rule.TakesEmpty := by
  cases rule with
  | template | getter | setter =>
    constructor
    · intro h
      exact absurd h (by decide)
    · intro h
      cases h
  | declared d => exact DeclaredComplex.acceptsSub_empty_iff
  | custom c =>
    constructor
    · exact .custom
    · intro h
      cases h with
      | custom haccepts => exact haccepts

/-! ## Token groups with a sole empty sub-token -/

/-- A sole empty sub-token is kept by the rules that take it, and by no others. -/
theorem Registry.BindsComplex.subs_of_sole_empty {r : Registry} {kind : Kind} {t : TokenGroup}
    {p : ComplexProperty ComplexRule} (h : r.BindsComplex kind t p) (hsole : t.subs = [""]) :
    p.rule.TakesEmpty ∧ p.subs = [""] ∨ ¬ p.rule.TakesEmpty ∧ p.subs = [] := by
  have hsubs := h.subs_eq
  by_cases htakes : p.rule.TakesEmpty
  · have haccepts := ComplexRule.acceptsSub_empty_iff.mpr htakes
    rw [if_neg (by simp [haccepts]), hsole] at hsubs
    exact Or.inl ⟨htakes, hsubs⟩
  · have hrefuses : p.rule.acceptsSub "" 0 = false :=
      Bool.eq_false_iff.mpr fun haccepts => htakes (ComplexRule.acceptsSub_empty_iff.mp haccepts)
    rw [if_pos ⟨hsole, hrefuses⟩] at hsubs
    exact Or.inr ⟨htakes, hsubs⟩

/-- Declared rules demand their least number of sub-properties. -/
theorem PropertyGroup.Allowed.minSubs_le {g : BoundGroup} (h : g.Allowed)
    {p : ComplexProperty ComplexRule} (hp : p ∈ g.complex) {d : DeclaredComplex}
    (hd : p.rule = .declared d) : d.decl.minSubs ≤ p.subs.length := by
  obtain ⟨i, hi⟩ := List.mem_iff_getElem?.mp hp
  have hallows : p.rule.allows g.outline i = true := h.complex i p hi
  rw [hd] at hallows
  exact ((PropertyGroup.allows_declared_iff hi).mp hallows).2.1

/-- **Nothing between the enclosers.** Let an annotation be accepted. The complex properties of its
group are its complex token groups, one by one. Where the sole sub-token is empty, the property has
no sub-properties exactly if its rule does not take the empty text, and the empty text as its only
one otherwise. Of the declared rules that demand sub-properties, only those allow it there that
demand one and take the empty text. -/
theorem subs_of_parse {g : Grammar} {r : Registry} {kind : Kind} {text : String}
    {group : BoundGroup} (h : parse g r kind text = .ok group) :
    ∃ body ts, kind.body? text = some body ∧ g.tokenGroups body = .ok ts ∧
      List.Forall₂ (fun t p => p.name = t.main ∧ (t.subs = [""] →
          (p.subs = [] ↔ ¬ p.rule.TakesEmpty) ∧ (p.subs = [""] ↔ p.rule.TakesEmpty) ∧
          ∀ d, p.rule = .declared d → 1 ≤ d.decl.minSubs →
            d.decl.minSubs = 1 ∧ p.rule.TakesEmpty))
        (ts.filter (!·.isSimple)) group.complex := by
  obtain ⟨body, ts, hbody, hread, hbinds, hallowed⟩ := parse_eq_ok_iff.mp h
  obtain ⟨hlength, hpairs⟩ := List.forall₂_iff_zip.mp hbinds.complex
  refine ⟨body, ts, hbody, hread, List.forall₂_iff_zip.mpr ⟨hlength, ?_⟩⟩
  intro t p hmem
  have hbind := hpairs hmem
  have hp : p ∈ group.complex := (List.of_mem_zip hmem).2
  refine ⟨hbind.name_eq, fun hsole => ?_⟩
  have henough : ∀ d, p.rule = .declared d → d.decl.minSubs ≤ p.subs.length :=
    fun d => hallowed.minSubs_le hp
  rcases hbind.subs_of_sole_empty hsole with ⟨htakes, hsubs⟩ | ⟨hrefuses, hsubs⟩
  · refine ⟨by simp [htakes, hsubs], by simp [htakes, hsubs], ?_⟩
    intro d hd hleast
    have hle := henough d hd
    rw [hsubs] at hle
    exact ⟨Nat.le_antisymm hle hleast, htakes⟩
  · refine ⟨by simp [hrefuses, hsubs], by simp [hrefuses, hsubs], ?_⟩
    intro d hd hleast
    have hle := henough d hd
    rw [hsubs] at hle
    exact absurd (Nat.le_trans hleast hle) (by decide)

/-! ## A sample -/

namespace Sample

/-- A complex property with a sub-property of small letters, of which there may be none. -/
def letters : DeclaredComplex where
  decl := { name := "Letters", minSubs := 1, subPattern := some "[a-z]*" }
  pattern := (compile (anchored "[a-z]*")).toOption
  named := by decide
  bounded := nofun
  compiled := DeclaredComplex.compiled_of_isOk (by decide +kernel)

def lettersConfig : Config where
  rules := { accessors := true }
  complexRules := [letters.decl]

def lettersRegistry : Registry :=
  lettersConfig.registryWith [] [letters]

def lettersAnnotation : String := "KGF:Getter(), Letters( )"

def lettersGroups : List TokenGroup :=
  [⟨"Getter", [""]⟩, ⟨"Letters", [""]⟩]

def lettersBound : BoundGroup where
  simple := []
  complex := [⟨"Getter", [], .getter⟩, ⟨"Letters", [""], .declared letters⟩]

theorem lettersRegistry_eq : lettersConfig.registry = .ok lettersRegistry :=
  Config.registry_eq_ok_iff.mpr ⟨[], [letters], rfl, rfl, rfl⟩

theorem body_lettersAnnotation :
    Kind.field.body? lettersAnnotation = some "Getter(), Letters( )".toList := rfl

theorem tokenGroups_lettersAnnotation :
    lettersConfig.grammar.tokenGroups "Getter(), Letters( )".toList = .ok lettersGroups := by
  refine Grammar.tokenGroups_eq_ok_iff.mpr ⟨?_, ?_⟩
  · decide
  · decide

theorem parse_lettersAnnotation :
    parse lettersConfig.grammar lettersRegistry .field lettersAnnotation = .ok lettersBound := by
  have haccepts : letters.acceptsSub "" 0 = true := by decide +kernel
  have hgetter : lettersRegistry.BindsComplex .field ⟨"Getter", [""]⟩ ⟨"Getter", [], .getter⟩ :=
    Registry.bindComplex_eq_ok_iff.mp rfl
  have hletters : lettersRegistry.BindsComplex .field ⟨"Letters", [""]⟩
      ⟨"Letters", [""], .declared letters⟩ := by
    refine ⟨rfl, rfl, ?_, allAt_singleton.mpr haccepts⟩
    rw [if_neg]
    rintro ⟨-, hrefused⟩
    rw [ComplexRule.acceptsSub, haccepts] at hrefused
    cases hrefused
  have hbinds : lettersRegistry.Binds .field lettersGroups lettersBound :=
    ⟨.nil, .cons hgetter (.cons hletters .nil)⟩
  rw [parse_of_binds body_lettersAnnotation tokenGroups_lettersAnnotation hbinds]
  rfl

end Sample

theorem takesEmpty_of_parse_lettersAnnotation :
    parse Sample.lettersConfig.grammar Sample.lettersRegistry .field Sample.lettersAnnotation =
        .ok Sample.lettersBound ∧
      ¬ ComplexRule.getter.TakesEmpty ∧ (ComplexRule.declared Sample.letters).TakesEmpty := by
  obtain ⟨body, ts, hbody, hread, hpairs⟩ := subs_of_parse Sample.parse_lettersAnnotation
  obtain rfl := Option.some.inj (Sample.body_lettersAnnotation.symm.trans hbody)
  obtain rfl := Except.ok.inj (Sample.tokenGroups_lettersAnnotation.symm.trans hread)
  obtain ⟨⟨-, hgetter⟩, htail⟩ := List.forall₂_cons.mp hpairs
  obtain ⟨⟨-, hletters⟩, -⟩ := List.forall₂_cons.mp htail
  exact ⟨Sample.parse_lettersAnnotation, (hgetter rfl).1.mp rfl, (hletters rfl).2.1.mp rfl⟩

/-- `Letters()` has a sub-property, which is empty. -/
theorem not_forall_subs_eq_nil :
    ¬ ∀ (c : Config) (r : Registry) (kind : Kind) (text : String) (group : BoundGroup)
        (body : List Char) (ts : List TokenGroup), c.registry = .ok r →
      parse c.grammar r kind text = .ok group → kind.body? text = some body →
      c.grammar.tokenGroups body = .ok ts →
        List.Forall₂ (fun t p => t.subs = [""] → p.subs = []) (ts.filter (!·.isSimple))
          group.complex := by
  intro h
  have hpairs := h _ _ _ _ _ _ _ Sample.lettersRegistry_eq Sample.parse_lettersAnnotation
    Sample.body_lettersAnnotation Sample.tokenGroups_lettersAnnotation
  obtain ⟨-, htail⟩ := List.forall₂_cons.mp hpairs
  obtain ⟨hletters, -⟩ := List.forall₂_cons.mp htail
  exact absurd (hletters rfl) (by decide)

end EntityProps
