import EntityProps.Proofs.Meaning
import EntityProps.Proofs.Pattern.Anchored

/-!
# Stricter declarations

A declaration is stricter than another for the same properties if it lets a name stand
once, knows of more conflicts, requires more companions, or sets closer bounds on the
number of sub-properties. A configuration with some stricter declarations accepts no
annotation that it would not accept without them, and binds its properties to the same
declarations.

The bounds do not simply shrink what is kept of a property. `Name()` keeps an empty
sub-property where the rule takes it and none where the rule does not, so a rule with no
room for sub-properties keeps fewer of them. The least number must be zero then.

- `Config.FindsSimple.exists_beside`, `Config.FindsComplex.exists_beside`: a search finds
  rules of declarations at the same place.
- `Registry.Binds.exists_loose`: what the stricter rules bind, the others bind alike.
- `allowed_of_alike`: what the stricter rules allow, the others allow.
- `parse_of_tightens`: the result for annotations.
-/

namespace EntityProps

/-! ## Members at the same place -/

/-- Let members at the same place satisfy a condition or its counterpart both or neither.
Then the last ones that satisfy them stand at the same place. -/
theorem IsLast.exists_beside {α β : Type} {R : α → β → Prop} {p : α → Prop} {q : β → Prop}
    {l : List α} {l' : List β} {a : α} (hpq : ∀ a b, R a b → (p a ↔ q b))
    (h : List.Forall₂ R l l') (hlast : IsLast p l a) :
    ∃ b, (a, b) ∈ l.zip l' ∧ IsLast q l' b := by
  obtain ⟨before, after, rfl, ha, hafter⟩ := hlast
  induction before generalizing l' with
  | nil =>
    cases h with
    | @cons _ b _ after' hab hrest =>
    refine ⟨b, List.mem_cons_self, [], after', rfl, (hpq a b hab).mp ha, ?_⟩
    intro d hd hq
    obtain ⟨c, hc, hcd⟩ := exists_of_mem_forall₂ hrest hd
    exact hafter c hc ((hpq c d hcd).mpr hq)
  | cons x before ih =>
    cases h with
    | @cons _ y _ l' hxy hrest =>
    obtain ⟨b, hmem, before', after', rfl, hb, hafter'⟩ := ih hrest
    exact ⟨b, List.mem_cons_of_mem _ hmem, y :: before', after', rfl, hb, hafter'⟩

/-! ## Stricter declarations -/

/-- The one declaration is for the same properties as the other and demands at least as
much of the properties beside them. -/
structure SimpleDecl.Tightens (strict loose : SimpleDecl) : Prop where
  name_eq : strict.name = loose.name
  entities_eq : strict.entities = loose.entities
  unique : loose.unique = true → strict.unique = true
  conflictsWith : loose.conflictsWith ⊆ strict.conflictsWith
  requires : loose.requires ⊆ strict.requires

/-- The same for complex properties, with bounds that are at least as close. -/
structure ComplexDecl.Tightens (strict loose : ComplexDecl) : Prop
    extends strict.toSimpleDecl.Tightens loose.toSimpleDecl where
  minSubs_le : loose.minSubs ≤ strict.minSubs
  maxSubs_le : ∀ most, loose.maxSubs = some most → ∃ m ≤ most, strict.maxSubs = some m
  subPattern_eq : strict.subPattern = loose.subPattern

/-- The configurations are the same, but for declarations of the one that are stricter. -/
structure Config.Tightens (strict loose : Config) : Prop where
  grammar_eq : strict.grammar = loose.grammar
  rules_eq : strict.rules = loose.rules
  simple : List.Forall₂ SimpleDecl.Tightens strict.simpleRules loose.simpleRules
  complex : List.Forall₂ ComplexDecl.Tightens strict.complexRules loose.complexRules

/-- The rules are those of declarations at the same place of two configurations. -/
inductive SimpleRule.Alike (c c' : Config) : SimpleRule → SimpleRule → Prop
  | declared {d d' : DeclaredSimple}
      (hplace : (d.decl, d'.decl) ∈ c.simpleRules.zip c'.simpleRules) :
      Alike c c' (.declared d) (.declared d')

/-- The rules are the same built-in one, or those of declarations at the same place. -/
inductive ComplexRule.Alike (c c' : Config) : ComplexRule → ComplexRule → Prop
  | template : Alike c c' .template .template
  | getter : Alike c c' .getter .getter
  | setter : Alike c c' .setter .setter
  | declared {d d' : DeclaredComplex}
      (hplace : (d.decl, d'.decl) ∈ c.complexRules.zip c'.complexRules) :
      Alike c c' (.declared d) (.declared d')

/-- Properties with the same name, bound alike. -/
structure SimpleProperty.Alike (c c' : Config) (p p' : SimpleProperty SimpleRule) : Prop where
  name_eq : p'.name = p.name
  rule : p.rule.Alike c c' p'.rule

/-- Properties with the same name and sub-properties, bound alike. Only the second may
have an empty sub-property where the first has none. -/
structure ComplexProperty.Alike (c c' : Config) (p p' : ComplexProperty ComplexRule) : Prop where
  name_eq : p'.name = p.name
  rule : p.rule.Alike c c' p'.rule
  subs : p'.subs = p.subs ∨ p.subs = [] ∧ p'.subs = [""]

/-- Groups of such properties, in the same order. -/
structure PropertyGroup.Alike (c c' : Config) (g g' : BoundGroup) : Prop where
  simple : List.Forall₂ (SimpleProperty.Alike c c') g.simple g'.simple
  complex : List.Forall₂ (ComplexProperty.Alike c c') g.complex g'.complex

theorem SimpleDecl.Tightens.isFor_iff {strict loose : SimpleDecl} (h : strict.Tightens loose)
    {name : String} {kind : Kind} : strict.IsFor name kind ↔ loose.IsFor name kind := by
  constructor
  · rintro ⟨hname, hkind⟩
    rw [h.name_eq] at hname
    rw [h.entities_eq] at hkind
    exact ⟨hname, hkind⟩
  · rintro ⟨hname, hkind⟩
    rw [← h.name_eq] at hname
    rw [← h.entities_eq] at hkind
    exact ⟨hname, hkind⟩

section Search

variable {strict loose : Config} {r : Registry} {name : String} {kind : Kind}

/-! ## What a search finds -/

namespace Config

theorem FindsSimple.exists_beside (hr : loose.registry = .ok r) (h : strict.Tightens loose)
    {rule : SimpleRule} (hfinds : strict.FindsSimple name kind (some rule)) :
    ∃ rule', r.simpleRule? name kind = some rule' ∧ rule.Alike strict loose rule' := by
  obtain ⟨simple, complex, hsimple, -, -⟩ := registry_eq_ok_iff.mp hr
  cases hfinds with
  | @declared d hlast =>
    obtain ⟨e, hplace, hlast'⟩ := hlast.exists_beside (fun _ _ ht => ht.isFor_iff) h.simple
    have he : e ∈ simple.map (·.decl) := hsimple ▸ hlast'.mem
    obtain ⟨d', -, rfl⟩ := List.mem_map.mp he
    exact ⟨.declared d', (simpleRule?_eq_iff_finds hr).mpr (.declared hlast'), .declared hplace⟩

/-- No declaration of the one configuration is for a name and a kind for which none of the
other is. -/
theorem Tightens.not_isFor (h : strict.Tightens loose)
    (hnone : ∀ e ∈ strict.complexRules, ¬ e.IsFor name kind) :
    ∀ e ∈ loose.complexRules, ¬ e.IsFor name kind := by
  intro e he hfor
  obtain ⟨d, hd, hde⟩ := exists_of_mem_forall₂ h.complex he
  exact hnone d hd (hde.isFor_iff.mpr hfor)

theorem FindsComplex.exists_beside (hr : loose.registry = .ok r) (h : strict.Tightens loose)
    {rule : ComplexRule} (hfinds : strict.FindsComplex name kind (some rule)) :
    ∃ rule', r.complexRule? name kind = some rule' ∧ rule.Alike strict loose rule' := by
  obtain ⟨simple, complex, -, hcomplex, -⟩ := registry_eq_ok_iff.mp hr
  have hrules := h.rules_eq
  cases hfinds with
  | template hnative hname =>
    rw [hrules] at hnative
    exact ⟨.template, (complexRule?_eq_iff_finds hr).mpr (.template hnative hname), .template⟩
  | @declared d htemplate hlast =>
    rw [hrules] at htemplate
    obtain ⟨e, hplace, hlast'⟩ :=
      hlast.exists_beside (fun _ _ ht => ht.toTightens.isFor_iff) h.complex
    have he : e ∈ complex.map (·.decl) := hcomplex ▸ hlast'.mem
    obtain ⟨d', -, rfl⟩ := List.mem_map.mp he
    exact ⟨.declared d', (complexRule?_eq_iff_finds hr).mpr (.declared htemplate hlast'),
      .declared hplace⟩
  | getter hdeclared haccessors hkind hname =>
    rw [hrules] at haccessors
    exact ⟨.getter, (complexRule?_eq_iff_finds hr).mpr
      (.getter (h.not_isFor hdeclared) haccessors hkind hname), .getter⟩
  | setter hdeclared haccessors hkind hname =>
    rw [hrules] at haccessors
    exact ⟨.setter, (complexRule?_eq_iff_finds hr).mpr
      (.setter (h.not_isFor hdeclared) haccessors hkind hname), .setter⟩

end Config

end Search

/-! ## Sub-properties -/

/-- Rules with the same pattern text have the same pattern. -/
theorem DeclaredComplex.pattern_eq {d d' : DeclaredComplex}
    (h : d.decl.subPattern = d'.decl.subPattern) : d.pattern = d'.pattern := by
  have hcompiled := d.compiled
  rw [h, d'.compiled] at hcompiled
  have hinj : Function.Injective (Except.ok : Pattern → Except Pattern.Fault Pattern) :=
    fun _ _ => Except.ok.inj
  exact (Option.map_injective hinj hcompiled).symm

theorem DeclaredComplex.acceptsSub_of_tightens {d d' : DeclaredComplex}
    (h : d.decl.Tightens d'.decl) {sub : String} {i : Nat} (hsub : d.acceptsSub sub i = true) :
    d'.acceptsSub sub i = true := by
  rw [acceptsSub, Bool.and_eq_true, Option.all_eq_true] at hsub ⊢
  obtain ⟨hbound, hlooks⟩ := hsub
  rw [pattern_eq h.subPattern_eq] at hlooks
  refine ⟨?_, hlooks⟩
  intro most hmost
  obtain ⟨m, hm, hstrict⟩ := h.maxSubs_le most hmost
  have hi := hbound m hstrict
  rw [decide_eq_true_eq] at hi ⊢
  exact Nat.lt_of_lt_of_le hi hm

section Binding

variable {strict loose : Config} {r r' : Registry} {kind : Kind}

theorem ComplexRule.Alike.acceptsSub (h : strict.Tightens loose) {rule rule' : ComplexRule}
    (halike : rule.Alike strict loose rule') {sub : String} {i : Nat}
    (hsub : rule.acceptsSub sub i = true) : rule'.acceptsSub sub i = true := by
  cases halike with
  | template | getter | setter => exact hsub
  | declared hplace =>
    exact DeclaredComplex.acceptsSub_of_tightens (List.forall₂_zip h.complex hplace) hsub

/-! ## Binding -/

namespace Registry

theorem BindsSimple.exists_loose (hr : strict.registry = .ok r) (hr' : loose.registry = .ok r')
    (h : strict.Tightens loose) {t : TokenGroup} {p : SimpleProperty SimpleRule}
    (hp : r.BindsSimple kind t p) :
    ∃ p', r'.BindsSimple kind t p' ∧ p.Alike strict loose p' := by
  have hfinds := (Config.simpleRule?_eq_iff_finds hr).mp hp.found
  obtain ⟨rule', hfound, halike⟩ := hfinds.exists_beside hr' h
  exact ⟨⟨t.main, rule'⟩, ⟨rfl, hfound⟩, hp.name_eq.symm, halike⟩

theorem BindsComplex.exists_loose (hr : strict.registry = .ok r) (hr' : loose.registry = .ok r')
    (h : strict.Tightens loose) {t : TokenGroup} {p : ComplexProperty ComplexRule}
    (hp : r.BindsComplex kind t p) :
    ∃ p', r'.BindsComplex kind t p' ∧ p.Alike strict loose p' := by
  obtain ⟨hname, hfound, hsubs, haccepted⟩ := hp
  have hfinds := (Config.complexRule?_eq_iff_finds hr).mp hfound
  obtain ⟨rule', hfound', halike⟩ := hfinds.exists_beside hr' h
  by_cases hsole : t.subs = [""]
  · -- The other rule may take the empty text where this one does not.
    cases hempty' : rule'.acceptsSub "" 0 with
    | false =>
      have hempty : p.rule.acceptsSub "" 0 = false := by
        rw [← Bool.not_eq_true] at hempty' ⊢
        exact fun haccepts => hempty' (halike.acceptsSub h haccepts)
      rw [if_pos ⟨hsole, hempty⟩] at hsubs
      refine ⟨⟨t.main, [], rule'⟩, ⟨rfl, hfound', ?_, ?_⟩, hname.symm, halike, Or.inl hsubs.symm⟩
      · exact (if_pos ⟨hsole, hempty'⟩).symm
      · intro i s hs
        simp at hs
    | true =>
      have hkept : p.subs = [""] ∨ p.subs = [] := by
        rw [hsubs]
        split
        · exact Or.inr rfl
        · exact Or.inl hsole
      refine ⟨⟨t.main, [""], rule'⟩, ⟨rfl, hfound', ?_, allAt_singleton.mpr hempty'⟩, hname.symm,
        halike, ?_⟩
      · rw [if_neg (by simp [hempty']), hsole]
      · rcases hkept with hkept | hkept
        · exact Or.inl hkept.symm
        · exact Or.inr ⟨hkept, rfl⟩
  · rw [if_neg fun hboth => hsole hboth.1] at hsubs
    rw [hsubs] at haccepted
    refine ⟨⟨t.main, t.subs, rule'⟩, ⟨rfl, hfound', ?_, ?_⟩, hname.symm, halike,
      Or.inl hsubs.symm⟩
    · exact (if_neg fun hboth => hsole hboth.1).symm
    · intro i s hs
      exact halike.acceptsSub h (haccepted i s hs)

/-- What the stricter rules bind, the others bind alike. -/
theorem Binds.exists_loose (hr : strict.registry = .ok r) (hr' : loose.registry = .ok r')
    (h : strict.Tightens loose) {ts : List TokenGroup} {g : BoundGroup}
    (hg : r.Binds kind ts g) : ∃ g', r'.Binds kind ts g' ∧ g.Alike strict loose g' := by
  have hsame (l : List TokenGroup) : List.Forall₂ Eq l l :=
    List.forall₂_same.mpr fun _ _ => rfl
  have hstep (t u : TokenGroup) (p : SimpleProperty SimpleRule) (htu : t = u)
      (hp : r.BindsSimple kind t p) :
      ∃ p', r'.BindsSimple kind u p' ∧ p.Alike strict loose p' := by
    rw [htu] at hp
    exact hp.exists_loose hr hr' h
  have hstep' (t u : TokenGroup) (p : ComplexProperty ComplexRule) (htu : t = u)
      (hp : r.BindsComplex kind t p) :
      ∃ p', r'.BindsComplex kind u p' ∧ p.Alike strict loose p' := by
    rw [htu] at hp
    exact hp.exists_loose hr hr' h
  obtain ⟨simple, hsimple, hsimple'⟩ := exists_forall₂_beside hstep (hsame _) hg.simple
  obtain ⟨complex, hcomplex, hcomplex'⟩ := exists_forall₂_beside hstep' (hsame _) hg.complex
  exact ⟨⟨simple, complex⟩, ⟨hsimple, hcomplex⟩, hsimple', hcomplex'⟩

end Registry

/-! ## Demands -/

namespace SimpleDecl.Tightens

variable {d d' : SimpleDecl} {name : String} {same all : List String}

theorem tolerates (h : d.Tightens d') (hd : d.Tolerates all) : d'.Tolerates all := by
  obtain ⟨halone, haccompanied⟩ := hd
  constructor
  · intro other hother hne
    rw [← h.name_eq] at hne
    exact halone other (h.conflictsWith hother) hne
  · intro other hother
    exact haccompanied other (h.requires hother)

theorem holds (h : d.Tightens d') (hd : d.Holds kind name same all) :
    d'.Holds kind name same all := by
  obtain ⟨halone, haccompanied⟩ := h.tolerates ⟨hd.alone, hd.accompanied⟩
  refine ⟨hd.named.trans h.name_eq, ?_, fun hunique => hd.once (h.unique hunique), halone,
    haccompanied⟩
  rw [← h.entities_eq]
  exact hd.admitted

end SimpleDecl.Tightens

theorem ComplexRule.Alike.isUnique (h : strict.Tightens loose) {rule rule' : ComplexRule}
    (halike : rule.Alike strict loose rule') (hunique : rule'.IsUnique) : rule.IsUnique := by
  cases halike with
  | template | getter | setter => trivial
  | declared hplace => exact (List.forall₂_zip h.complex hplace).unique hunique

/-- A property that fits the stricter rule fits the other. An empty sub-property more is
not too many for the built-in rules, which keep none. -/
theorem ComplexProperty.Alike.fits (h : strict.Tightens loose)
    {p p' : ComplexProperty ComplexRule} (halike : p.Alike strict loose p') {all : List String}
    (hfits : p.rule.Fits p.subs all) : p'.rule.Fits p'.subs all := by
  obtain ⟨name, subs, rule⟩ := p
  obtain ⟨name', subs', rule'⟩ := p'
  obtain ⟨-, hrule, hsubs⟩ := halike
  simp only at hrule hsubs hfits ⊢
  have hlength : subs.length ≤ subs'.length := by
    rcases hsubs with rfl | ⟨rfl, rfl⟩
    · exact Nat.le_refl _
    · exact Nat.zero_le _
  cases hrule with
  | template =>
    rcases hsubs with rfl | ⟨rfl, rfl⟩
    · exact hfits
    · rfl
  | getter | setter =>
    rcases hsubs with rfl | ⟨rfl, rfl⟩
    · exact hfits
    · show [""].Nodup ∧ ¬ ("*" ∈ [""] ∧ "&" ∈ [""])
      decide
  | declared hplace =>
    have hd := List.forall₂_zip h.complex hplace
    obtain ⟨henough, htolerates⟩ := hfits
    exact ⟨hd.minSubs_le.trans (henough.trans hlength), hd.tolerates htolerates⟩

namespace PropertyGroup.Alike

variable {g g' : BoundGroup}

theorem simpleNames_eq (h : g.Alike strict loose g') : g'.simpleNames = g.simpleNames :=
  (map_eq_map_of_forall₂ (fun _ _ hp => hp.name_eq.symm) h.simple).symm

theorem complexNames_eq (h : g.Alike strict loose g') : g'.complexNames = g.complexNames :=
  (map_eq_map_of_forall₂ (fun _ _ hp => hp.name_eq.symm) h.complex).symm

theorem names_eq (h : g.Alike strict loose g') : g'.names = g.names := by
  rw [names, h.simpleNames_eq, h.complexNames_eq, names]

end PropertyGroup.Alike

/-- What the stricter rules allow, the others allow. -/
theorem allowed_of_alike (hr : strict.registry = .ok r) (hr' : loose.registry = .ok r')
    (h : strict.Tightens loose) {ts : List TokenGroup} {g g' : BoundGroup}
    (hb : r.Binds kind ts g) (hb' : r'.Binds kind ts g') (halike : g.Alike strict loose g')
    (hg : g.Allowed) : g'.Allowed := by
  have hsimple := (allAt_simple_iff hr hb).mp hg.simple
  have hcomplex := (allAt_complex_iff hr hb).mp hg.complex
  constructor
  · rw [allAt_simple_iff hr' hb']
    intro p' hp' d' hd'
    obtain ⟨p, hp, hname, hrule⟩ := exists_of_mem_forall₂ halike.simple hp'
    rw [hd'] at hrule
    generalize hpr : p.rule = rule at hrule
    cases hrule with
    | @declared d _ hplace =>
    rw [hname, halike.simpleNames_eq, halike.names_eq]
    exact (List.forall₂_zip h.simple hplace).holds (hsimple p hp d hpr)
  · rw [allAt_complex_iff hr' hb']
    intro p' hp'
    obtain ⟨p, hp, hpp'⟩ := exists_of_mem_forall₂ halike.complex hp'
    obtain ⟨hcount, hfits⟩ := hcomplex p hp
    rw [hpp'.name_eq, halike.complexNames_eq, halike.names_eq]
    exact ⟨fun hunique => hcount (hpp'.rule.isUnique h hunique), hpp'.fits h hfits⟩

/-! ## Annotations -/

/-- **Stricter declarations accept less.** Let two configurations have registries and be
the same, but for declarations of the first that are stricter. An annotation that is
accepted with the first is accepted with the second. The two groups have the same names in
the same order, and their properties are bound to the same built-in rules or to those of
declarations at the same place. -/
theorem parse_of_tightens (hr : strict.registry = .ok r) (hr' : loose.registry = .ok r')
    (h : strict.Tightens loose) {text : String} {g : BoundGroup}
    (hg : parse strict.grammar r kind text = .ok g) :
    ∃ g', parse loose.grammar r' kind text = .ok g' ∧ g'.simpleNames = g.simpleNames ∧
      g'.complexNames = g.complexNames ∧ g.Alike strict loose g' := by
  obtain ⟨body, ts, hbody, hread, hbinds, hallowed⟩ := parse_eq_ok_iff.mp hg
  rw [h.grammar_eq] at hread
  obtain ⟨g', hbinds', halike⟩ := hbinds.exists_loose hr hr' h
  have hallowed' := allowed_of_alike hr hr' h hbinds hbinds' halike hallowed
  exact ⟨g', parse_eq_ok_iff.mpr ⟨body, ts, hbody, hread, hbinds', hallowed'⟩,
    halike.simpleNames_eq, halike.complexNames_eq, halike⟩

end Binding

/-! ## A sample -/

namespace Sample

/-- A complex property with sub-properties of digits, as many as wanted. -/
def marks : DeclaredComplex where
  decl := { name := "Marks", subPattern := some "[0-9]*" }
  pattern := (Pattern.compile (Pattern.anchored "[0-9]*")).toOption
  named := by decide
  bounded := nofun
  compiled := DeclaredComplex.compiled_of_isOk (by decide +kernel)

/-- The same property with no room for sub-properties. It may stand once, and not beside a
hidden one. -/
def noMarks : DeclaredComplex where
  decl := { marks.decl with unique := true, conflictsWith := ["Hidden"], maxSubs := some 0 }
  pattern := marks.pattern
  named := by decide
  bounded := by simp [marks]
  compiled := marks.compiled

def shown : DeclaredSimple where
  decl := { name := "Shown" }
  named := by decide

/-- The same property, which needs marks. -/
def shownMarked : DeclaredSimple where
  decl := { shown.decl with requires := ["Marks"] }
  named := by decide

def marksConfig : Config where
  simpleRules := [shown.decl]
  complexRules := [marks.decl]

def noMarksConfig : Config where
  simpleRules := [shownMarked.decl]
  complexRules := [noMarks.decl]

def marksRegistry : Registry :=
  marksConfig.registryWith [shown] [marks]

def noMarksRegistry : Registry :=
  noMarksConfig.registryWith [shownMarked] [noMarks]

def noMarksBound : BoundGroup where
  simple := [⟨"Shown", .declared shownMarked⟩]
  complex := [⟨"Marks", [], .declared noMarks⟩]

theorem marksRegistry_eq : marksConfig.registry = .ok marksRegistry :=
  Config.registry_eq_ok_iff.mpr ⟨[shown], [marks], rfl, rfl, rfl⟩

theorem noMarksRegistry_eq : noMarksConfig.registry = .ok noMarksRegistry :=
  Config.registry_eq_ok_iff.mpr ⟨[shownMarked], [noMarks], rfl, rfl, rfl⟩

theorem noMarks_tightens : noMarks.decl.Tightens marks.decl where
  name_eq := rfl
  entities_eq := rfl
  unique := nofun
  conflictsWith := by simp [marks]
  requires := by simp [marks]
  minSubs_le := Nat.le_refl 0
  maxSubs_le := nofun
  subPattern_eq := rfl

theorem noMarksConfig_tightens : noMarksConfig.Tightens marksConfig where
  grammar_eq := rfl
  rules_eq := rfl
  simple := .cons ⟨rfl, rfl, nofun, by simp [shown], by simp [shown]⟩ .nil
  complex := .cons noMarks_tightens .nil

theorem tokenGroups_noMarks : noMarksConfig.grammar.tokenGroups "Shown, Marks()".toList =
    .ok [⟨"Shown", []⟩, ⟨"Marks", [""]⟩] := by
  refine Grammar.tokenGroups_eq_ok_iff.mpr ⟨?_, ?_⟩
  · decide
  · decide

theorem parse_noMarks : parse noMarksConfig.grammar noMarksRegistry .field
    "KGF:Shown, Marks()" = .ok noMarksBound := by
  have hrefused : noMarks.acceptsSub "" 0 = false := by decide +kernel
  have hmarks : noMarksRegistry.BindsComplex .field ⟨"Marks", [""]⟩
      ⟨"Marks", [], .declared noMarks⟩ := by
    refine ⟨rfl, rfl, ?_, ?_⟩
    · exact (if_pos ⟨rfl, hrefused⟩).symm
    · intro i s hs
      simp at hs
  have hbinds : noMarksRegistry.Binds .field [⟨"Shown", []⟩, ⟨"Marks", [""]⟩] noMarksBound :=
    ⟨.cons ⟨rfl, rfl⟩ .nil, .cons hmarks .nil⟩
  have hbody : Kind.field.body? "KGF:Shown, Marks()" = some "Shown, Marks()".toList := rfl
  rw [parse_of_binds hbody tokenGroups_noMarks hbinds]
  rfl

end Sample

/-- `Marks()` is accepted where there is no room for sub-properties. So it is where the
empty text is one. -/
theorem parse_marks_of_tightens : Sample.noMarksConfig.Tightens Sample.marksConfig ∧
    parse Sample.noMarksConfig.grammar Sample.noMarksRegistry .field "KGF:Shown, Marks()" =
        .ok Sample.noMarksBound ∧
      ∃ g, parse Sample.marksConfig.grammar Sample.marksRegistry .field "KGF:Shown, Marks()" =
          .ok g ∧ g.simpleNames = ["Shown"] ∧ g.complexNames = ["Marks"] := by
  obtain ⟨g, hg, hsimple, hcomplex, -⟩ := parse_of_tightens Sample.noMarksRegistry_eq
    Sample.marksRegistry_eq Sample.noMarksConfig_tightens Sample.parse_noMarks
  exact ⟨Sample.noMarksConfig_tightens, Sample.parse_noMarks, g, hg, hsimple, hcomplex⟩

end EntityProps
