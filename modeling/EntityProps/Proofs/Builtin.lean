import EntityProps.Proofs.Meaning
import EntityProps.Proofs.Rearrangement
import Mathlib.Data.List.Nodup

/-!
# Guarantees of the built-in rules

What the built-in rules promise of an accepted annotation, they promise under every
configuration that registers them (`builtin_guarantees`). The template rule is found
before all declarations, so no declaration can weaken it. The accessors come after
the declarations, so their promise is made where no declaration takes their name on
fields.

Conversely, nothing else is demanded of an annotation that only has properties of
these rules: if its token groups are as promised, it is accepted.
-/

namespace EntityProps

/-! ## What is promised -/

/-- The sub-properties of a template: one name of ASCII letters, digits and underscores. -/
def IsTemplate (subs : List String) : Prop :=
  ∃ name, subs = [name] ∧ name ≠ "" ∧ ∀ c ∈ name.toList, c.isAlphanum = true ∨ c = '_'

/-- The sub-properties of an accessor: different ones of these qualifiers, not both a pointer and
a reference. -/
structure AreQualifiers (qualifiers subs : List String) : Prop where
  known : ∀ s ∈ subs, s ∈ qualifiers
  nodup : subs.Nodup
  notBoth : ¬ ("*" ∈ subs ∧ "&" ∈ subs)

/-- The accessors by name, with their rule and their qualifiers. -/
inductive IsAccessor : String → ComplexRule → List String → Prop
  | getter : IsAccessor "Getter" .getter ["const", "explicit", "*", "&"]
  | setter : IsAccessor "Setter" .setter ["explicit", "*", "&"]

/-- No declared complex rule takes properties of this name on fields. -/
def Config.LeavesFree (c : Config) (name : String) : Prop :=
  ∀ e ∈ c.complexRules, ¬ e.IsFor name .field

/-- A token group that the built-in rules take: a template, or an accessor whose qualifiers may be
missing between its enclosers. -/
inductive TokenGroup.IsBuiltin (t : TokenGroup) : Prop
  | template (hname : t.main = "GenCodeTemplate") (hsubs : IsTemplate t.subs)
  | accessor {rule : ComplexRule} {qualifiers : List String}
      (hname : IsAccessor t.main rule qualifiers)
      (hsubs : t.subs = [""] ∨ t.subs ≠ [] ∧ AreQualifiers qualifiers t.subs)

variable {c : Config} {r : Registry} {kind : Kind} {ts : List TokenGroup} {g : BoundGroup}
  {name : String} {rule : ComplexRule} {qualifiers : List String}

/-! ## Single rules -/

theorem complexRule?_template (hr : c.registry = .ok r) (hnative : c.rules.native = true) :
    r.complexRule? "GenCodeTemplate" kind = some .template :=
  (Config.complexRule?_eq_iff_finds hr).mpr (.template hnative rfl)

theorem complexRule?_accessor (hr : c.registry = .ok r) (haccessors : c.rules.accessors = true)
    (hfree : c.LeavesFree name) (h : IsAccessor name rule qualifiers) :
    r.complexRule? name .field = some rule := by
  rw [Config.complexRule?_eq_iff_finds hr]
  cases h with
  | getter => exact .getter hfree haccessors rfl rfl
  | setter => exact .setter hfree haccessors rfl rfl

theorem isTemplateName_iff {s : String} :
    ComplexRule.isTemplateName s = true ↔
      s ≠ "" ∧ ∀ c ∈ s.toList, c.isAlphanum = true ∨ c = '_' := by
  simp [ComplexRule.isTemplateName]

theorem isTemplate_iff {subs : List String} :
    IsTemplate subs ↔ AllAt ComplexRule.template.acceptsSub subs ∧ subs.length = 1 := by
  rw [ComplexRule.allAt_acceptsSub_iff (by simp)]
  constructor
  · rintro ⟨s, rfl, hname⟩
    refine ⟨⟨fun most hmost => ?_, fun s' hs' => ?_⟩, rfl⟩
    · obtain rfl := Option.some.inj hmost
      exact Nat.le_refl 1
    · obtain rfl := List.mem_singleton.mp hs'
      exact isTemplateName_iff.mpr hname
  · rintro ⟨⟨-, hsubs⟩, hlength⟩
    obtain ⟨s, rfl⟩ := List.length_eq_one_iff.mp hlength
    exact ⟨s, rfl, isTemplateName_iff.mp (hsubs s List.mem_cons_self)⟩

theorem IsAccessor.rule_eq (h : IsAccessor name rule qualifiers) :
    rule = .getter ∨ rule = .setter := by
  cases h with
  | getter => exact Or.inl rfl
  | setter => exact Or.inr rfl

theorem IsAccessor.allAt_acceptsSub_iff (h : IsAccessor name rule qualifiers)
    {subs : List String} : AllAt rule.acceptsSub subs ↔ ∀ s ∈ subs, s ∈ qualifiers := by
  cases h with
  | getter =>
    rw [ComplexRule.allAt_acceptsSub_iff (by simp)]
    exact and_iff_right nofun
  | setter =>
    rw [ComplexRule.allAt_acceptsSub_iff (by simp)]
    exact and_iff_right nofun

/-! ## Accepted groups -/

theorem count_le_one_of_mem {names : List String} (h : name ∈ names → names.count name = 1) :
    names.count name ≤ 1 := by
  by_cases hmem : name ∈ names
  · exact Nat.le_of_eq (h hmem)
  · rw [List.count_eq_zero.mpr hmem]
    exact Nat.zero_le 1

/-- If the properties of a name are bound to a rule that allows a name once, there is at most one
of them. -/
theorem count_le_one_of_binds (h : ∀ p ∈ g.complex, p.name = name →
    g.complexNames.count p.name = 1) : g.complexNames.count name ≤ 1 := by
  refine count_le_one_of_mem fun hmem => ?_
  obtain ⟨p, hp, rfl⟩ := List.mem_map.mp hmem
  exact h p hp rfl

/-- A bound property has the rule of its name, and its sub-properties are accepted by it. -/
theorem rule_of_binds (hb : r.Binds kind ts g) {p : ComplexProperty ComplexRule}
    (hp : p ∈ g.complex) (hfound : r.complexRule? p.name kind = some rule) :
    p.rule = rule ∧ AllAt rule.acceptsSub p.subs := by
  have hrule : p.rule = rule := by
    rw [hb.complexRule?_eq hp] at hfound
    exact Option.some.inj hfound
  obtain ⟨t, -, -, hbinds⟩ := hb.exists_complex hp
  exact ⟨hrule, hrule ▸ hbinds.accepted⟩

theorem template_of_upholds (hr : c.registry = .ok r) (hnative : c.rules.native = true)
    (hb : r.Binds kind ts g) (hg : g.Upholds kind) {p : ComplexProperty ComplexRule}
    (hp : p ∈ g.complex) (hname : p.name = "GenCodeTemplate") :
    p.rule = .template ∧ IsTemplate p.subs ∧ g.complexNames.count p.name = 1 := by
  have hfound : r.complexRule? p.name kind = some .template := by
    rw [hname, complexRule?_template hr hnative]
  obtain ⟨hrule, haccepted⟩ := rule_of_binds hb hp hfound
  obtain ⟨hlength, hcount⟩ := hg.template p hp hrule
  exact ⟨hrule, isTemplate_iff.mpr ⟨haccepted, hlength⟩, hcount⟩

theorem accessor_of_upholds (hr : c.registry = .ok r) (haccessors : c.rules.accessors = true)
    (hfree : c.LeavesFree name) (h : IsAccessor name rule qualifiers)
    (hb : r.Binds .field ts g) (hg : g.Upholds .field) {p : ComplexProperty ComplexRule}
    (hp : p ∈ g.complex) (hname : p.name = name) :
    p.rule = rule ∧ AreQualifiers qualifiers p.subs ∧ g.complexNames.count p.name = 1 := by
  have hfound : r.complexRule? p.name .field = some rule := by
    rw [hname, complexRule?_accessor hr haccessors hfree h]
  obtain ⟨hrule, haccepted⟩ := rule_of_binds hb hp hfound
  have hknown := h.allAt_acceptsSub_iff.mp haccepted
  obtain ⟨hnodup, hnotBoth, hcount⟩ := hg.accessor p hp (hrule ▸ h.rule_eq)
  exact ⟨hrule, ⟨hknown, hnodup, hnotBoth⟩, hcount⟩

/-! ## Groups of built-in properties only -/

/-- A property of a built-in rule that the rule is content with. -/
inductive FitsBuiltin (p : ComplexProperty ComplexRule) : Prop
  | template (hrule : p.rule = .template) (hlength : p.subs.length = 1)
  | accessor (hrule : p.rule = .getter ∨ p.rule = .setter) (hnodup : p.subs.Nodup)
      (hnotBoth : ¬ ("*" ∈ p.subs ∧ "&" ∈ p.subs))

theorem IsAccessor.acceptsSub_empty (h : IsAccessor name rule qualifiers) :
    rule.acceptsSub "" 0 = false := by
  cases h <;> decide

theorem IsAccessor.empty_not_mem (h : IsAccessor name rule qualifiers) : "" ∉ qualifiers := by
  cases h <;> decide

theorem IsAccessor.leavesFree (h : IsAccessor name rule qualifiers)
    (hgetter : c.LeavesFree "Getter") (hsetter : c.LeavesFree "Setter") : c.LeavesFree name := by
  cases h with
  | getter => exact hgetter
  | setter => exact hsetter

theorem TokenGroup.IsBuiltin.isSimple_eq_false {t : TokenGroup} (h : t.IsBuiltin) :
    t.isSimple = false := by
  rw [TokenGroup.isSimple, List.isEmpty_eq_false_iff]
  cases h with
  | template _ hsubs =>
    obtain ⟨s, hs, -⟩ := hsubs
    rw [hs]
    exact List.cons_ne_nil s []
  | accessor _ hsubs =>
    rcases hsubs with hs | ⟨hs, -⟩
    · rw [hs]
      exact List.cons_ne_nil "" []
    · exact hs

theorem exists_bindsComplex (hr : c.registry = .ok r) (hnative : c.rules.native = true)
    (haccessors : c.rules.accessors = true) (hgetter : c.LeavesFree "Getter")
    (hsetter : c.LeavesFree "Setter") {t : TokenGroup} (ht : t.IsBuiltin) :
    ∃ p, r.BindsComplex .field t p ∧ FitsBuiltin p := by
  cases ht with
  | template hname hsubs =>
    obtain ⟨haccepted, hlength⟩ := isTemplate_iff.mp hsubs
    have hne : t.subs ≠ [""] := by
      obtain ⟨s, hs, hempty, -⟩ := hsubs
      rw [hs]
      simpa using hempty
    refine ⟨⟨t.main, t.subs, .template⟩, ⟨rfl, ?_, ?_, haccepted⟩, .template rfl hlength⟩
    · rw [hname]
      exact complexRule?_template hr hnative
    · rw [if_neg fun h => hne h.1]
  | @accessor rule qualifiers hname hsubs =>
    have hfound :=
      complexRule?_accessor hr haccessors (hname.leavesFree hgetter hsetter) hname
    rcases hsubs with hsole | ⟨-, hknown, hnodup, hnotBoth⟩
    · -- No rule of an accessor accepts the empty sub-token, so it stands for none.
      refine ⟨⟨t.main, [], rule⟩, ⟨rfl, hfound, ?_, ?_⟩, ?_⟩
      · rw [if_pos ⟨hsole, hname.acceptsSub_empty⟩]
      · exact hname.allAt_acceptsSub_iff.mpr fun _ hs => absurd hs List.not_mem_nil
      · exact .accessor hname.rule_eq List.nodup_nil fun h => absurd h.1 List.not_mem_nil
    · have hne : t.subs ≠ [""] := fun h =>
        hname.empty_not_mem (hknown "" (h ▸ List.mem_cons_self))
      refine ⟨⟨t.main, t.subs, rule⟩, ⟨rfl, hfound, ?_, ?_⟩, ?_⟩
      · rw [if_neg fun h => hne h.1]
      · exact hname.allAt_acceptsSub_iff.mpr hknown
      · exact .accessor hname.rule_eq hnodup hnotBoth

/-- Token groups that the built-in rules take, no two of one name, are bound to a group that the
rules allow. -/
theorem exists_upholds_of_isBuiltin (hr : c.registry = .ok r) (hnative : c.rules.native = true)
    (haccessors : c.rules.accessors = true) (hgetter : c.LeavesFree "Getter")
    (hsetter : c.LeavesFree "Setter") (hts : ∀ t ∈ ts, t.IsBuiltin)
    (hnames : (ts.map (·.main)).Nodup) : ∃ g, r.Binds .field ts g ∧ g.Upholds .field := by
  obtain ⟨ps, hps⟩ := exists_forall₂_iff.mpr fun t ht =>
    exists_bindsComplex hr hnative haccessors hgetter hsetter (hts t ht)
  have hsimple : ts.filter (·.isSimple) = [] :=
    List.filter_eq_nil_iff.mpr fun t ht => by simp [(hts t ht).isSimple_eq_false]
  have hcomplex : ts.filter (!·.isSimple) = ts :=
    List.filter_eq_self.mpr fun t ht => by simp [(hts t ht).isSimple_eq_false]
  have hfits : ∀ p ∈ ps, FitsBuiltin p := fun p hp => by
    obtain ⟨t, -, -, hp⟩ := exists_of_mem_forall₂ hps hp
    exact hp
  have hmains : ps.map (·.name) = ts.map (·.main) :=
    forall₂_eq_iff_map_eq.mp (List.forall₂_map_left_iff.mpr (hps.imp fun _ _ h => h.1.name_eq))
  have hcount : ∀ p ∈ ps, (ps.map (·.name)).count p.name = 1 := fun p hp =>
    List.count_eq_one_of_mem (hmains ▸ hnames) (List.mem_map_of_mem hp)
  refine ⟨⟨[], ps⟩, ⟨?_, ?_⟩, ⟨nofun, ?_, ?_, ?_⟩⟩
  · rw [hsimple]
    exact .nil
  · rw [hcomplex]
    exact hps.imp fun _ _ h => h.1
  · intro p hp d hd
    cases hfits p hp with
    | template hrule => simp [hd] at hrule
    | accessor hrule => simp [hd] at hrule
  · intro p hp hrule
    cases hfits p hp with
    | template _ hlength => exact ⟨hlength, hcount p hp⟩
    | accessor haccessor => simp [hrule] at haccessor
  · intro p hp hrule
    cases hfits p hp with
    | template htemplate => simp [htemplate] at hrule
    | accessor _ hnodup hnotBoth => exact ⟨hnodup, hnotBoth, hcount p hp⟩

/-- **The guarantees of the built-in rules.** Under every configuration that registers them,
whatever it declares: an accepted annotation has at most one template, bound to the template rule
and with one name, and on fields at most one of each accessor that no declaration takes, with
different qualifiers of this accessor. A field annotation that only has such properties is
accepted. -/
theorem builtin_guarantees (hr : c.registry = .ok r) :
    (∀ kind text g, parse c.grammar r kind text = .ok g →
      (c.rules.native = true → g.complexNames.count "GenCodeTemplate" ≤ 1 ∧
        ∀ p ∈ g.complex, p.name = "GenCodeTemplate" → p.rule = .template ∧ IsTemplate p.subs) ∧
      ∀ name rule qualifiers, IsAccessor name rule qualifiers → c.rules.accessors = true →
        c.LeavesFree name → kind = .field → g.complexNames.count name ≤ 1 ∧
          ∀ p ∈ g.complex, p.name = name → p.rule = rule ∧ AreQualifiers qualifiers p.subs) ∧
    (c.rules.native = true → c.rules.accessors = true → c.LeavesFree "Getter" →
      c.LeavesFree "Setter" → ∀ text body ts, Kind.field.body? text = some body →
        c.grammar.tokenGroups body = .ok ts → (∀ t ∈ ts, t.IsBuiltin) →
        (ts.map (·.main)).Nodup → ∃ g, parse c.grammar r .field text = .ok g) := by
  constructor
  · intro kind text g h
    obtain ⟨body, ts, -, -, hb, hallowed⟩ := parse_eq_ok_iff.mp h
    have hg := (allowed_iff_upholds hr hb).mp hallowed
    constructor
    · intro hnative
      have htemplate := fun p hp hname => template_of_upholds hr hnative hb hg (p := p) hp hname
      refine ⟨count_le_one_of_binds fun p hp hname => (htemplate p hp hname).2.2, ?_⟩
      exact fun p hp hname => ⟨(htemplate p hp hname).1, (htemplate p hp hname).2.1⟩
    · rintro name rule qualifiers hname haccessors hfree rfl
      have haccessor := fun p hp hp' =>
        accessor_of_upholds hr haccessors hfree hname hb hg (p := p) hp hp'
      refine ⟨count_le_one_of_binds fun p hp hp' => (haccessor p hp hp').2.2, ?_⟩
      exact fun p hp hp' => ⟨(haccessor p hp hp').1, (haccessor p hp hp').2.1⟩
  · intro hnative haccessors hgetter hsetter text body ts hbody hread hts hnames
    obtain ⟨g, hb, hg⟩ :=
      exists_upholds_of_isBuiltin hr hnative haccessors hgetter hsetter hts hnames
    exact ⟨g, parse_eq_ok_iff.mpr ⟨body, ts, hbody, hread, hb, (allowed_iff_upholds hr hb).mpr hg⟩⟩

/-- A configuration that declares the names of built-in rules once more. -/
def impostors : Config where
  rules := { accessors := true }
  complexRules := [{ name := "GenCodeTemplate" }, { name := "Getter", entities := [.cls] }]

theorem builtin_guarantees_impostors :
    ∃ r g, impostors.registry = .ok r ∧
      parse impostors.grammar r .field "KGF:Getter(const, *), GenCodeTemplate(A_1)" = .ok g ∧
      g.complexNames.count "GenCodeTemplate" ≤ 1 ∧
      ∀ p ∈ g.complex, p.name = "Getter" → p.rule = .getter := by
  have hsound : impostors.Sound := by
    refine ⟨nofun, fun d hd => ?_⟩
    simp only [impostors, List.mem_cons, List.not_mem_nil, or_false] at hd
    rcases hd with rfl | rfl <;> exact ⟨by decide, nofun, nofun⟩
  have hfree : ∀ name, name = "Getter" ∨ name = "Setter" → impostors.LeavesFree name := by
    intro name hname e he hfor
    simp only [impostors, List.mem_cons, List.not_mem_nil, or_false] at he
    rcases he with rfl | rfl
    · obtain rfl := hfor.named
      revert hname
      decide
    · have hadmitted := hfor.admitted
      revert hadmitted
      decide
  obtain ⟨r, hr⟩ := Config.exists_registry_iff.mpr hsound
  have hread : ∃ body, Kind.field.body? "KGF:Getter(const, *), GenCodeTemplate(A_1)" = some body ∧
      impostors.grammar.tokenGroups body =
        .ok [⟨"Getter", ["const", "*"]⟩, ⟨"GenCodeTemplate", ["A_1"]⟩] := by
    refine ⟨_, rfl, Grammar.tokenGroups_eq_ok_iff.mpr ⟨?_, ?_⟩⟩
    · decide
    · decide
  obtain ⟨body, hbody, hread⟩ := hread
  have hbuiltin : ∀ t ∈ [TokenGroup.mk "Getter" ["const", "*"], ⟨"GenCodeTemplate", ["A_1"]⟩],
      t.IsBuiltin := by
    simp only [List.forall_mem_cons, List.not_mem_nil, false_imp_iff, implies_true, and_true]
    constructor
    · exact .accessor .getter (Or.inr ⟨by decide, by decide, by decide, by decide⟩)
    · exact .template rfl ⟨"A_1", rfl, isTemplateName_iff.mp (by decide)⟩
  obtain ⟨g, hg⟩ := (builtin_guarantees hr).2 rfl rfl (hfree _ (Or.inl rfl)) (hfree _ (Or.inr rfl))
    _ body _ hbody hread hbuiltin (by decide)
  obtain ⟨htemplate, haccessor⟩ := (builtin_guarantees hr).1 _ _ _ hg
  refine ⟨r, g, hr, hg, (htemplate rfl).1, fun p hp hname => ?_⟩
  exact ((haccessor _ _ _ .getter rfl (hfree _ (Or.inl rfl)) rfl).2 p hp hname).1

end EntityProps
