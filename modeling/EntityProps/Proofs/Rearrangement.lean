import EntityProps.Proofs.Demands
import Mathlib.Data.List.Perm.Basic

/-!
# Properties in another order

The order in which properties are written does not decide whether an annotation
is accepted, and neither does the order of the sub-properties of one of them.
An annotation with its token groups rearranged is accepted with the same
properties, bound to the same rules, in another order.

Binding and validation do look at places: an upper bound refuses the sub-token
at one place, and a name that stands once is refused where it stands again.
What this comes to for all places together has no place in it.

- `ComplexRule.allAt_acceptsSub_iff`: how many sub-properties a rule takes, and
  which ones.
- `Registry.Binds.exists_similar`: rearranged token groups are bound to
  rearranged properties.
- `PropertyGroup.Upholds.of_similar`: the demands on a group do not depend on its
  order.
-/

namespace EntityProps

/-! ## Lists up to order -/

/-- The members of two lists correspond to each other, in any order. -/
def Rearranged {α β : Type} (R : α → β → Prop) (l : List α) (l' : List β) : Prop :=
  ∃ m, l.Perm m ∧ List.Forall₂ R m l'

namespace Rearranged

variable {α β γ : Type} {R : α → β → Prop} {l : List α} {l' : List β}

theorem symm {R' : β → α → Prop} (hR : ∀ a b, R a b → R' b a) (h : Rearranged R l l') :
    Rearranged R' l' l := by
  obtain ⟨m, hperm, hbeside⟩ := h
  obtain ⟨n, hln, hnl⟩ := List.perm_comp_forall₂ hperm hbeside
  exact ⟨n, hnl.symm, (hln.imp hR).flip⟩

theorem filter {p : α → Bool} {q : β → Bool} (hpq : ∀ a b, R a b → p a = q b)
    (h : Rearranged R l l') : Rearranged R (l.filter p) (l'.filter q) := by
  obtain ⟨m, hperm, hbeside⟩ := h
  refine ⟨m.filter p, hperm.filter p, ?_⟩
  refine List.rel_filter ?_ hbeside
  intro a b hab
  show p a = true ↔ q b = true
  rw [hpq a b hab]

theorem exists_left (h : Rearranged R l l') {b : β} (hb : b ∈ l') : ∃ a ∈ l, R a b := by
  obtain ⟨m, hperm, hbeside⟩ := h
  obtain ⟨a, ha, hab⟩ := exists_of_mem_forall₂ hbeside hb
  exact ⟨a, hperm.mem_iff.mpr ha, hab⟩

/-- What corresponding members have in common is the same up to order. -/
theorem map_perm {f : α → γ} {g : β → γ} (hfg : ∀ a b, R a b → f a = g b)
    (h : Rearranged R l l') : (l.map f).Perm (l'.map g) := by
  obtain ⟨m, hperm, hbeside⟩ := h
  rw [← map_eq_map_of_forall₂ hfg hbeside]
  exact hperm.map f

/-- Let what stands beside a member go over to the members that correspond to it.
Then what stands beside a list goes over to a list that it corresponds to. -/
theorem exists_beside {α' β' : Type} {R : α → α' → Prop} {S : β → β' → Prop}
    {B : α → β → Prop} {C : α' → β' → Prop} {l : List α} {l' : List α'} {m : List β}
    (hstep : ∀ a a' b, R a a' → B a b → ∃ b', C a' b' ∧ S b b')
    (h : Rearranged R l l') (hb : List.Forall₂ B l m) :
    ∃ m', List.Forall₂ C l' m' ∧ Rearranged S m m' := by
  obtain ⟨k, hperm, hbeside⟩ := h
  obtain ⟨n, hkn, hnm⟩ := List.perm_comp_forall₂ hperm.symm hb
  obtain ⟨m', hm', hnm'⟩ := exists_forall₂_beside hstep hbeside hkn
  exact ⟨m', hm', n, hnm.symm, hnm'⟩

end Rearranged

theorem rearranged_eq_iff_perm {α : Type} {l l' : List α} : Rearranged Eq l l' ↔ l.Perm l' := by
  constructor
  · intro h
    simpa using h.map_perm (f := id) (g := id) fun a b hab => hab
  · intro h
    exact ⟨l', h, List.forall₂_eq_eq_eq ▸ rfl⟩

/-! ## The same but for the order -/

/-- The same token group, but for the order of its sub-tokens. -/
structure TokenGroup.Similar (t u : TokenGroup) : Prop where
  main_eq : t.main = u.main
  subs_perm : t.subs.Perm u.subs

/-- The same complex property with the same rule, but for the order of its
sub-properties. -/
structure ComplexProperty.Similar {χ : Type} (p q : ComplexProperty χ) : Prop where
  name_eq : p.name = q.name
  rule_eq : p.rule = q.rule
  subs_perm : p.subs.Perm q.subs

/-- The same properties with the same rules, in any order. Sub-properties are in
any order, too. -/
structure PropertyGroup.Similar {σ χ : Type} (g g' : PropertyGroup σ χ) : Prop where
  simple : g.simple.Perm g'.simple
  complex : Rearranged ComplexProperty.Similar g.complex g'.complex

theorem TokenGroup.Similar.symm {t u : TokenGroup} (h : t.Similar u) : u.Similar t :=
  ⟨h.main_eq.symm, h.subs_perm.symm⟩

theorem TokenGroup.Similar.isSimple_eq {t u : TokenGroup} (h : t.Similar u) :
    t.isSimple = u.isSimple :=
  h.subs_perm.isEmpty_eq

theorem TokenGroup.Similar.subs_eq_singleton_iff {t u : TokenGroup} (h : t.Similar u)
    {s : String} : t.subs = [s] ↔ u.subs = [s] := by
  rw [← List.perm_singleton, ← List.perm_singleton]
  exact ⟨h.subs_perm.symm.trans, h.subs_perm.trans⟩

/-! ## Sub-properties -/

namespace ComplexRule

/-- The greatest number of sub-properties that a rule of a configuration takes. -/
def most? : ComplexRule → Option Nat
  | template => some 1
  | declared d => d.decl.maxSubs
  | _ => none

/-- What a rule of a configuration takes as a sub-property, at any place. -/
def IsSub (s : String) : ComplexRule → Prop
  | template => isTemplateName s = true
  | getter => s ∈ getterQualifiers
  | setter => s ∈ setterQualifiers
  | declared d => match d.pattern with
    | some pattern => pattern.isMatch s = true
    | none => s ≠ ""
  | custom _ => False

/-- A built-in or declared rule accepts sub-properties at their places if there
are not too many of them, and each is one that it takes. -/
theorem allAt_acceptsSub_iff {rule : ComplexRule} (hrule : ∀ custom, rule ≠ .custom custom)
    {subs : List String} :
    AllAt rule.acceptsSub subs ↔
      (∀ most, rule.most? = some most → subs.length ≤ most) ∧ ∀ s ∈ subs, rule.IsSub s := by
  cases rule with
  | template =>
    refine allAt_iff_length_le ?_
    intro s i
    simp [acceptsSub, most?, IsSub]
  | getter =>
    refine allAt_iff_length_le ?_
    intro s i
    simp [acceptsSub, most?, IsSub]
  | setter =>
    refine allAt_iff_length_le ?_
    intro s i
    simp [acceptsSub, most?, IsSub]
  | declared d => exact DeclaredComplex.allAt_acceptsSub_iff
  | custom custom => exact absurd rfl (hrule custom)

/-- Such a rule accepts sub-properties in one order if it accepts them in another. -/
theorem allAt_acceptsSub_of_perm {rule : ComplexRule}
    (hrule : ∀ custom, rule ≠ .custom custom) {subs subs' : List String}
    (hperm : subs.Perm subs') (h : AllAt rule.acceptsSub subs) : AllAt rule.acceptsSub subs' := by
  rw [allAt_acceptsSub_iff hrule] at h ⊢
  obtain ⟨hlength, hsubs⟩ := h
  refine ⟨?_, ?_⟩
  · rw [← hperm.length_eq]
    exact hlength
  · intro s hs
    exact hsubs s (hperm.mem_iff.mpr hs)

end ComplexRule

/-! ## Binding -/

namespace Registry

variable {r : Registry} {kind : Kind} {t u : TokenGroup}

theorem BindsSimple.of_similar (h : t.Similar u) {p : SimpleProperty SimpleRule}
    (hp : r.BindsSimple kind t p) : r.BindsSimple kind u p := by
  obtain ⟨hname, hfound⟩ := hp
  rw [h.main_eq] at hname hfound
  exact ⟨hname, hfound⟩

theorem BindsComplex.exists_similar {c : Config} (hr : c.registry = .ok r) (h : t.Similar u)
    {p : ComplexProperty ComplexRule} (hp : r.BindsComplex kind t p) :
    ∃ q, r.BindsComplex kind u q ∧ p.Similar q := by
  obtain ⟨hname, hfound, hsubs, haccepted⟩ := hp
  -- A rule given by its answers could look at places, but no configuration has one.
  have hrule : ∀ custom, p.rule ≠ .custom custom := by
    intro custom
    rcases Config.complexRule?_eq_some hr hfound with h | h | h | ⟨d, h, -⟩ <;> simp [h]
  have hkept : p.subs.Perm
      (if u.subs = [""] ∧ p.rule.acceptsSub "" 0 = false then [] else u.subs) := by
    rw [hsubs]
    -- A sole sub-token stays alone, so it is dropped from both or from none.
    by_cases hsole : t.subs = [""] ∧ p.rule.acceptsSub "" 0 = false
    · rw [if_pos hsole, if_pos ⟨h.subs_eq_singleton_iff.mp hsole.1, hsole.2⟩]
    · rw [if_neg hsole, if_neg fun hu => hsole ⟨h.subs_eq_singleton_iff.mpr hu.1, hu.2⟩]
      exact h.subs_perm
  rw [h.main_eq] at hname hfound
  exact ⟨⟨u.main, _, p.rule⟩,
    ⟨rfl, hfound, rfl, ComplexRule.allAt_acceptsSub_of_perm hrule hkept haccepted⟩,
    hname, rfl, hkept⟩

/-- Rearranged token groups are bound to rearranged properties. -/
theorem Binds.exists_similar {c : Config} (hr : c.registry = .ok r) {ts us : List TokenGroup}
    (h : Rearranged TokenGroup.Similar ts us) {g : BoundGroup} (hg : r.Binds kind ts g) :
    ∃ g', r.Binds kind us g' ∧ g.Similar g' := by
  obtain ⟨hsimple, hcomplex⟩ := hg
  have hts : Rearranged TokenGroup.Similar (ts.filter (·.isSimple)) (us.filter (·.isSimple)) :=
    h.filter fun t u htu => htu.isSimple_eq
  have hts' : Rearranged TokenGroup.Similar (ts.filter (!·.isSimple)) (us.filter (!·.isSimple)) :=
    h.filter fun t u htu => by rw [htu.isSimple_eq]
  obtain ⟨simple, hs, hss⟩ := hts.exists_beside (S := Eq) (C := r.BindsSimple kind)
    (fun t u p htu hp => ⟨p, hp.of_similar htu, rfl⟩) hsimple
  obtain ⟨complex, hc, hcc⟩ := hts'.exists_beside (C := r.BindsComplex kind)
    (fun t u p htu hp => hp.exists_similar hr htu) hcomplex
  exact ⟨⟨simple, complex⟩, ⟨hs, hc⟩, rearranged_eq_iff_perm.mp hss, hcc⟩

end Registry

/-! ## Demands -/

section Demands

variable {kind : Kind} {same same' all all' : List String}

theorem SimpleDecl.Holds.of_perm {d : SimpleDecl} {name : String} (hsame : same.Perm same')
    (hall : all.Perm all') (h : d.Holds kind name same all) : d.Holds kind name same' all' where
  named := h.named
  admitted := h.admitted
  once := by
    intro hunique
    rw [← hsame.count_eq]
    exact h.once hunique
  alone := by
    intro other hother hne
    rw [← hall.mem_iff]
    exact h.alone other hother hne
  accompanied := by
    intro other hother
    rw [← hall.mem_iff]
    exact h.accompanied other hother

theorem DeclaredComplex.Holds.of_similar {d : DeclaredComplex}
    {p q : ComplexProperty ComplexRule} (hpq : p.Similar q) (hsame : same.Perm same')
    (hall : all.Perm all') (h : d.Holds kind p same all) : d.Holds kind q same' all' where
  toHolds := by
    rw [← hpq.name_eq]
    exact h.toHolds.of_perm hsame hall
  enough := by
    rw [← hpq.subs_perm.length_eq]
    exact h.enough
  few := by
    rw [← hpq.subs_perm.length_eq]
    exact h.few
  matching := by
    intro s hs
    exact h.matching s (hpq.subs_perm.mem_iff.mpr hs)

end Demands

namespace PropertyGroup

variable {g g' : BoundGroup}

theorem Similar.simpleNames_perm (h : g.Similar g') : g.simpleNames.Perm g'.simpleNames := by
  show (g.simple.map (·.name)).Perm (g'.simple.map (·.name))
  exact h.simple.map _

theorem Similar.complexNames_perm (h : g.Similar g') : g.complexNames.Perm g'.complexNames :=
  h.complex.map_perm fun _ _ hpq => hpq.name_eq

theorem Similar.names_perm (h : g.Similar g') : g.names.Perm g'.names :=
  h.simpleNames_perm.append h.complexNames_perm

/-- The demands on a group do not depend on its order. -/
theorem Upholds.of_similar {kind : Kind} (hsim : g.Similar g') (h : g.Upholds kind) :
    g'.Upholds kind where
  simple := by
    intro p hp d hd
    exact (h.simple p (hsim.simple.mem_iff.mpr hp) d hd).of_perm hsim.simpleNames_perm
      hsim.names_perm
  complex := by
    intro q hq d hd
    obtain ⟨p, hp, hpq⟩ := hsim.complex.exists_left hq
    rw [← hpq.rule_eq] at hd
    exact (h.complex p hp d hd).of_similar hpq hsim.complexNames_perm hsim.names_perm
  template := by
    intro q hq hrule
    obtain ⟨p, hp, hpq⟩ := hsim.complex.exists_left hq
    rw [← hpq.rule_eq] at hrule
    obtain ⟨hlength, hcount⟩ := h.template p hp hrule
    rw [← hpq.subs_perm.length_eq, ← hsim.complexNames_perm.count_eq, ← hpq.name_eq]
    exact ⟨hlength, hcount⟩
  accessor := by
    intro q hq hrule
    obtain ⟨p, hp, hpq⟩ := hsim.complex.exists_left hq
    rw [← hpq.rule_eq] at hrule
    obtain ⟨hnodup, hnot, hcount⟩ := h.accessor p hp hrule
    rw [← hpq.subs_perm.nodup_iff, ← hpq.subs_perm.mem_iff, ← hpq.subs_perm.mem_iff,
      ← hsim.complexNames_perm.count_eq, ← hpq.name_eq]
    exact ⟨hnodup, hnot, hcount⟩

end PropertyGroup

/-! ## Annotations -/

section Annotations

variable {c : Config} {r : Registry} {kind : Kind} {text text' : String}
  {body body' : List Char} {ts ts' : List TokenGroup}

/-- An accepted annotation is accepted with its token groups rearranged. -/
theorem exists_similar_of_parse (hr : c.registry = .ok r) (hbody : kind.body? text = some body)
    (hread : c.grammar.tokenGroups body = .ok ts) (hbody' : kind.body? text' = some body')
    (hread' : c.grammar.tokenGroups body' = .ok ts')
    (h : Rearranged TokenGroup.Similar ts ts') {g : BoundGroup}
    (hg : parse c.grammar r kind text = .ok g) :
    ∃ g', parse c.grammar r kind text' = .ok g' ∧ g.Similar g' := by
  obtain ⟨body₁, ts₁, hbody₁, hread₁, hbinds, hallowed⟩ := parse_eq_ok_iff.mp hg
  obtain rfl : body = body₁ := Option.some.inj (hbody.symm.trans hbody₁)
  obtain rfl : ts = ts₁ := Except.ok.inj (hread.symm.trans hread₁)
  obtain ⟨g', hbinds', hsim⟩ := hbinds.exists_similar hr h
  -- Validation looks at places, but what it comes to for a bound group does not.
  have hupholds : g'.Upholds kind :=
    ((allowed_iff_upholds hr hbinds).mp hallowed).of_similar hsim
  have hallowed' : g'.Allowed := (allowed_iff_upholds hr hbinds').mpr hupholds
  exact ⟨g', parse_eq_ok_iff.mpr ⟨body', ts', hbody', hread', hbinds', hallowed'⟩, hsim⟩

/-- **Acceptance does not depend on order.** Let two annotations be read as token
groups that are the same, but for the order of the groups and of the sub-tokens
in each. With the rules of a configuration both are accepted or none is, and the
properties of both are the same but for that order. -/
theorem parse_rearranged (hr : c.registry = .ok r) (hbody : kind.body? text = some body)
    (hread : c.grammar.tokenGroups body = .ok ts) (hbody' : kind.body? text' = some body')
    (hread' : c.grammar.tokenGroups body' = .ok ts')
    (h : Rearranged TokenGroup.Similar ts ts') :
    ((∃ g, parse c.grammar r kind text = .ok g) ↔
      ∃ g', parse c.grammar r kind text' = .ok g') ∧
    ∀ g g', parse c.grammar r kind text = .ok g → parse c.grammar r kind text' = .ok g' →
      g.simple.Perm g'.simple ∧ Rearranged ComplexProperty.Similar g.complex g'.complex := by
  refine ⟨⟨?_, ?_⟩, ?_⟩
  · rintro ⟨g, hg⟩
    obtain ⟨g', hg', -⟩ := exists_similar_of_parse hr hbody hread hbody' hread' h hg
    exact ⟨g', hg'⟩
  · rintro ⟨g', hg'⟩
    have hflip : Rearranged TokenGroup.Similar ts' ts := h.symm fun _ _ htu => htu.symm
    obtain ⟨g, hg, -⟩ := exists_similar_of_parse hr hbody' hread' hbody hread hflip hg'
    exact ⟨g, hg⟩
  · intro g g' hg hg'
    obtain ⟨g₁, hg₁, hsim⟩ := exists_similar_of_parse hr hbody hread hbody' hread' h hg
    obtain rfl : g' = g₁ := Except.ok.inj (hg'.symm.trans hg₁)
    exact ⟨hsim.simple, hsim.complex⟩

end Annotations

namespace Sample

/-- The sample annotation with its properties, and those of one of them, in another
order. -/
def rearranged : String := "KGF:Range(2, 1), Hidden, Getter()"

def rearrangedGroups : List TokenGroup :=
  [⟨"Range", ["2", "1"]⟩, ⟨"Hidden", []⟩, ⟨"Getter", [""]⟩]

theorem read_rearranged : ∃ body, Kind.field.body? rearranged = some body ∧
    config.grammar.tokenGroups body = .ok rearrangedGroups := by
  refine ⟨_, rfl, Grammar.tokenGroups_eq_ok_iff.mpr ⟨?_, ?_⟩⟩
  · decide
  · decide

theorem groups_rearranged : Rearranged TokenGroup.Similar groups rearrangedGroups := by
  refine ⟨[⟨"Range", ["1", "2"]⟩, ⟨"Hidden", []⟩, ⟨"Getter", [""]⟩], by decide, ?_⟩
  refine .cons ⟨rfl, ?_⟩ (.cons ⟨rfl, .refl _⟩ (.cons ⟨rfl, .refl _⟩ .nil))
  exact .swap "2" "1" []

end Sample

theorem rearranged_of_parse_annotation : Sample.config.registry = .ok Sample.registry ∧
    Rearranged TokenGroup.Similar Sample.groups Sample.rearrangedGroups ∧
    ∃ g, parse Sample.config.grammar Sample.registry .field Sample.rearranged = .ok g ∧
      Sample.bound.simple.Perm g.simple ∧
      Rearranged ComplexProperty.Similar Sample.bound.complex g.complex := by
  obtain ⟨body, hbody, hread⟩ := Sample.read_annotation
  obtain ⟨body', hbody', hread'⟩ := Sample.read_rearranged
  obtain ⟨haccepted, hsimilar⟩ := parse_rearranged Sample.registry_eq hbody hread hbody' hread'
    Sample.groups_rearranged
  obtain ⟨g, hg⟩ := haccepted.mp ⟨Sample.bound, Sample.parse_annotation⟩
  exact ⟨Sample.registry_eq, Sample.groups_rearranged, g, hg,
    hsimilar Sample.bound g Sample.parse_annotation hg⟩

end EntityProps
