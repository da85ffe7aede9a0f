import EntityProps.Proofs.Demands

/-!
# Canonical texts

The canonical text of an accepted group, after the marker of its kind, is an
annotation of the same group: with the same properties, bound to the same
rules, in the same order.

The text is not the annotation that was read. It has the simple properties
before the complex ones, spaces after its commas, and nothing between the
enclosers of a property without sub-properties.

- `Registry.Binds.groups_eq`: the token groups of the canonical text are those
  that were bound, sorted.
- `Grammar.IsCanonical.strip_text`: the stripped text is their rendering.
- `parse_text_of_named`: so it is read and bound as before. Only a last property
  with the empty name would be lost, and rules are not declared for that name.
-/

namespace EntityProps

variable {σ χ : Type}

/-! ## The groups of a canonical text -/

def SimpleProperty.group (p : SimpleProperty σ) : TokenGroup :=
  ⟨p.name, []⟩

/-- A complex property as it is written. Where there are no sub-properties, an
empty one stands between the enclosers. -/
def ComplexProperty.group (p : ComplexProperty χ) : TokenGroup :=
  ⟨p.name, if p.subs = [] then [""] else p.subs⟩

/-- The properties as they are written, the simple ones first. -/
def PropertyGroup.groups (g : PropertyGroup σ χ) : List TokenGroup :=
  g.simple.map (·.group) ++ g.complex.map (·.group)

/-- A group of the canonical text without enclosers is that of a simple property. -/
theorem PropertyGroup.exists_simple_of_mem_groups {g : PropertyGroup σ χ} {t : TokenGroup}
    (ht : t ∈ g.groups) (hsimple : t.isSimple = true) : ∃ p ∈ g.simple, p.group = t := by
  rcases List.mem_append.mp ht with ht | ht
  · exact List.mem_map.mp ht
  · obtain ⟨p, -, rfl⟩ := List.mem_map.mp ht
    have hne : p.group.subs ≠ [] := by
      by_cases hsubs : p.subs = [] <;> simp [ComplexProperty.group, hsubs]
    exact absurd (List.isEmpty_iff.mp hsimple) hne

namespace Registry

variable {r : Registry} {kind : Kind} {t : TokenGroup} {ts : List TokenGroup} {g : BoundGroup}

theorem BindsSimple.group_eq {p : SimpleProperty SimpleRule} (h : r.BindsSimple kind t p)
    (hsimple : t.isSimple = true) : p.group = t := by
  obtain ⟨main, subs⟩ := t
  have hmain : p.name = main := h.name_eq
  have hsubs : subs = [] := List.isEmpty_iff.mp hsimple
  rw [SimpleProperty.group, hmain, hsubs]

theorem BindsComplex.group_eq {p : ComplexProperty ComplexRule} (h : r.BindsComplex kind t p)
    (hcomplex : t.isSimple = false) : p.group = t := by
  obtain ⟨main, subs⟩ := t
  have hmain : p.name = main := h.name_eq
  have hne : subs ≠ [] := List.isEmpty_eq_false_iff.mp hcomplex
  have hsubs : p.subs = if subs = [""] ∧ p.rule.acceptsSub "" 0 = false then [] else subs :=
    h.subs_eq
  rw [ComplexProperty.group, hmain, hsubs]
  by_cases hsole : subs = [""] ∧ p.rule.acceptsSub "" 0 = false
  · -- The empty sub-token that was dropped is written again.
    rw [if_pos hsole, if_pos rfl, hsole.1]
  · rw [if_neg hsole, if_neg hne]

/-- A bound group is written as its token groups, the simple ones first. -/
theorem Binds.groups_eq (h : r.Binds kind ts g) :
    g.groups = ts.filter (·.isSimple) ++ ts.filter (!·.isSimple) := by
  have hsimple : g.simple.map (·.group) = ts.filter (·.isSimple) := by
    have hall := (List.forall₂_and_left _ _).mpr
      ⟨fun t ht => (List.mem_filter.mp ht).2, h.simple⟩
    exact forall₂_eq_iff_map_eq.mp (hall.imp fun t p ⟨ht, hp⟩ => hp.group_eq ht)
  have hcomplex : g.complex.map (·.group) = ts.filter (!·.isSimple) := by
    have hall := (List.forall₂_and_left _ _).mpr
      ⟨fun t ht => (List.mem_filter.mp ht).2, h.complex⟩
    exact forall₂_eq_iff_map_eq.mp
      (hall.imp fun t p ⟨ht, hp⟩ => hp.group_eq (by simpa using ht))
  rw [PropertyGroup.groups, hsimple, hcomplex]

theorem Binds.mem_of_mem_groups (h : r.Binds kind ts g) (ht : t ∈ g.groups) : t ∈ ts := by
  rw [h.groups_eq, List.mem_append] at ht
  rcases ht with ht | ht
  · exact List.mem_of_mem_filter ht
  · exact List.mem_of_mem_filter ht

/-- Sorting the token groups by sort does not change what they are bound to. -/
theorem Binds.groups (h : r.Binds kind ts g) : r.Binds kind g.groups g := by
  obtain ⟨hsimple, hcomplex⟩ := h
  rw [Binds.groups_eq ⟨hsimple, hcomplex⟩]
  constructor
  · simpa [List.filter_append, List.filter_filter] using hsimple
  · simpa [List.filter_append, List.filter_filter] using hcomplex

end Registry

/-! ## Renderings without a last separator -/

namespace Grammar

variable {g : Grammar}

theorem renderGroup_ne_nil {t : TokenGroup} (h : t.isSimple = true → t.main ≠ "") :
    g.renderGroup t ≠ [] := by
  obtain ⟨main, subs⟩ := t
  cases subs with
  | nil => simpa using h rfl
  | cons s subs => simp

/-- Groups with separators between them are rendered, unless nothing shows of the
last one. -/
theorem renders_intercalate {ts : List TokenGroup}
    (h : ∀ t, ts.getLast? = some t → g.renderGroup t ≠ []) :
    g.Renders ts ([g.separator].intercalate (ts.map g.renderGroup)) := by
  induction ts with
  | nil => simp
  | cons t ts ih =>
    cases ts with
    | nil => exact renders_cons.mpr (Or.inl ⟨rfl, h t rfl, by simp⟩)
    | cons u us =>
      refine renders_cons.mpr (Or.inr ⟨_, ?_, ih fun v hv => h v ?_⟩)
      · simp [List.intercalate_cons_cons]
      · rw [List.getLast?_cons_cons, hv]

/-- The characters that the canonical text has between tokens are the delimiters
and an ignored one. -/
structure IsCanonical (g : Grammar) : Prop where
  separator_eq : g.separator = ','
  opening_eq : g.opening = '('
  closing_eq : g.closing = ')'
  subSeparator_eq : g.subSeparator = ','
  space_ignored : ' ' ∈ g.ignored

theorem strip_intercalate (sep : List Char) (xs : List (List Char)) :
    g.strip (sep.intercalate xs) = (g.strip sep).intercalate (xs.map g.strip) := by
  induction xs with
  | nil => simp [strip]
  | cons x xs ih =>
    cases xs with
    | nil => simp
    | cons y ys =>
      rw [List.intercalate_cons_cons, List.map_cons, List.map_cons, List.intercalate_cons_cons,
        ← List.map_cons, ← ih, strip_append, strip_append]

theorem strip_toList_of_mem {t : TokenGroup} (ht : g.WellFormed t) {s : String}
    (hs : s ∈ t.tokens) : g.strip s.toList = s.toList :=
  strip_eq_self (ht.kept s hs)

/-- Without sub-properties, or with an empty one, nothing stands between the
enclosers. -/
theorem renderGroup_complexGroup (p : ComplexProperty χ) :
    g.renderGroup p.group = p.name.toList ++ g.opening ::
      ([g.subSeparator].intercalate (p.subs.map String.toList) ++ [g.closing]) := by
  obtain ⟨name, subs, rule⟩ := p
  cases subs with
  | nil => simp [ComplexProperty.group]
  | cons s subs => simp [ComplexProperty.group, renderSubs]

theorem mem_tokens_complexGroup {p : ComplexProperty χ} {s : String} (hs : s ∈ p.subs) :
    s ∈ p.group.tokens := by
  have hne : p.subs ≠ [] := List.ne_nil_of_mem hs
  rw [ComplexProperty.group, if_neg hne]
  exact List.mem_cons_of_mem p.name hs

namespace IsCanonical

theorem strip_comma (hg : g.IsCanonical) : g.strip ", ".toList = [','] := by
  have hcomma : ',' ∉ g.ignored := hg.separator_eq ▸ g.valid.separator_kept
  simp [strip, isIgnored, hcomma, hg.space_ignored]

theorem strip_opening (hg : g.IsCanonical) : g.strip "(".toList = ['('] := by
  have hkept : '(' ∉ g.ignored := hg.opening_eq ▸ g.valid.opening_kept
  simp [strip, isIgnored, hkept]

theorem strip_closing (hg : g.IsCanonical) : g.strip ")".toList = [')'] := by
  have hkept : ')' ∉ g.ignored := hg.closing_eq ▸ g.valid.closing_kept
  simp [strip, isIgnored, hkept]

/-- The text of a complex property is its rendering, but for spaces. -/
theorem strip_complexText (hg : g.IsCanonical) {p : ComplexProperty χ}
    (hp : g.WellFormed p.group) : g.strip p.text.toList = g.renderGroup p.group := by
  have hname : g.strip p.name.toList = p.name.toList :=
    strip_toList_of_mem hp List.mem_cons_self
  have hsubs : (p.subs.map String.toList).map g.strip = p.subs.map String.toList := by
    rw [List.map_map]
    exact List.map_congr_left fun s hs => strip_toList_of_mem hp (mem_tokens_complexGroup hs)
  rw [ComplexProperty.text, String.toList_append, String.toList_append, String.toList_append,
    String.toList_intercalate, strip_append, strip_append, strip_append, strip_intercalate,
    hname, hsubs, hg.strip_comma, hg.strip_opening, hg.strip_closing, renderGroup_complexGroup,
    hg.opening_eq, hg.subSeparator_eq, hg.closing_eq]
  simp

/-- The canonical text of a group is the rendering of its token groups without
the last separator, but for spaces. -/
theorem strip_text (hg : g.IsCanonical) {group : PropertyGroup σ χ}
    (hgroup : ∀ t ∈ group.groups, g.WellFormed t) :
    g.strip group.text.toList =
      [g.separator].intercalate (group.groups.map g.renderGroup) := by
  have hsimple : (group.simpleNames.map String.toList).map g.strip =
      (group.simple.map (·.group)).map g.renderGroup := by
    simp only [PropertyGroup.simpleNames, List.map_map]
    refine List.map_congr_left fun p hp => ?_
    have hmem : p.group ∈ group.groups :=
      List.mem_append_left _ (List.mem_map_of_mem hp)
    exact strip_toList_of_mem (hgroup _ hmem) List.mem_cons_self
  have hcomplex : ((group.complex.map (·.text)).map String.toList).map g.strip =
      (group.complex.map (·.group)).map g.renderGroup := by
    simp only [List.map_map]
    refine List.map_congr_left fun p hp => ?_
    have hmem : p.group ∈ group.groups :=
      List.mem_append_right _ (List.mem_map_of_mem hp)
    exact hg.strip_complexText (hgroup _ hmem)
  rw [PropertyGroup.text, String.toList_intercalate, strip_intercalate, hg.strip_comma,
    hg.separator_eq, PropertyGroup.groups, List.map_append, List.map_append, List.map_append,
    hsimple, hcomplex]

end IsCanonical

end Grammar

/-! ## Parsing canonical texts -/

section Parsing

variable {r : Registry} {kind : Kind} {text : String} {group : BoundGroup}

/-- With any rules, the canonical text of an accepted group gives this group, if
no simple property has the empty name. -/
theorem parse_text_of_named {g : Grammar} (hg : g.IsCanonical)
    (hnamed : ∀ p ∈ group.simple, p.name ≠ "") (h : parse g r kind text = .ok group) :
    parse g r kind (kind.marker ++ group.text) = .ok group := by
  obtain ⟨body, ts, -, hread, hbinds, hallowed⟩ := parse_eq_ok_iff.mp h
  have hwell : ∀ t ∈ group.groups, g.WellFormed t := fun t ht =>
    (Grammar.tokenGroups_eq_ok_iff.mp hread).1 t (hbinds.mem_of_mem_groups ht)
  have hshows : ∀ t, group.groups.getLast? = some t → g.renderGroup t ≠ [] := by
    -- Only a simple property with the empty name would not show.
    intro t ht
    refine Grammar.renderGroup_ne_nil fun hsimple => ?_
    obtain ⟨p, hp, rfl⟩ := PropertyGroup.exists_simple_of_mem_groups
      (List.mem_of_getLast? ht) hsimple
    exact hnamed p hp
  refine parse_eq_ok_iff.mpr ⟨group.text.toList, group.groups, Kind.body?_marker_append _ _,
    Grammar.tokenGroups_eq_ok_iff.mpr ⟨hwell, ?_⟩, hbinds.groups, hallowed⟩
  rw [hg.strip_text hwell]
  exact Grammar.renders_intercalate hshows

/-- **Canonical texts parse back.** If the rules are those of a configuration, the
canonical text of an accepted group, after the marker of its kind, is accepted
with the same group: the same names, sub-properties and rules, in the same order. -/
theorem parse_marker_append_text {c : Config} (hr : c.registry = .ok r)
    (hg : c.grammar.IsCanonical) (h : parse c.grammar r kind text = .ok group) :
    parse c.grammar r kind (kind.marker ++ group.text) = .ok group := by
  obtain ⟨_, _, -, -, hbinds, -⟩ := parse_eq_ok_iff.mp h
  refine parse_text_of_named hg (fun p hp => ?_) h
  obtain ⟨d, -, -, haccepts⟩ := exists_declared_of_binds hr hbinds hp
  rw [(SimpleDecl.accepts_iff.mp haccepts).1]
  exact d.named

end Parsing

theorem parse_text_of_parse_annotation : Sample.config.registry = .ok Sample.registry ∧
    Sample.config.grammar.IsCanonical ∧
    parse Sample.config.grammar Sample.registry .field Sample.annotation = .ok Sample.bound ∧
    Sample.bound.text = "Hidden, Getter(), Range(1, 2)" ∧
    parse Sample.config.grammar Sample.registry .field "KGF:Hidden, Getter(), Range(1, 2)" =
      .ok Sample.bound := by
  have hg : Sample.config.grammar.IsCanonical := ⟨rfl, rfl, rfl, rfl, List.mem_singleton_self _⟩
  refine ⟨Sample.registry_eq, hg, Sample.parse_annotation, rfl, ?_⟩
  exact parse_marker_append_text Sample.registry_eq hg Sample.parse_annotation

end EntityProps
