import EntityProps.Proofs.Configured
import EntityProps.Proofs.Outcome
import EntityProps.Proofs.Pattern.Anchored
import Mathlib.Data.List.Basic

/-!
# Demands of rules

What the rules of a configuration demand of an accepted group, said of the
group as a whole: `PropertyGroup.Upholds`. No index and no order of the
properties occurs in it.

Validation asks the rule of each property with the index of that property, and
a name that may stand once is refused where it stands again. This comes to the
same (`allowed_iff_upholds`), because equal names are bound to the same rule:
if one property of a name may stand once, all of them may.
-/

namespace EntityProps

/-! ## Names that stand once -/

namespace PropertyGroup

theorem repeatsAt_of_getElem? {names : List String} {i : Nat} {name : String}
    (h : names[i]? = some name) : repeatsAt names i = (names.take i).contains name := by
  rw [repeatsAt, h]

/-- A name is repeated somewhere if it stands twice. -/
theorem exists_repeatsAt_iff {names : List String} {name : String} :
    (∃ i, names[i]? = some name ∧ repeatsAt names i = true) ↔ 2 ≤ names.count name := by
  constructor
  · rintro ⟨i, hi, hrep⟩
    rw [repeatsAt_of_getElem? hi, List.contains_iff_mem] at hrep
    obtain ⟨hlt, hget⟩ := List.getElem?_eq_some_iff.mp hi
    have hbefore : 1 ≤ (names.take i).count name := List.one_le_count_iff.mpr hrep
    have hafter : 1 ≤ (names.drop i).count name := by
      rw [List.one_le_count_iff, List.drop_eq_getElem_cons hlt, hget]
      exact List.mem_cons_self
    rw [← List.take_append_drop i names, List.count_append]
    omega
  · intro h
    have hmem : name ∈ names := List.one_le_count_iff.mp (Nat.le_trans (by decide) h)
    obtain ⟨a, b, rfl, ha⟩ := List.eq_append_cons_of_mem hmem
    have hb : name ∈ b := by
      rw [List.count_append, List.count_cons_self, List.count_eq_zero.mpr ha] at h
      exact List.one_le_count_iff.mp (by omega)
    obtain ⟨c, d, rfl⟩ := List.append_of_mem hb
    have hsplit : a ++ name :: (c ++ name :: d) = (a ++ name :: c) ++ name :: d := by simp
    have hget : ((a ++ name :: c) ++ name :: d)[(a ++ name :: c).length]? = some name := by
      simp
    rw [hsplit]
    refine ⟨(a ++ name :: c).length, hget, ?_⟩
    rw [repeatsAt_of_getElem? hget, List.contains_iff_mem, List.take_left]
    simp

/-- Let a condition hold of all members of a name or of none. Then no member with
it repeats its name exactly if the name of each stands once. -/
theorem not_repeatsAt_iff_count_eq_one {α : Type} {l : List α} {f : α → String}
    {once : α → Prop} (hname : ∀ a ∈ l, ∀ b ∈ l, f a = f b → once a → once b) :
    (∀ i a, l[i]? = some a → once a → repeatsAt (l.map f) i = false) ↔
      ∀ a ∈ l, once a → (l.map f).count (f a) = 1 := by
  constructor
  · intro h a ha honce
    have hle : ¬ 2 ≤ (l.map f).count (f a) := by
      intro htwo
      -- The member at the repeat may stand once too, since it has the same name.
      obtain ⟨i, hi, hrep⟩ := exists_repeatsAt_iff.mpr htwo
      rw [List.getElem?_map] at hi
      obtain ⟨b, hb, hfb⟩ := Option.map_eq_some_iff.mp hi
      have := h i b hb (hname a ha b (List.mem_of_getElem? hb) hfb.symm honce)
      rw [hrep] at this
      cases this
    have hpos : 1 ≤ (l.map f).count (f a) :=
      List.one_le_count_iff.mpr (List.mem_map_of_mem ha)
    omega
  · intro h i a ha honce
    cases hrep : repeatsAt (l.map f) i with
    | false => rfl
    | true =>
      have hi : (l.map f)[i]? = some (f a) := by rw [List.getElem?_map, ha]; rfl
      have htwo := exists_repeatsAt_iff.mp ⟨i, hi, hrep⟩
      rw [h a (List.mem_of_getElem? ha) honce] at htwo
      omega

/-- A condition on members and places that says of the place only whether a name
is repeated there is a condition on the list as a whole. -/
theorem allAt_iff_count {α : Type} {l : List α} {f : α → String} {p : α → Nat → Bool}
    {once fits : α → Prop}
    (hpoint : ∀ i a, l[i]? = some a →
      (p a i = true ↔ (once a → repeatsAt (l.map f) i = false) ∧ fits a))
    (hname : ∀ a ∈ l, ∀ b ∈ l, f a = f b → once a → once b) :
    AllAt p l ↔ ∀ a ∈ l, (once a → (l.map f).count (f a) = 1) ∧ fits a := by
  have hcount := not_repeatsAt_iff_count_eq_one hname
  constructor
  · intro h a ha
    refine ⟨hcount.mp (fun i b hb => ((hpoint i b hb).mp (h i b hb)).1) a ha, ?_⟩
    obtain ⟨i, hi⟩ := List.mem_iff_getElem?.mp ha
    exact ((hpoint i a hi).mp (h i a hi)).2
  · intro h i a ha
    have hrep := hcount.mpr (fun b hb => (h b hb).1) i a ha
    exact (hpoint i a ha).mpr ⟨hrep, (h a (List.mem_of_getElem? ha)).2⟩

/-! ## What rules are shown of a group -/

variable {σ χ : Type}

/-- The names of all properties. -/
def names (g : PropertyGroup σ χ) : List String :=
  g.simpleNames ++ g.complexNames

theorem contains_iff_mem_names {g : PropertyGroup σ χ} {name : String} :
    g.contains name = true ↔ name ∈ g.names := by
  simp [contains, simple?, complex?, names, simpleNames, complexNames]

theorem outline_simpleNames (g : BoundGroup) : g.outline.simpleNames = g.simpleNames := by
  simp [outline, map, simpleNames]

theorem outline_complexNames (g : BoundGroup) : g.outline.complexNames = g.complexNames := by
  simp [outline, map, complexNames]

theorem outline_names (g : BoundGroup) : g.outline.names = g.names := by
  rw [names, outline_simpleNames, outline_complexNames, names]

theorem outline_complex_getElem? {g : BoundGroup} {i : Nat} {p : ComplexProperty ComplexRule}
    (h : g.complex[i]? = some p) :
    g.outline.complex[i]? = some ⟨p.name, p.subs, p.rule.view⟩ := by
  simp [outline, map, h]

end PropertyGroup

/-! ## Demands -/

/-- What a declaration demands of a property with this name on an entity of this
kind. `same` are the names of the properties of its sort, `all` the names of all
properties. -/
structure SimpleDecl.Holds (d : SimpleDecl) (kind : Kind) (name : String)
    (same all : List String) : Prop where
  named : name = d.name
  admitted : d.entities = [] ∨ kind ∈ d.entities
  once : d.unique = true → same.count name = 1
  alone : ∀ other ∈ d.conflictsWith, other ≠ d.name → other ∉ all
  accompanied : ∀ other ∈ d.requires, other ∈ all

/-- What a declaration demands of a complex property, its sub-properties included. -/
structure DeclaredComplex.Holds (r : DeclaredComplex) (kind : Kind)
    (p : ComplexProperty ComplexRule) (same all : List String) : Prop
    extends r.decl.toSimpleDecl.Holds kind p.name same all where
  enough : r.decl.minSubs ≤ p.subs.length
  few : ∀ most, r.decl.maxSubs = some most → p.subs.length ≤ most
  matching : ∀ s ∈ p.subs, match r.pattern with
    | some pattern => pattern.isMatch s = true
    | none => s ≠ ""

/-- What the rules of a configuration demand of a group. -/
structure PropertyGroup.Upholds (g : BoundGroup) (kind : Kind) : Prop where
  simple : ∀ p ∈ g.simple, ∀ d, p.rule = .declared d →
    d.decl.Holds kind p.name g.simpleNames g.names
  complex : ∀ p ∈ g.complex, ∀ d, p.rule = .declared d →
    d.Holds kind p g.complexNames g.names
  template : ∀ p ∈ g.complex, p.rule = .template →
    p.subs.length = 1 ∧ g.complexNames.count p.name = 1
  accessor : ∀ p ∈ g.complex, p.rule = .getter ∨ p.rule = .setter →
    p.subs.Nodup ∧ ¬ ("*" ∈ p.subs ∧ "&" ∈ p.subs) ∧ g.complexNames.count p.name = 1

namespace SimpleDecl

variable {σ χ : Type} {d : SimpleDecl}

theorem admits_iff {kind : Kind} :
    d.admits kind = true ↔ d.entities = [] ∨ kind ∈ d.entities := by
  simp [admits]

theorem accepts_iff {name : String} {kind : Kind} :
    d.accepts name kind = true ↔ name = d.name ∧ (d.entities = [] ∨ kind ∈ d.entities) := by
  rw [accepts, Bool.and_eq_true, beq_iff_eq, admits_iff]

/-- The demands of a declaration on the other properties of the group. -/
def Tolerates (d : SimpleDecl) (all : List String) : Prop :=
  (∀ other ∈ d.conflictsWith, other ≠ d.name → other ∉ all) ∧ ∀ other ∈ d.requires, other ∈ all

theorem allows_iff {g : PropertyGroup σ χ} {repeated : Bool} :
    d.allows g repeated = true ↔
      (d.unique = true → repeated = false) ∧ d.Tolerates g.names := by
  simp only [allows, Tolerates, Bool.and_eq_true, Bool.not_eq_true', List.all_eq_true,
    List.any_eq_false, bne_iff_ne, PropertyGroup.contains_iff_mem_names, and_assoc]
  simp

end SimpleDecl

/-- A declared rule accepts sub-properties at their places if there are not too
many of them and each looks as it must. -/
theorem DeclaredComplex.allAt_acceptsSub_iff {d : DeclaredComplex} {subs : List String} :
    AllAt d.acceptsSub subs ↔
      (∀ most, d.decl.maxSubs = some most → subs.length ≤ most) ∧
        ∀ s ∈ subs, match d.pattern with
          | some pattern => pattern.isMatch s = true
          | none => s ≠ "" := by
  refine allAt_iff_length_le ?_
  intro s i
  rw [acceptsSub, Bool.and_eq_true]
  refine and_congr ?_ ?_
  · cases d.decl.maxSubs <;> simp
  · cases d.pattern <;> simp

/-! ## Demands of single rules -/

/-- Properties of this rule may stand once. -/
def SimpleRule.IsUnique : SimpleRule → Prop
  | .declared d => d.decl.unique = true
  | .custom _ => False

/-- Properties of this rule may stand once. -/
def ComplexRule.IsUnique : ComplexRule → Prop
  | .declared d => d.decl.unique = true
  | .custom _ => False
  | _ => True

/-- What a rule of a configuration demands of a complex property, apart from the
question whether it may stand again. -/
def ComplexRule.Fits (subs all : List String) : ComplexRule → Prop
  | .template => subs.length = 1
  | .getter => subs.Nodup ∧ ¬ ("*" ∈ subs ∧ "&" ∈ subs)
  | .setter => subs.Nodup ∧ ¬ ("*" ∈ subs ∧ "&" ∈ subs)
  | .declared d => d.decl.minSubs ≤ subs.length ∧ d.decl.Tolerates all
  | .custom _ => False

theorem hasRepeat_eq_false_iff {subs : List String} :
    ComplexRule.hasRepeat subs = false ↔ subs.Nodup := by
  induction subs with
  | nil => simp [ComplexRule.hasRepeat]
  | cons s subs ih => simp [ComplexRule.hasRepeat, ih]

namespace PropertyGroup

variable {g : BoundGroup} {i : Nat}

theorem allows_simple_iff {p : SimpleProperty SimpleRule} {d : DeclaredSimple}
    (hd : p.rule = .declared d) :
    p.rule.allows g.outline i = true ↔
      (p.rule.IsUnique → repeatsAt g.simpleNames i = false) ∧ d.decl.Tolerates g.names := by
  rw [hd, SimpleRule.allows, SimpleDecl.allows_iff, repeatsSimple, outline_simpleNames,
    outline_names]
  rfl

theorem allowsAccessor_iff {p : ComplexProperty ComplexRule} (hp : g.complex[i]? = some p) :
    ComplexRule.allowsAccessor g.outline i = true ↔
      repeatsAt g.complexNames i = false ∧ p.subs.Nodup ∧ ¬ ("*" ∈ p.subs ∧ "&" ∈ p.subs) := by
  rw [ComplexRule.allowsAccessor, outline_complex_getElem? hp]
  simp only [repeatsComplex, outline_complexNames, Bool.and_eq_true, Bool.not_eq_true',
    hasRepeat_eq_false_iff, Bool.and_eq_false_iff, List.contains_eq_mem, decide_eq_false_iff_not,
    not_and_or, and_assoc]

theorem allowsTemplate_iff {p : ComplexProperty ComplexRule} (hp : g.complex[i]? = some p) :
    ComplexRule.allowsTemplate g.outline i = true ↔
      repeatsAt g.complexNames i = false ∧ p.subs.length = 1 := by
  rw [ComplexRule.allowsTemplate, outline_complex_getElem? hp]
  simp only [repeatsComplex, outline_complexNames, Bool.and_eq_true, Bool.not_eq_true',
    beq_iff_eq, and_comm]

theorem allows_declared_iff {p : ComplexProperty ComplexRule} {d : DeclaredComplex}
    (hp : g.complex[i]? = some p) :
    d.allows g.outline i = true ↔
      (d.decl.unique = true → repeatsAt g.complexNames i = false) ∧
        d.decl.minSubs ≤ p.subs.length ∧ d.decl.Tolerates g.names := by
  rw [DeclaredComplex.allows, outline_complex_getElem? hp]
  simp only [repeatsComplex, outline_complexNames, Bool.and_eq_true, decide_eq_true_eq,
    SimpleDecl.allows_iff, outline_names]
  tauto

/-- A built-in or declared rule allows a property if it fits, unless the name may
stand once and stands before the property already. -/
theorem allows_complex_iff {p : ComplexProperty ComplexRule} (hp : g.complex[i]? = some p)
    (hrule : ∀ custom, p.rule ≠ .custom custom) :
    p.rule.allows g.outline i = true ↔
      (p.rule.IsUnique → repeatsAt g.complexNames i = false) ∧ p.rule.Fits p.subs g.names := by
  cases h : p.rule with
  | template =>
    show _ ↔ (True → _) ∧ _
    rw [true_imp_iff]
    exact allowsTemplate_iff hp
  | getter =>
    show _ ↔ (True → _) ∧ _
    rw [true_imp_iff]
    exact allowsAccessor_iff hp
  | setter =>
    show _ ↔ (True → _) ∧ _
    rw [true_imp_iff]
    exact allowsAccessor_iff hp
  | declared d => exact allows_declared_iff hp
  | custom custom => exact absurd h (hrule custom)

end PropertyGroup

/-! ## Demands on the whole group -/

section Configured

variable {c : Config} {r : Registry} {kind : Kind} {ts : List TokenGroup} {g : BoundGroup}

theorem exists_declared_of_binds (hr : c.registry = .ok r) (hb : r.Binds kind ts g)
    {p : SimpleProperty SimpleRule} (hp : p ∈ g.simple) :
    ∃ d, p.rule = .declared d ∧ d.decl ∈ c.simpleRules ∧ d.decl.accepts p.name kind = true :=
  Config.simpleRule?_eq_some hr (hb.simpleRule?_eq hp)

theorem builtin_or_declared_of_binds (hr : c.registry = .ok r) (hb : r.Binds kind ts g)
    {p : ComplexProperty ComplexRule} (hp : p ∈ g.complex) :
    p.rule = .template ∨ p.rule = .getter ∨ p.rule = .setter ∨
      ∃ d, p.rule = .declared d ∧ d.decl ∈ c.complexRules ∧
        d.decl.accepts p.name kind = true :=
  Config.complexRule?_eq_some hr (hb.complexRule?_eq hp)

theorem ne_custom_of_binds (hr : c.registry = .ok r) (hb : r.Binds kind ts g)
    {p : ComplexProperty ComplexRule} (hp : p ∈ g.complex) (custom : CustomComplex) :
    p.rule ≠ .custom custom := by
  rcases builtin_or_declared_of_binds hr hb hp with h | h | h | ⟨d, h, -⟩ <;> simp [h]

/-- Properties with equal names have equal rules. -/
theorem rule_eq_of_name_eq (hb : r.Binds kind ts g) {p q : SimpleProperty SimpleRule}
    (hp : p ∈ g.simple) (hq : q ∈ g.simple) (h : p.name = q.name) : p.rule = q.rule := by
  have hfound := hb.simpleRule?_eq hp
  rw [h, hb.simpleRule?_eq hq] at hfound
  exact (Option.some.inj hfound).symm

theorem complexRule_eq_of_name_eq (hb : r.Binds kind ts g) {p q : ComplexProperty ComplexRule}
    (hp : p ∈ g.complex) (hq : q ∈ g.complex) (h : p.name = q.name) : p.rule = q.rule := by
  have hfound := hb.complexRule?_eq hp
  rw [h, hb.complexRule?_eq hq] at hfound
  exact (Option.some.inj hfound).symm

/-- The rules of the simple properties allow them exactly if their declarations
hold. -/
theorem allAt_simple_iff (hr : c.registry = .ok r) (hb : r.Binds kind ts g) :
    AllAt (fun p i => p.rule.allows g.outline i) g.simple ↔
      ∀ p ∈ g.simple, ∀ d, p.rule = .declared d →
        d.decl.Holds kind p.name g.simpleNames g.names := by
  have hpoint : ∀ i p, g.simple[i]? = some p →
      (p.rule.allows g.outline i = true ↔
        (p.rule.IsUnique → PropertyGroup.repeatsAt g.simpleNames i = false) ∧
          ∀ d, p.rule = .declared d → d.decl.Tolerates g.names) := by
    intro i p hp
    obtain ⟨d, hd, -⟩ := exists_declared_of_binds hr hb (List.mem_of_getElem? hp)
    rw [PropertyGroup.allows_simple_iff hd]
    simp [hd]
  have hname : ∀ p ∈ g.simple, ∀ q ∈ g.simple, p.name = q.name →
      p.rule.IsUnique → q.rule.IsUnique := by
    intro p hp q hq h
    rw [rule_eq_of_name_eq hb hp hq h]
    exact id
  rw [PropertyGroup.allAt_iff_count hpoint hname]
  constructor
  · intro h p hp d hd
    obtain ⟨hcount, htol⟩ := h p hp
    obtain ⟨d', hd', -, haccepts⟩ := exists_declared_of_binds hr hb hp
    rw [hd] at hd' hcount
    cases hd'
    obtain ⟨hnamed, hadmitted⟩ := SimpleDecl.accepts_iff.mp haccepts
    exact ⟨hnamed, hadmitted, hcount, (htol d hd).1, (htol d hd).2⟩
  · intro h p hp
    obtain ⟨d, hd, -⟩ := exists_declared_of_binds hr hb hp
    have hholds := h p hp d hd
    refine ⟨?_, ?_⟩
    · rw [hd]
      exact hholds.once
    · intro d' hd'
      exact ⟨(h p hp d' hd').alone, (h p hp d' hd').accompanied⟩

/-- The rules of the complex properties allow them exactly if each fits, and
stands once where it may. -/
theorem allAt_complex_iff (hr : c.registry = .ok r) (hb : r.Binds kind ts g) :
    AllAt (fun p i => p.rule.allows g.outline i) g.complex ↔
      ∀ p ∈ g.complex, (p.rule.IsUnique → g.complexNames.count p.name = 1) ∧
        p.rule.Fits p.subs g.names := by
  refine PropertyGroup.allAt_iff_count ?_ ?_
  · intro i p hp
    exact PropertyGroup.allows_complex_iff hp
      (ne_custom_of_binds hr hb (List.mem_of_getElem? hp))
  · intro p hp q hq h
    rw [complexRule_eq_of_name_eq hb hp hq h]
    exact id

theorem holds_of_fits (hr : c.registry = .ok r) (hb : r.Binds kind ts g)
    {p : ComplexProperty ComplexRule} (hp : p ∈ g.complex) {d : DeclaredComplex}
    (hd : p.rule = .declared d)
    (hcount : p.rule.IsUnique → g.complexNames.count p.name = 1)
    (hfits : p.rule.Fits p.subs g.names) : d.Holds kind p g.complexNames g.names := by
  -- The upper bound and the pattern were checked when the sub-tokens were bound.
  obtain ⟨t, -, -, hbinds⟩ := hb.exists_complex hp
  have haccepted := hbinds.accepted
  have haccepts : d.decl.accepts p.name kind = true := by
    rcases builtin_or_declared_of_binds hr hb hp with h | h | h | ⟨d', h, -, ha⟩
    all_goals
      rw [hd] at h
      cases h
    exact ha
  rw [hd] at hcount hfits haccepted
  obtain ⟨hnamed, hadmitted⟩ := SimpleDecl.accepts_iff.mp haccepts
  obtain ⟨henough, halone, haccompanied⟩ := hfits
  obtain ⟨hfew, hmatching⟩ := DeclaredComplex.allAt_acceptsSub_iff.mp haccepted
  exact ⟨⟨hnamed, hadmitted, hcount, halone, haccompanied⟩, henough, hfew, hmatching⟩

/-- **Validation checks the demands.** A group that was bound to the rules of a
configuration is allowed by all of them exactly if it upholds their demands. -/
theorem allowed_iff_upholds (hr : c.registry = .ok r) (hb : r.Binds kind ts g) :
    g.Allowed ↔ g.Upholds kind := by
  constructor
  · rintro ⟨hsimple, hcomplex⟩
    have hfits := (allAt_complex_iff hr hb).mp hcomplex
    refine ⟨(allAt_simple_iff hr hb).mp hsimple, ?_, ?_, ?_⟩
    · intro p hp d hd
      exact holds_of_fits hr hb hp hd (hfits p hp).1 (hfits p hp).2
    · intro p hp hrule
      obtain ⟨hcount, hfit⟩ := hfits p hp
      rw [hrule] at hcount hfit
      exact ⟨hfit, hcount trivial⟩
    · intro p hp hrule
      obtain ⟨hcount, hfit⟩ := hfits p hp
      rcases hrule with hrule | hrule
      all_goals
        rw [hrule] at hcount hfit
        exact ⟨hfit.1, hfit.2, hcount trivial⟩
  · intro h
    refine ⟨(allAt_simple_iff hr hb).mpr h.simple, (allAt_complex_iff hr hb).mpr ?_⟩
    intro p hp
    rcases builtin_or_declared_of_binds hr hb hp with hrule | hrule | hrule | ⟨d, hrule, -⟩
    · obtain ⟨hlength, hcount⟩ := h.template p hp hrule
      rw [hrule]
      exact ⟨fun _ => hcount, hlength⟩
    · obtain ⟨hnodup, hnot, hcount⟩ := h.accessor p hp (Or.inl hrule)
      rw [hrule]
      exact ⟨fun _ => hcount, hnodup, hnot⟩
    · obtain ⟨hnodup, hnot, hcount⟩ := h.accessor p hp (Or.inr hrule)
      rw [hrule]
      exact ⟨fun _ => hcount, hnodup, hnot⟩
    · have hholds := h.complex p hp d hrule
      rw [hrule]
      exact ⟨hholds.once, hholds.enough, hholds.alone, hholds.accompanied⟩

end Configured

/-! ## A sample -/

namespace Sample

/-- A simple property that may not stand beside a visible one. -/
def hidden : DeclaredSimple where
  decl := { name := "Hidden", conflictsWith := ["Visible"] }
  named := by decide

/-- A complex property with two numbers, which may stand once. -/
def range : DeclaredComplex where
  decl :=
    { name := "Range", unique := true, minSubs := 2, maxSubs := some 2, subPattern := some "[0-9]+" }
  pattern := (Pattern.compile (Pattern.anchored "[0-9]+")).toOption
  named := by decide
  bounded := by simp
  compiled := DeclaredComplex.compiled_of_isOk (by decide +kernel)

def config : Config where
  rules := { accessors := true }
  simpleRules := [hidden.decl]
  complexRules := [range.decl]

def registry : Registry :=
  config.registryWith [hidden] [range]

/-- An annotation whose canonical text has another order. -/
def annotation : String := "KGF:Getter(), Hidden, Range(1, 2)"

def groups : List TokenGroup :=
  [⟨"Getter", [""]⟩, ⟨"Hidden", []⟩, ⟨"Range", ["1", "2"]⟩]

def bound : BoundGroup where
  simple := [⟨"Hidden", .declared hidden⟩]
  complex := [⟨"Getter", [], .getter⟩, ⟨"Range", ["1", "2"], .declared range⟩]

theorem accepts_numbers : AllAt range.acceptsSub ["1", "2"] := by
  rw [← find?_not_eq_none_iff]
  decide +kernel

theorem registry_eq : config.registry = .ok registry :=
  Config.registry_eq_ok_iff.mpr ⟨[hidden], [range], rfl, rfl, rfl⟩

theorem read_annotation : ∃ body, Kind.field.body? annotation = some body ∧
    config.grammar.tokenGroups body = .ok groups := by
  refine ⟨_, rfl, Grammar.tokenGroups_eq_ok_iff.mpr ⟨?_, ?_⟩⟩
  · decide
  · decide

theorem parse_annotation : parse config.grammar registry .field annotation = .ok bound := by
  obtain ⟨body, hbody, hread⟩ := read_annotation
  have hhidden : registry.BindsSimple .field ⟨"Hidden", []⟩ ⟨"Hidden", .declared hidden⟩ :=
    ⟨rfl, rfl⟩
  have hgetter : registry.BindsComplex .field ⟨"Getter", [""]⟩ ⟨"Getter", [], .getter⟩ :=
    Registry.bindComplex_eq_ok_iff.mp rfl
  have hrange : registry.BindsComplex .field ⟨"Range", ["1", "2"]⟩
      ⟨"Range", ["1", "2"], .declared range⟩ := ⟨rfl, rfl, by decide, accepts_numbers⟩
  have hbinds : registry.Binds .field groups bound :=
    ⟨.cons hhidden .nil, .cons hgetter (.cons hrange .nil)⟩
  rw [parse_of_binds hbody hread hbinds]
  rfl

end Sample

/-- **Demands are enforced exactly.** An annotation is accepted with a group if it
has the marker of the kind, its body is read and bound as this group, and the
group upholds the demands of its rules. These are built in or declared in the
configuration. -/
theorem parse_eq_ok_iff_upholds {c : Config} {r : Registry} (hr : c.registry = .ok r)
    (kind : Kind) (text : String) (g : BoundGroup) :
    (parse c.grammar r kind text = .ok g ↔
      ∃ body ts, kind.body? text = some body ∧ c.grammar.tokenGroups body = .ok ts ∧
        r.bind kind ts = .ok g ∧ g.Upholds kind) ∧
    (parse c.grammar r kind text = .ok g →
      (∀ p ∈ g.simple, ∃ d, p.rule = .declared d ∧ d.decl ∈ c.simpleRules) ∧
        ∀ p ∈ g.complex, p.rule = .template ∨ p.rule = .getter ∨ p.rule = .setter ∨
          ∃ d, p.rule = .declared d ∧ d.decl ∈ c.complexRules) := by
  constructor
  · rw [parse_eq_ok_iff]
    simp only [Registry.bind_eq_ok_iff]
    constructor
    · rintro ⟨body, ts, hbody, hread, hbinds, hallowed⟩
      exact ⟨body, ts, hbody, hread, hbinds, (allowed_iff_upholds hr hbinds).mp hallowed⟩
    · rintro ⟨body, ts, hbody, hread, hbinds, hupholds⟩
      exact ⟨body, ts, hbody, hread, hbinds, (allowed_iff_upholds hr hbinds).mpr hupholds⟩
  · intro h
    obtain ⟨_, _, -, -, hbinds, -⟩ := parse_eq_ok_iff.mp h
    constructor
    · intro p hp
      obtain ⟨d, hd, hmem, -⟩ := exists_declared_of_binds hr hbinds hp
      exact ⟨d, hd, hmem⟩
    · intro p hp
      rcases builtin_or_declared_of_binds hr hbinds hp with h | h | h | ⟨d, hd, hmem, -⟩
      · exact Or.inl h
      · exact Or.inr (Or.inl h)
      · exact Or.inr (Or.inr (Or.inl h))
      · exact Or.inr (Or.inr (Or.inr ⟨d, hd, hmem⟩))

theorem upholds_of_parse_annotation : Sample.config.registry = .ok Sample.registry ∧
    Sample.bound.Upholds .field := by
  obtain ⟨-, -, -, -, -, hupholds⟩ :=
    (parse_eq_ok_iff_upholds Sample.registry_eq .field Sample.annotation Sample.bound).1.mp
      Sample.parse_annotation
  exact ⟨Sample.registry_eq, hupholds⟩

end EntityProps
