import EntityProps.Registry
import Mathlib.Data.List.Induction

/-!
# Precedence of rules

A search asks the native rules before those of users, and in each tier the newest
rule first. So it finds the newest native rule that takes the name, and the
newest rule of a user only where no native rule takes it
(`simpleRule?_eq_iff_preferred`, `complexRule?_eq_iff_preferred`).

Tiers are lists with the oldest rule first. What is the newest rule in one of
them is said by `IsLast`.
-/

namespace EntityProps

/-! ## Last members -/

/-- The member of a list is the last one that satisfies a condition. -/
def IsLast {α : Type} (p : α → Prop) (l : List α) (a : α) : Prop :=
  ∃ before after, l = before ++ a :: after ∧ p a ∧ ∀ b ∈ after, ¬ p b

section Last

variable {α β : Type} {p : α → Prop} {l m : List α} {a b : α}

theorem IsLast.mem (h : IsLast p l a) : a ∈ l := by
  obtain ⟨before, after, rfl, -, -⟩ := h
  simp

theorem IsLast.holds (h : IsLast p l a) : p a := by
  obtain ⟨before, after, -, ha, -⟩ := h
  exact ha

theorem IsLast.congr {q : α → Prop} (hpq : ∀ b, p b ↔ q b) (h : IsLast p l a) : IsLast q l a := by
  obtain ⟨before, after, hsplit, ha, hafter⟩ := h
  refine ⟨before, after, hsplit, (hpq a).mp ha, ?_⟩
  intro b hb
  rw [← hpq b]
  exact hafter b hb

theorem IsLast.append_left (h : IsLast p l a) (m : List α) : IsLast p (m ++ l) a := by
  obtain ⟨before, after, rfl, ha, hafter⟩ := h
  exact ⟨m ++ before, after, by simp, ha, hafter⟩

theorem IsLast.append_right (h : IsLast p l a) (hm : ∀ b ∈ m, ¬ p b) : IsLast p (l ++ m) a := by
  obtain ⟨before, after, rfl, ha, hafter⟩ := h
  refine ⟨before, after ++ m, by simp, ha, ?_⟩
  intro b hb
  rcases List.mem_append.mp hb with hb | hb
  · exact hafter b hb
  · exact hm b hb

theorem isLast_append_singleton (l : List α) (ha : p a) : IsLast p (l ++ [a]) a :=
  ⟨l, [], rfl, ha, fun _ hb => absurd hb List.not_mem_nil⟩

/-- Searching a list from its end finds the last member that satisfies the
condition. -/
theorem find?_reverse_eq_some_iff_isLast {p : α → Bool} :
    l.reverse.find? p = some a ↔ IsLast (fun a => p a = true) l a := by
  rw [List.find?_eq_some_iff_append]
  constructor
  · rintro ⟨ha, after, before, hsplit, hafter⟩
    refine ⟨before.reverse, after.reverse, ?_, ha, ?_⟩
    · rw [← List.reverse_reverse l, hsplit]
      simp
    · intro b hb
      simpa using hafter b (List.mem_reverse.mp hb)
  · rintro ⟨before, after, rfl, ha, hafter⟩
    refine ⟨ha, after.reverse, before.reverse, by simp, ?_⟩
    intro b hb
    simpa using hafter b (List.mem_reverse.mp hb)

theorem find?_reverse_eq_none_iff {p : α → Bool} :
    l.reverse.find? p = none ↔ ∀ a ∈ l, ¬ p a = true := by
  simp

/-- Either some member is the last one that satisfies a condition, or none does. -/
theorem isLast_or_forall_not (p : α → Prop) (l : List α) :
    (∃ a, IsLast p l a) ∨ ∀ a ∈ l, ¬ p a := by
  -- From the end of the list, since the last member that satisfies it is looked for.
  induction l using List.reverseRecOn with
  | nil => exact Or.inr fun _ ha => absurd ha List.not_mem_nil
  | append_singleton l a ih =>
    by_cases ha : p a
    · exact Or.inl ⟨a, isLast_append_singleton l ha⟩
    · have hsingle : ∀ b ∈ [a], ¬ p b := by
        intro b hb
        rw [List.mem_singleton.mp hb]
        exact ha
      rcases ih with ⟨b, hb⟩ | hnone
      · exact Or.inl ⟨b, hb.append_right hsingle⟩
      · refine Or.inr fun b hb => ?_
        rcases List.mem_append.mp hb with hb | hb
        · exact hnone b hb
        · exact hsingle b hb

theorem isLast_map_iff {f : β → α} {l : List β} :
    IsLast p (l.map f) a ↔ ∃ b, f b = a ∧ IsLast (fun b => p (f b)) l b := by
  constructor
  · rintro ⟨before, after, hsplit, ha, hafter⟩
    obtain ⟨before', rest, rfl, -, hrest⟩ := List.map_eq_append_iff.mp hsplit
    obtain ⟨b, after', rfl, rfl, rfl⟩ := List.map_eq_cons_iff.mp hrest
    exact ⟨b, rfl, before', after', rfl, ha, fun c hc => hafter _ (List.mem_map_of_mem hc)⟩
  · rintro ⟨b, rfl, before, after, rfl, hb, hafter⟩
    refine ⟨before.map f, after.map f, by simp, hb, ?_⟩
    intro c hc
    obtain ⟨b', hb', rfl⟩ := List.mem_map.mp hc
    exact hafter b' hb'

end Last

/-! ## Searching two tiers -/

/-- What a search should find in two tiers of rules: the newest native rule that
takes what is searched, else the newest rule of a user that does, else none. -/
inductive Preferred {ρ : Type} (takes : ρ → Prop) (native user : List ρ) : Option ρ → Prop
  | native {rule : ρ} (hlast : IsLast takes native rule) :
      Preferred takes native user (some rule)
  | user {rule : ρ} (hnative : ∀ q ∈ native, ¬ takes q) (hlast : IsLast takes user rule) :
      Preferred takes native user (some rule)
  | none (hnative : ∀ q ∈ native, ¬ takes q) (huser : ∀ q ∈ user, ¬ takes q) :
      Preferred takes native user none

section Search

variable {ρ : Type} {takes : ρ → Bool} {native user : List ρ} {found : Option ρ}

theorem find?_eq_of_preferred (h : Preferred (fun q => takes q = true) native user found) :
    (native.reverse ++ user.reverse).find? takes = found := by
  rw [List.find?_append]
  cases h with
  | native hlast =>
    rw [find?_reverse_eq_some_iff_isLast.mpr hlast]
    rfl
  | user hnative hlast =>
    rw [find?_reverse_eq_none_iff.mpr hnative, find?_reverse_eq_some_iff_isLast.mpr hlast]
    rfl
  | none hnative huser =>
    rw [find?_reverse_eq_none_iff.mpr hnative, find?_reverse_eq_none_iff.mpr huser]
    rfl

theorem exists_preferred (takes : ρ → Prop) (native user : List ρ) :
    ∃ found, Preferred takes native user found := by
  rcases isLast_or_forall_not takes native with ⟨rule, hlast⟩ | hnative
  · exact ⟨some rule, .native hlast⟩
  · rcases isLast_or_forall_not takes user with ⟨rule, hlast⟩ | huser
    · exact ⟨some rule, .user hnative hlast⟩
    · exact ⟨none, .none hnative huser⟩

theorem find?_eq_iff_preferred :
    (native.reverse ++ user.reverse).find? takes = found ↔
      Preferred (fun q => takes q = true) native user found := by
  refine ⟨?_, find?_eq_of_preferred⟩
  rintro rfl
  -- Something is preferred, and the search finds nothing else.
  obtain ⟨found, h⟩ := exists_preferred (fun q => takes q = true) native user
  rw [find?_eq_of_preferred h]
  exact h

end Search

namespace Registry

variable {r : Registry} {name : String} {kind : Kind}

theorem map_simpleByPrecedence (r : Registry) :
    r.simpleByPrecedence.map (·.2) = r.nativeSimple.reverse ++ r.userSimple.reverse := by
  simp [simpleByPrecedence, Function.comp_def]

theorem map_complexByPrecedence (r : Registry) :
    r.complexByPrecedence.map (·.2) = r.nativeComplex.reverse ++ r.userComplex.reverse := by
  simp [complexByPrecedence, Function.comp_def]

/-- A search for a simple property finds the preferred rule. -/
theorem simpleRule?_eq_iff_preferred {found : Option SimpleRule} :
    r.simpleRule? name kind = found ↔
      Preferred (fun rule => rule.accepts name kind = true) r.nativeSimple r.userSimple found := by
  rw [simpleRule?, map_simpleByPrecedence]
  exact find?_eq_iff_preferred

/-- A search for a complex property finds the preferred rule. -/
theorem complexRule?_eq_iff_preferred {found : Option ComplexRule} :
    r.complexRule? name kind = found ↔
      Preferred (fun rule => rule.accepts name kind = true) r.nativeComplex r.userComplex
        found := by
  rw [complexRule?, map_complexByPrecedence]
  exact find?_eq_iff_preferred

end Registry

/-! ## Listings -/

def RuleInfo.ofSimple (x : Origin × SimpleRule) : RuleInfo :=
  ⟨x.2.label, false, x.1⟩

def RuleInfo.ofComplex (x : Origin × ComplexRule) : RuleInfo :=
  ⟨x.2.label, true, x.1⟩

/-- A rule is the first that takes what is searched, among rules in the order of search
which the entries of a listing show one by one. -/
def ShownFirst {ρ : Type} (searched : List (Origin × ρ)) (shown : Origin × ρ → RuleInfo)
    (takes : ρ → Bool) (entries : List RuleInfo) (rule : ρ) : Prop :=
  ∃ before origin after, searched = before ++ (origin, rule) :: after ∧
    entries = before.map shown ++ shown (origin, rule) :: after.map shown ∧
    ∀ x ∈ before, takes x.2 = false

theorem shownFirst_of_find? {ρ : Type} {searched : List (Origin × ρ)}
    {shown : Origin × ρ → RuleInfo} {takes : ρ → Bool} {rule : ρ}
    (h : (searched.map (·.2)).find? takes = some rule) :
    ShownFirst searched shown takes (searched.map shown) rule := by
  obtain ⟨-, before, after, hsplit, hbefore⟩ := List.find?_eq_some_iff_append.mp h
  obtain ⟨before, rest, rfl, rfl, hrest⟩ := List.map_eq_append_iff.mp hsplit
  obtain ⟨⟨origin, rule⟩, after, rfl, rfl, rfl⟩ := List.map_eq_cons_iff.mp hrest
  refine ⟨before, origin, after, rfl, by simp, ?_⟩
  intro x hx
  simpa using hbefore x.2 (List.mem_map_of_mem hx)

namespace Registry

variable {r : Registry}

theorem listing_eq (r : Registry) :
    r.listing = r.simpleByPrecedence.map .ofSimple ++ r.complexByPrecedence.map .ofComplex := rfl

/-- The entries of a listing for simple properties are those of the rules in the order
of search. -/
theorem filter_listing_simple (r : Registry) :
    r.listing.filter (!·.complex) = r.simpleByPrecedence.map .ofSimple := by
  rw [listing_eq, List.filter_append, List.filter_eq_self.mpr, List.filter_eq_nil_iff.mpr,
    List.append_nil]
  · intro info hinfo
    obtain ⟨x, -, rfl⟩ := List.mem_map.mp hinfo
    simp [RuleInfo.ofComplex]
  · intro info hinfo
    obtain ⟨x, -, rfl⟩ := List.mem_map.mp hinfo
    rfl

/-- The entries of a listing for complex properties are those of the rules in the
order of search. -/
theorem filter_listing_complex (r : Registry) :
    r.listing.filter (·.complex) = r.complexByPrecedence.map .ofComplex := by
  rw [listing_eq, List.filter_append, List.filter_eq_nil_iff.mpr, List.filter_eq_self.mpr,
    List.nil_append]
  · intro info hinfo
    obtain ⟨x, -, rfl⟩ := List.mem_map.mp hinfo
    rfl
  · intro info hinfo
    obtain ⟨x, -, rfl⟩ := List.mem_map.mp hinfo
    simp [RuleInfo.ofSimple]

variable {name : String} {kind : Kind}

/-- The rule that is found for a simple property is shown by the first entry of the
listing for such properties whose rule takes the name. -/
theorem shownFirst_of_simpleRule? {rule : SimpleRule} (h : r.simpleRule? name kind = some rule) :
    ShownFirst r.simpleByPrecedence .ofSimple (·.accepts name kind)
      (r.listing.filter (!·.complex)) rule := by
  rw [filter_listing_simple]
  exact shownFirst_of_find? h

/-- The rule that is found for a complex property is shown by the first entry of the
listing for such properties whose rule takes the name. -/
theorem shownFirst_of_complexRule? {rule : ComplexRule}
    (h : r.complexRule? name kind = some rule) :
    ShownFirst r.complexByPrecedence .ofComplex (·.accepts name kind)
      (r.listing.filter (·.complex)) rule := by
  rw [filter_listing_complex]
  exact shownFirst_of_find? h

end Registry

end EntityProps
