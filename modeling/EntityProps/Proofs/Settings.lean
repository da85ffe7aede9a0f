import EntityProps.Grammar
import Mathlib.Data.List.Induction

/-!
# Settings

The settings with some characters are these characters, with repeats among the ignored
ones left out, if they go together (`Grammar.ofSpec_eq_ok_iff`). Settings that were given
once are given again by their own characters.

Of several equal ignored characters the first one stays (`eraseDups_eq_firstStands`).
Whether settings are given at all does not depend on repeats (`Grammar.exists_ofSpec_iff`).
-/

namespace EntityProps

/-! ## Repeats -/

/-- Induction on the first character of a text and the others that differ from it. -/
theorem eraseDups_induction {motive : List Char → Prop} (nil : motive [])
    (cons : ∀ c l, motive (l.filter fun d => !d == c) → motive (c :: l)) (l : List Char) :
    motive l := by
  induction hn : l.length using Nat.strongRecOn generalizing l with
  | _ n ih =>
    cases l with
    | nil => exact nil
    | cons c l =>
      have hshorter : (l.filter fun d => !d == c).length < n := by
        rw [← hn, List.length_cons]
        exact Nat.lt_succ_of_le (List.length_filter_le _ l)
      exact cons c l (ih _ hshorter _ rfl)

/-- Leaving out repeats a second time changes nothing. -/
theorem eraseDups_eraseDups (l : List Char) : l.eraseDups.eraseDups = l.eraseDups := by
  induction l using eraseDups_induction with
  | nil => rfl
  | cons c l ih =>
    -- The character that stands first is not among those that are left.
    have hkept : (l.filter fun d => !d == c).eraseDups.filter (fun d => !d == c) =
        (l.filter fun d => !d == c).eraseDups := by
      rw [List.filter_eq_self]
      intro d hd
      exact (List.mem_filter.mp (List.mem_eraseDups.mp hd)).2
    rw [List.eraseDups_cons, List.eraseDups_cons, hkept, ih]

theorem nodup_eraseDups (l : List Char) : l.eraseDups.Nodup := by
  induction l using eraseDups_induction with
  | nil => exact List.nodup_nil
  | cons c l ih =>
    rw [List.eraseDups_cons, List.nodup_cons]
    refine ⟨?_, ih⟩
    intro hc
    have hne := (List.mem_filter.mp (List.mem_eraseDups.mp hc)).2
    simp at hne

/-- The text without repeats: a character stays where it has not stood before. -/
def firstStands (l : List Char) : List Char :=
  (l.zipIdx.filter fun (c, i) => !(l.take i).contains c).map (·.1)

theorem firstStands_append_singleton (l : List Char) (c : Char) :
    firstStands (l ++ [c]) = firstStands l ++ if c ∈ l then [] else [c] := by
  -- What stands before a character of `l` is the same with `c` behind it.
  have hbefore : ∀ x ∈ l.zipIdx,
      (!((l ++ [c]).take x.2).contains x.1) = !(l.take x.2).contains x.1 := by
    intro x hx
    obtain ⟨-, hlt, -⟩ := List.mem_zipIdx hx
    rw [List.take_append_of_le_length (by omega)]
  unfold firstStands
  rw [List.zipIdx_append, List.filter_append, List.map_append, List.filter_congr hbefore]
  congr 1
  by_cases hc : c ∈ l <;> simp [hc]

theorem eraseDups_eq_firstStands (l : List Char) : l.eraseDups = firstStands l := by
  induction l using List.reverseRecOn with
  | nil => rfl
  | append_singleton l c ih =>
    rw [List.eraseDups_append, ih, firstStands_append_singleton]
    congr 1
    by_cases hc : c ∈ l <;> simp [List.removeAll, List.eraseDups_cons, hc]

/-! ## Settings -/

/-- The separator and the enclosers differ from each other, the sub-property separator differs
from the enclosers, and none of the four is ignored. -/
def GrammarSpec.GoesTogether (g : GrammarSpec) : Prop :=
  [g.separator, g.opening, g.closing].Nodup ∧ g.subSeparator ∉ [g.opening, g.closing] ∧
    ∀ c ∈ [g.separator, g.opening, g.closing, g.subSeparator], c ∉ g.ignored

theorem GrammarSpec.goesTogether_iff_valid {g : GrammarSpec} : g.GoesTogether ↔ g.Valid := by
  constructor
  · rintro ⟨hdistinct, hsub, hkept⟩
    simp only [List.nodup_cons, List.mem_cons, List.not_mem_nil, or_false, not_or]
      at hdistinct hsub
    exact ⟨hdistinct.1.1, hdistinct.1.2, hdistinct.2.1, hsub.1, hsub.2, hkept _ (by simp),
      hkept _ (by simp), hkept _ (by simp), hkept _ (by simp)⟩
  · intro h
    refine ⟨?_, ?_, ?_⟩
    · simp [h.separator_ne_opening, h.separator_ne_closing, h.opening_ne_closing]
    · simp [h.subSeparator_ne_opening, h.subSeparator_ne_closing]
    · simp [h.separator_kept, h.opening_kept, h.closing_kept, h.subSeparator_kept]

/-- Whether characters go together does not depend on repeats. -/
theorem GrammarSpec.Valid.distinct {g : GrammarSpec} (h : g.Valid) : g.distinct.Valid where
  separator_ne_opening := h.separator_ne_opening
  separator_ne_closing := h.separator_ne_closing
  opening_ne_closing := h.opening_ne_closing
  subSeparator_ne_opening := h.subSeparator_ne_opening
  subSeparator_ne_closing := h.subSeparator_ne_closing
  separator_kept := fun hmem => h.separator_kept (List.mem_eraseDups.mp hmem)
  opening_kept := fun hmem => h.opening_kept (List.mem_eraseDups.mp hmem)
  closing_kept := fun hmem => h.closing_kept (List.mem_eraseDups.mp hmem)
  subSeparator_kept := fun hmem => h.subSeparator_kept (List.mem_eraseDups.mp hmem)

theorem GrammarSpec.valid_distinct_iff {g : GrammarSpec} : g.distinct.Valid ↔ g.Valid := by
  constructor
  · intro ⟨h₁, h₂, h₃, h₄, h₅, h₆, h₇, h₈, h₉⟩
    simp only [GrammarSpec.distinct, List.mem_eraseDups] at h₆ h₇ h₈ h₉
    exact ⟨h₁, h₂, h₃, h₄, h₅, h₆, h₇, h₈, h₉⟩
  · exact GrammarSpec.Valid.distinct

theorem Grammar.ofSpec_eq_ok_iff {g : GrammarSpec} {g' : Grammar} :
    Grammar.ofSpec g = .ok g' ↔ g'.toGrammarSpec = g.distinct := by
  rw [ofSpec]
  split
  · next fault h =>
    simp only [reduceCtorEq, false_iff]
    intro hg
    have hnone := (GrammarSpec.fault?_eq_none_iff _).mpr (hg ▸ g'.valid)
    rw [h] at hnone
    cases hnone
  · cases g'
    simp [eq_comm]

/-- Characters are settings exactly if they go together. -/
theorem Grammar.exists_ofSpec_iff {g : GrammarSpec} :
    (∃ g', Grammar.ofSpec g = .ok g') ↔ g.GoesTogether := by
  rw [GrammarSpec.goesTogether_iff_valid, ← GrammarSpec.valid_distinct_iff]
  constructor
  · rintro ⟨g', h⟩
    rw [← Grammar.ofSpec_eq_ok_iff.mp h]
    exact g'.valid
  · intro h
    exact ⟨⟨g.distinct, h⟩, Grammar.ofSpec_eq_ok_iff.mpr rfl⟩

/-- A grammar that settings give is given by its own characters too. -/
theorem Grammar.ofSpec_toGrammarSpec {g : GrammarSpec} {g' : Grammar}
    (h : Grammar.ofSpec g = .ok g') : Grammar.ofSpec g'.toGrammarSpec = .ok g' := by
  rw [ofSpec_eq_ok_iff] at h ⊢
  rw [h]
  simp only [GrammarSpec.distinct, eraseDups_eraseDups]

end EntityProps
