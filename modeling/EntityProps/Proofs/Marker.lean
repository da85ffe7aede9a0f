import EntityProps.Kind
import Mathlib.Data.List.Infix

/-!
# Markers

No marker opens another, so an annotation has the marker of at most one kind.
Looking for the longest one comes to the same as looking for the first
(`ofMarker?_eq_find?`), and finds it (`ofMarker?_eq_some_iff`).
-/

namespace EntityProps

namespace Kind

variable {kind : Kind} {text : String}

theorem eq_of_marker_isPrefixOf (k₁ k₂ : Kind)
    (h : k₁.marker.toList.isPrefixOf k₂.marker.toList = true) : k₁ = k₂ := by
  revert h
  cases k₁ <;> cases k₂ <;> decide

theorem mem_all (kind : Kind) : kind ∈ all := by
  cases kind <;> decide

theorem body?_eq_some_iff {body : List Char} :
    kind.body? text = some body ↔ text.toList = kind.marker.toList ++ body := by
  rw [body?, List.isPrefixOf?_eq_some_iff_append_eq, eq_comm]

/-- An annotation opens with the marker of one kind at most. -/
theorem eq_of_body? {k₁ k₂ : Kind} {b₁ b₂ : List Char}
    (h₁ : k₁.body? text = some b₁) (h₂ : k₂.body? text = some b₂) : k₁ = k₂ := by
  have hp₁ : k₁.marker.toList <+: text.toList := ⟨b₁, (body?_eq_some_iff.mp h₁).symm⟩
  have hp₂ : k₂.marker.toList <+: text.toList := ⟨b₂, (body?_eq_some_iff.mp h₂).symm⟩
  rcases List.prefix_or_prefix_of_prefix hp₁ hp₂ with h | h
  · exact eq_of_marker_isPrefixOf k₁ k₂ (List.isPrefixOf_iff_prefix.mpr h)
  · exact (eq_of_marker_isPrefixOf k₂ k₁ (List.isPrefixOf_iff_prefix.mpr h)).symm

theorem opens_iff : kind.opens text = true ↔ ∃ body, kind.body? text = some body := by
  rw [opens, List.isPrefixOf_iff_prefix]
  exact exists_congr fun body => eq_comm.trans body?_eq_some_iff.symm

theorem eq_of_opens {k₁ k₂ : Kind} (h₁ : k₁.opens text = true) (h₂ : k₂.opens text = true) :
    k₁ = k₂ := by
  obtain ⟨b₁, h₁⟩ := opens_iff.mp h₁
  obtain ⟨b₂, h₂⟩ := opens_iff.mp h₂
  exact eq_of_body? h₁ h₂

/-- A kind that is found stays: another one does not open the annotation, and the same one has no
longer marker. -/
theorem better_some {best : Kind} (h : best.opens text = true) (kind : Kind) :
    better text (some best) kind = some best := by
  rw [better]
  split
  · next hkind =>
    rw [Bool.and_eq_true] at hkind
    rw [eq_of_opens hkind.1 h]
  · rfl

theorem foldl_better_some {best : Kind} (h : best.opens text = true) (kinds : List Kind) :
    kinds.foldl (better text) (some best) = some best := by
  induction kinds with
  | nil => rfl
  | cons kind kinds ih => rw [List.foldl_cons, better_some h, ih]

theorem foldl_better_none (kinds : List Kind) :
    kinds.foldl (better text) none = kinds.find? (·.opens text) := by
  induction kinds with
  | nil => rfl
  | cons kind kinds ih =>
    rw [List.foldl_cons, List.find?_cons, better]
    cases h : kind.opens text with
    | true => exact foldl_better_some h kinds
    | false => exact ih

theorem ofMarker?_eq_find? (text : String) : ofMarker? text = all.find? (·.opens text) :=
  foldl_better_none all

theorem ofMarker?_eq_some_iff :
    ofMarker? text = some kind ↔ ∃ body, kind.body? text = some body := by
  rw [ofMarker?_eq_find?, ← opens_iff]
  constructor
  · exact fun h => List.find?_some (p := fun k : Kind => k.opens text) h
  · intro h
    cases hfind : all.find? (·.opens text) with
    | none => exact absurd h (List.find?_eq_none.mp hfind kind (mem_all kind))
    | some k =>
      have hk := List.find?_some (p := fun k : Kind => k.opens text) hfind
      rw [eq_of_opens hk h]

theorem body?_eq_none_iff : kind.body? text = none ↔ ofMarker? text ≠ some kind := by
  rw [ne_eq, ofMarker?_eq_some_iff, Option.eq_none_iff_forall_ne_some, not_exists]

theorem ofMarker?_eq_some_iff_prefix :
    ofMarker? text = some kind ↔ kind.marker.toList <+: text.toList := by
  rw [ofMarker?_eq_some_iff]
  exact exists_congr fun body => body?_eq_some_iff.trans eq_comm

theorem ofMarker?_eq_none_iff_prefix :
    ofMarker? text = none ↔ ∀ kind : Kind, ¬ kind.marker.toList <+: text.toList := by
  rw [Option.eq_none_iff_forall_ne_some]
  exact forall_congr' fun kind => not_congr ofMarker?_eq_some_iff_prefix

theorem body?_marker_append (kind : Kind) (text : String) :
    kind.body? (kind.marker ++ text) = some text.toList := by
  rw [body?_eq_some_iff, String.toList_append]

end Kind

end EntityProps
