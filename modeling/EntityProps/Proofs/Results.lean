import Mathlib.Data.List.Forall2
import Mathlib.Data.List.TakeDrop

/-!
# Results and places

Computations that may fail are taken apart by what they give: one fact for each
way to put them together. A word in front of something else is told apart from it
(`span_append_of_head?`). A condition on the members of a list and their places
holds everywhere, or there is a first place where it does not
(`allAt_or_firstFailsAt`).
-/

namespace EntityProps

/-! ## Lists beside each other -/

section Beside

variable {α β : Type} {l : List α} {l' : List β}

theorem exists_forall₂_iff {R : α → β → Prop} :
    (∃ l', List.Forall₂ R l l') ↔ ∀ a ∈ l, ∃ b, R a b := by
  induction l with
  | nil => simp
  | cons a l ih =>
    constructor
    · rintro ⟨_, h⟩ x hx
      cases h with
      | @cons _ b _ l' hab h =>
      rcases List.mem_cons.mp hx with rfl | hx
      · exact ⟨b, hab⟩
      · exact ih.mp ⟨l', h⟩ x hx
    · intro h
      obtain ⟨b, hab⟩ := h a List.mem_cons_self
      obtain ⟨l', hl'⟩ := ih.mpr fun x hx => h x (List.mem_cons_of_mem a hx)
      exact ⟨b :: l', .cons hab hl'⟩

theorem exists_of_mem_forall₂ {R : α → β → Prop} (h : List.Forall₂ R l l') {b : β}
    (hb : b ∈ l') : ∃ a ∈ l, R a b := by
  induction h with
  | nil => exact absurd hb List.not_mem_nil
  | @cons a b' l l' hab _ ih =>
    rcases List.mem_cons.mp hb with rfl | hb
    · exact ⟨a, List.mem_cons_self, hab⟩
    · obtain ⟨a', ha', hR⟩ := ih hb
      exact ⟨a', List.mem_cons_of_mem a ha', hR⟩

/-- What members beside each other have in common is the same for both lists. -/
theorem map_eq_map_of_forall₂ {γ : Type} {R : α → β → Prop} {f : α → γ} {g : β → γ}
    (hfg : ∀ a b, R a b → f a = g b) (h : List.Forall₂ R l l') : l.map f = l'.map g := by
  rw [← List.forall₂_eq_eq_eq, List.forall₂_map_left_iff, List.forall₂_map_right_iff]
  exact h.imp hfg

/-- Let what stands beside a member go over to the members beside it. Then what stands
beside a list goes over to the list beside it. -/
theorem exists_forall₂_beside {α' β' : Type} {R : α → α' → Prop} {S : β → β' → Prop}
    {B : α → β → Prop} {C : α' → β' → Prop} {k : List α'}
    (hstep : ∀ a a' b, R a a' → B a b → ∃ b', C a' b' ∧ S b b')
    (h : List.Forall₂ R l k) (hb : List.Forall₂ B l l') :
    ∃ m, List.Forall₂ C k m ∧ List.Forall₂ S l' m := by
  induction h generalizing l' with
  | nil =>
    cases hb
    exact ⟨[], .nil, .nil⟩
  | @cons a a' l k haa' _ ih =>
    cases hb with
    | @cons _ b _ l' hab hb =>
    obtain ⟨b', hb', hS⟩ := hstep a a' b haa' hab
    obtain ⟨m, hkm, hlm⟩ := ih hb
    exact ⟨b' :: m, .cons hb' hkm, .cons hS hlm⟩

theorem forall₂_eq_iff_map_eq {f : β → α} :
    List.Forall₂ (fun a b => f b = a) l l' ↔ l'.map f = l := by
  simp only [eq_comm (b := (_ : α))]
  rw [← List.forall₂_map_right_iff, List.forall₂_eq_eq_eq, eq_comm]

end Beside

/-! ## Lists behind each other -/

/-- A word of members of a sort ends where something else follows. -/
theorem span_append_of_head? {α : Type} {p : α → Bool} {word rest : List α}
    (hword : ∀ a ∈ word, p a = true) (hrest : ∀ a ∈ rest.head?, p a = false) :
    (word ++ rest).span p = (word, rest) := by
  rw [List.span_eq_takeWhile_dropWhile, List.takeWhile_append_of_pos hword,
    List.dropWhile_append_of_pos hword]
  cases rest with
  | nil => simp
  | cons a rest => simp [hrest a rfl]

/-! ## Results -/

section Results

variable {ε α β : Type} {x : Except ε α}

theorem map_eq_ok_iff_exists {f : α → β} {b : β} :
    x.map f = .ok b ↔ ∃ a, x = .ok a ∧ f a = b := by
  cases x <;> simp [Except.map]

theorem map_eq_error_iff {f : α → β} {e : ε} : x.map f = .error e ↔ x = .error e := by
  cases x <;> simp [Except.map]

theorem mapError_eq_ok_iff {f : ε → β} {a : α} : x.mapError f = .ok a ↔ x = .ok a := by
  cases x <;> simp [Except.mapError]

theorem mapError_eq_error_iff {f : ε → β} {e : β} :
    x.mapError f = .error e ↔ ∃ e', x = .error e' ∧ f e' = e := by
  cases x <;> simp [Except.mapError]

theorem bind_eq_ok_iff_exists {f : α → Except ε β} {b : β} :
    (x >>= f) = .ok b ↔ ∃ a, x = .ok a ∧ f a = .ok b := by
  cases x <;> simp [bind, Except.bind]

theorem bind_eq_error_iff_or {f : α → Except ε β} {e : ε} :
    (x >>= f) = .error e ↔ x = .error e ∨ ∃ a, x = .ok a ∧ f a = .error e := by
  cases x <;> simp [bind, Except.bind]

theorem exists_ok_iff_forall_ne_error : (∃ a, x = .ok a) ↔ ∀ e, x ≠ .error e := by
  cases x <;> simp

/-- A traversal that may fail succeeds exactly with the results of its members. -/
theorem mapM_eq_ok_iff_forall₂ {f : α → Except ε β} {l : List α} {l' : List β} :
    l.mapM f = .ok l' ↔ List.Forall₂ (fun a b => f a = .ok b) l l' := by
  induction l generalizing l' with
  | nil => simp [pure, Except.pure, eq_comm]
  | cons a l ih =>
    simp only [List.mapM_cons, bind_eq_ok_iff_exists, ih, pure, Except.pure, Except.ok.injEq,
      List.forall₂_cons_left_iff, exists_and_left, eq_comm (a := l')]

theorem mapM_eq_some_iff_forall₂ {f : α → Option β} {l : List α} {l' : List β} :
    l.mapM f = some l' ↔ List.Forall₂ (fun a b => f a = some b) l l' := by
  induction l generalizing l' with
  | nil => simp [eq_comm]
  | cons a l ih =>
    simp only [List.mapM_cons, Option.bind_eq_bind, Option.bind_eq_some_iff, ih, pure,
      Option.some.injEq, List.forall₂_cons_left_iff, exists_and_left, eq_comm (a := l')]

theorem exists_mapM_eq_ok_iff {f : α → Except ε β} {l : List α} :
    (∃ l', l.mapM f = .ok l') ↔ ∀ a ∈ l, ∃ b, f a = .ok b := by
  simp only [mapM_eq_ok_iff_forall₂, exists_forall₂_iff]

/-- A traversal that may fail fails exactly with the error of the first member that has
one. -/
theorem mapM_eq_error_iff {f : α → Except ε β} {l : List α} {e : ε} :
    l.mapM f = .error e ↔
      ∃ before a after, l = before ++ a :: after ∧ (∀ b ∈ before, ∃ c, f b = .ok c) ∧
        f a = .error e := by
  induction l with
  | nil => simp [pure, Except.pure]
  | cons a l ih =>
    simp only [List.mapM_cons, bind_eq_error_iff_or, ih, pure, Except.pure, reduceCtorEq,
      and_false, exists_false, or_false]
    constructor
    · rintro (ha | ⟨c, ha, before, x, after, rfl, hbefore, hx⟩)
      · exact ⟨[], a, l, rfl, fun _ hb => absurd hb List.not_mem_nil, ha⟩
      · refine ⟨a :: before, x, after, rfl, ?_, hx⟩
        intro b hb
        rcases List.mem_cons.mp hb with rfl | hb
        · exact ⟨c, ha⟩
        · exact hbefore b hb
    · rintro ⟨before, x, after, hsplit, hbefore, hx⟩
      cases before with
      | nil =>
        obtain ⟨rfl, rfl⟩ := List.cons.inj hsplit
        exact Or.inl hx
      | cons b before =>
        obtain ⟨rfl, rfl⟩ := List.cons.inj hsplit
        obtain ⟨c, ha⟩ := hbefore a List.mem_cons_self
        exact Or.inr ⟨c, ha, before, x, after, rfl,
          fun b hb => hbefore b (List.mem_cons_of_mem a hb), hx⟩

theorem mapM_eq_none_iff {f : α → Option β} {l : List α} :
    l.mapM f = none ↔ ∃ a ∈ l, f a = none := by
  induction l with
  | nil => simp
  | cons a l ih =>
    rw [List.mapM_cons, List.exists_mem_cons_iff, ← ih]
    cases f a <;> cases l.mapM f <;> simp

/-- What every step of a fold keeps holds of its result. -/
theorem foldlM_induction {P : α → Prop} {f : α → β → Except ε α} {l : List β} {a a' : α}
    (hf : ∀ a b a', P a → f a b = .ok a' → P a') (ha : P a) (h : l.foldlM f a = .ok a') :
    P a' := by
  induction l generalizing a with
  | nil =>
    cases h
    exact ha
  | cons b l ih =>
    rw [List.foldlM_cons, bind_eq_ok_iff_exists] at h
    obtain ⟨a₁, hb, h⟩ := h
    exact ih (hf a b a₁ ha hb) h

end Results

/-! ## Places -/

/-- Every member of a list satisfies a condition at its place. -/
def AllAt {α : Type} (p : α → Nat → Bool) (l : List α) : Prop :=
  ∀ i a, l[i]? = some a → p a i = true

/-- A member at a place is the first that does not satisfy a condition there. -/
structure FirstFailsAt {α : Type} (p : α → Nat → Bool) (l : List α) (a : α) (i : Nat) : Prop where
  found : l[i]? = some a
  fails : p a i = false
  before : ∀ j < i, ∀ b, l[j]? = some b → p b j = true

section Places

variable {α : Type} {p : α → Nat → Bool} {l : List α}

theorem find?_not_eq_none_iff :
    (l.zipIdx.find? fun (a, i) => !p a i) = none ↔ AllAt p l := by
  simp only [List.find?_eq_none, Bool.not_eq_true', Bool.not_eq_false, Prod.forall,
    List.mk_mem_zipIdx_iff_getElem?]
  exact ⟨fun h i a => h a i, fun h a i => h i a⟩

theorem find?_not_eq_some_iff {a : α} {i : Nat} :
    (l.zipIdx.find? fun (a, i) => !p a i) = some (a, i) ↔ FirstFailsAt p l a i := by
  rw [List.find?_eq_some_iff_getElem]
  simp only [List.getElem_zipIdx, Prod.mk.injEq, List.length_zipIdx, Nat.zero_add,
    Bool.not_eq_true', Bool.not_not]
  constructor
  · rintro ⟨hp, k, hk, ⟨ha, rfl⟩, hbefore⟩
    refine ⟨by rw [List.getElem?_eq_getElem hk, ha], hp, ?_⟩
    intro j hj b hb
    obtain ⟨hjl, rfl⟩ := List.getElem?_eq_some_iff.mp hb
    exact hbefore j hj
  · rintro ⟨hfound, hp, hbefore⟩
    obtain ⟨hi, ha⟩ := List.getElem?_eq_some_iff.mp hfound
    refine ⟨hp, i, hi, ⟨ha, rfl⟩, ?_⟩
    intro j hj
    exact hbefore j hj _ (List.getElem?_eq_getElem (Nat.lt_trans hj hi))

/-- Either every place is as it should be, or there is a first one that is not. -/
theorem allAt_or_firstFailsAt (p : α → Nat → Bool) (l : List α) :
    AllAt p l ∨ ∃ a i, FirstFailsAt p l a i := by
  cases h : l.zipIdx.find? fun (a, i) => !p a i with
  | none => exact Or.inl (find?_not_eq_none_iff.mp h)
  | some x => exact Or.inr ⟨x.1, x.2, find?_not_eq_some_iff.mp h⟩

theorem FirstFailsAt.not_allAt {a : α} {i : Nat} (h : FirstFailsAt p l a i) : ¬ AllAt p l := by
  intro hall
  have := hall i a h.found
  rw [h.fails] at this
  cases this

/-- A condition that says of the place only that it is below a bound is a bound on
the length of the list. -/
theorem allAt_iff_length_le {bound : Option Nat} {fits : α → Prop}
    (hpoint : ∀ a i, p a i = true ↔ (∀ most, bound = some most → i < most) ∧ fits a) :
    AllAt p l ↔ (∀ most, bound = some most → l.length ≤ most) ∧ ∀ a ∈ l, fits a := by
  constructor
  · intro h
    constructor
    · -- If there were more, the one at the bound would not satisfy the condition.
      intro most hmost
      by_contra hlt
      have hget : l[most]? = some l[most] := List.getElem?_eq_getElem (by omega)
      exact absurd (((hpoint _ _).mp (h most _ hget)).1 most hmost) (Nat.lt_irrefl most)
    · intro a ha
      obtain ⟨i, hi⟩ := List.mem_iff_getElem?.mp ha
      exact ((hpoint a i).mp (h i a hi)).2
  · rintro ⟨hlength, hfits⟩ i a ha
    obtain ⟨hlt, -⟩ := List.getElem?_eq_some_iff.mp ha
    refine (hpoint a i).mpr ⟨?_, hfits a (List.mem_of_getElem? ha)⟩
    intro most hmost
    exact Nat.lt_of_lt_of_le hlt (hlength most hmost)

theorem allAt_singleton {a : α} : AllAt p [a] ↔ p a 0 = true := by
  constructor
  · intro h
    exact h 0 a rfl
  · intro h i b hb
    cases i with
    | zero => cases hb; exact h
    | succ i => simp at hb

end Places

end EntityProps
