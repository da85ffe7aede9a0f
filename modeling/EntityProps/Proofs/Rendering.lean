import EntityProps.Proofs.Results
import EntityProps.TokenGroup
import Mathlib.Data.Nat.Init

/-!
# Rendered token groups

A token group is rendered as its main token, followed, if it is complex, by its
sub-tokens between enclosers. The groups of a body stand one after another,
each before a property separator. The last separator may be left out, unless
nothing stands before it.

Reading accepts exactly the renderings of well-formed groups, and gives back
the groups that were rendered.

- Equations: what one step of reading does with a text that is cut at a
  delimiter (`readSubs_separator`, `readGroups_opening`, ...).
- `readGroups_of_renders`, `renders_of_readGroups`: the same for whole texts, the
  one by induction on the groups, the other on the text (`cut_induction`).
- `tokenGroups_eq_ok_iff_rendered`: the result for bodies.
-/

namespace EntityProps

/-- The characters of the tokens, in their order. -/
def TokenGroup.chars (t : TokenGroup) : List Char :=
  t.tokens.flatMap String.toList

namespace Grammar

variable {g : Grammar}

/-! ## Rendering -/

/-- Sub-tokens with separators between them, up to the close encloser. -/
def renderSubs (g : Grammar) (subs : List String) : List Char :=
  [g.subSeparator].intercalate (subs.map String.toList) ++ [g.closing]

/-- One group: its main token, and the sub-tokens of a complex group between
enclosers. -/
def renderGroup (g : Grammar) (t : TokenGroup) : List Char :=
  if t.isSimple then t.main.toList
  else t.main.toList ++ g.opening :: g.renderSubs t.subs

/-- The groups in a row, each before a property separator. -/
def render (g : Grammar) (ts : List TokenGroup) : List Char :=
  ts.flatMap fun t => g.renderGroup t ++ [g.separator]

/-- The text is a rendering of the groups, with the last separator or, where
something stands before it, without. -/
def Renders (g : Grammar) (ts : List TokenGroup) (text : List Char) : Prop :=
  text = g.render ts ∨
    (∃ t, ts.getLast? = some t ∧ g.renderGroup t ≠ []) ∧
      text = (g.render ts).dropLast

/-- No token holds a delimiter that would end it. -/
structure Delimited (g : Grammar) (t : TokenGroup) : Prop where
  main_free : ∀ c ∈ t.main.toList, c ≠ g.separator ∧ c ≠ g.opening
  subs_free : ∀ s ∈ t.subs, ∀ c ∈ s.toList, c ≠ g.subSeparator ∧ c ≠ g.closing

/-- No token holds an ignored character or a delimiter that would end it. -/
structure WellFormed (g : Grammar) (t : TokenGroup) : Prop
    extends g.Delimited t where
  kept : ∀ s ∈ t.tokens, ∀ c ∈ s.toList, c ∉ g.ignored

instance (ts : List TokenGroup) (text : List Char) : Decidable (g.Renders ts text) :=
  inferInstanceAs (Decidable (_ ∨ _))

theorem wellFormed_iff {t : TokenGroup} :
    g.WellFormed t ↔
      (t.main.toList.all fun c => c != g.separator && c != g.opening) = true ∧
      (t.subs.all fun s => s.toList.all fun c => c != g.subSeparator && c != g.closing) = true ∧
      (t.tokens.all fun s => s.toList.all fun c => !g.isIgnored c) = true := by
  simp only [List.all_eq_true, Bool.and_eq_true, bne_iff_ne, Bool.not_eq_true', isIgnored,
    List.contains_eq_mem, decide_eq_false_iff_not]
  constructor
  · rintro ⟨⟨hmain, hsubs⟩, hkept⟩
    exact ⟨hmain, hsubs, hkept⟩
  · rintro ⟨hmain, hsubs, hkept⟩
    exact ⟨⟨hmain, hsubs⟩, hkept⟩

instance (t : TokenGroup) : Decidable (g.WellFormed t) :=
  decidable_of_iff _ wellFormed_iff.symm

def isDelimiter (g : Grammar) (c : Char) : Bool :=
  c == g.separator || c == g.opening || c == g.closing || c == g.subSeparator

@[simp] theorem renderSubs_singleton (s : String) :
    g.renderSubs [s] = s.toList ++ [g.closing] := by
  simp [renderSubs]

@[simp] theorem renderSubs_cons_cons (s s' : String) (subs : List String) :
    g.renderSubs (s :: s' :: subs) =
      s.toList ++ g.subSeparator :: g.renderSubs (s' :: subs) := by
  simp [renderSubs]

@[simp] theorem renderGroup_simple (main : String) :
    g.renderGroup ⟨main, []⟩ = main.toList := rfl

@[simp] theorem renderGroup_complex (main s : String) (subs : List String) :
    g.renderGroup ⟨main, s :: subs⟩ =
      main.toList ++ g.opening :: g.renderSubs (s :: subs) := rfl

@[simp] theorem render_nil : g.render [] = [] := rfl

@[simp] theorem render_cons (t : TokenGroup) (ts : List TokenGroup) :
    g.render (t :: ts) = g.renderGroup t ++ g.separator :: g.render ts := by
  simp [render]

theorem render_ne_nil {ts : List TokenGroup} (h : ts ≠ []) : g.render ts ≠ [] := by
  cases ts with
  | nil => exact absurd rfl h
  | cons t ts => simp

@[simp] theorem renders_nil {text : List Char} : g.Renders [] text ↔ text = [] := by
  simp [Renders]

/-- A rendering of several groups is that of the first, which is the whole text
only if the separator after it was left out, and a rendering of the others. -/
theorem renders_cons {t : TokenGroup} {ts : List TokenGroup} {text : List Char} :
    g.Renders (t :: ts) text ↔
      (ts = [] ∧ g.renderGroup t ≠ [] ∧ text = g.renderGroup t) ∨
        ∃ rest, text = g.renderGroup t ++ g.separator :: rest ∧ g.Renders ts rest := by
  cases ts with
  | nil => simp [Renders, or_comm]
  | cons u us =>
    have hne : g.render (u :: us) ≠ [] := render_ne_nil (List.cons_ne_nil u us)
    have hdrop : (g.render (t :: u :: us)).dropLast =
        g.renderGroup t ++ g.separator :: (g.render (u :: us)).dropLast := by
      rw [render_cons, List.dropLast_append_cons, List.dropLast_cons_of_ne_nil hne]
    simp only [Renders, hdrop, List.getLast?_cons_cons, reduceCtorEq, false_and,
      false_or]
    rw [render_cons]
    constructor
    · rintro (rfl | ⟨hlast, rfl⟩)
      · exact ⟨_, rfl, Or.inl rfl⟩
      · exact ⟨_, rfl, Or.inr ⟨hlast, rfl⟩⟩
    · rintro ⟨rest, rfl, rfl | ⟨hlast, rfl⟩⟩
      · exact Or.inl rfl
      · exact Or.inr ⟨hlast, rfl⟩

/-- An empty group at the end shows only by the separator after it. -/
example : Grammar.standard.Renders [⟨"A", []⟩, ⟨"", []⟩] ['A', ',', ','] ∧
    ¬ Grammar.standard.Renders [⟨"A", []⟩, ⟨"", []⟩] ['A', ','] := by
  decide

/-! ## Equations of reading -/

/-- A cut comes back from its parts. -/
theorem cut?_append_cons {a b c : Char} {before : List Char} (after : List Char)
    (hc : c = a ∨ c = b) (h : ∀ d ∈ before, d ≠ a ∧ d ≠ b) :
    cut? a b (before ++ c :: after) = some ⟨before, c, after⟩ :=
  cut?_eq_some_iff.mpr ⟨rfl, hc, h⟩

theorem readSubs_unclosed {text : List Char}
    (h : ∀ c ∈ text, c ≠ g.subSeparator ∧ c ≠ g.closing) :
    g.readSubs text = .error .unclosed := by
  rw [readSubs]
  split
  · rfl
  · next k hk => rw [cut?_eq_none_iff.mpr h] at hk; cases hk

theorem readSubs_separator {sub : List Char} (rest : List Char)
    (h : ∀ c ∈ sub, c ≠ g.subSeparator ∧ c ≠ g.closing) :
    g.readSubs (sub ++ g.subSeparator :: rest) =
      (g.readSubs rest).map fun (subs, r) => (String.ofList sub :: subs, r) := by
  have hcut := cut?_append_cons rest (Or.inl rfl) h
  rw [readSubs]
  split
  · next hk => rw [hcut] at hk; cases hk
  · next k hk =>
    rw [hcut] at hk
    cases hk
    exact if_pos rfl

theorem readSubs_closing {sub : List Char} (rest : List Char)
    (h : ∀ c ∈ sub, c ≠ g.subSeparator ∧ c ≠ g.closing) :
    g.readSubs (sub ++ g.closing :: rest) =
      (g.afterGroup rest).map fun r => ([String.ofList sub], r) := by
  have hcut := cut?_append_cons rest (Or.inr rfl) h
  rw [readSubs]
  split
  · next hk => rw [hcut] at hk; cases hk
  · next k hk =>
    rw [hcut] at hk
    cases hk
    exact if_neg fun e => g.valid.subSeparator_ne_closing e.symm

theorem readGroups_plain {text : List Char}
    (h : ∀ c ∈ text, c ≠ g.separator ∧ c ≠ g.opening) :
    g.readGroups text =
      .ok (if text.isEmpty then [] else [⟨String.ofList text, []⟩]) := by
  rw [readGroups]
  split
  · rfl
  · next k hk => rw [cut?_eq_none_iff.mpr h] at hk; cases hk

theorem readGroups_separator {main : List Char} (rest : List Char)
    (h : ∀ c ∈ main, c ≠ g.separator ∧ c ≠ g.opening) :
    g.readGroups (main ++ g.separator :: rest) =
      (g.readGroups rest).map (⟨String.ofList main, []⟩ :: ·) := by
  have hcut := cut?_append_cons rest (Or.inl rfl) h
  rw [readGroups]
  split
  · next hk => rw [hcut] at hk; cases hk
  · next k hk =>
    rw [hcut] at hk
    cases hk
    exact if_pos rfl

theorem readGroups_opening {main : List Char} (rest : List Char)
    (h : ∀ c ∈ main, c ≠ g.separator ∧ c ≠ g.opening) :
    g.readGroups (main ++ g.opening :: rest) =
      g.readSubs rest >>= fun (subs, r) =>
        (g.readGroups r).map (⟨String.ofList main, subs⟩ :: ·) := by
  have hcut := cut?_append_cons rest (Or.inr rfl) h
  rw [readGroups]
  split
  · next hk => rw [hcut] at hk; cases hk
  · next k hk =>
    rw [hcut] at hk
    cases hk
    rw [if_neg fun e => g.valid.separator_ne_opening e.symm]
    split
    · next e he => rw [he]; rfl
    · next subs r hs => rw [hs]; rfl

/-- A text is free of two characters, or it is cut at the first of them. -/
theorem free_or_cut (a b : Char) (text : List Char) :
    (∀ c ∈ text, c ≠ a ∧ c ≠ b) ∨
      ∃ before after, (∀ c ∈ before, c ≠ a ∧ c ≠ b) ∧
        (text = before ++ a :: after ∨ text = before ++ b :: after) := by
  cases hk : cut? a b text with
  | none => exact Or.inl (cut?_eq_none_iff.mp hk)
  | some k =>
    obtain ⟨ht, hf, hb⟩ := cut?_eq_some_iff.mp hk
    refine Or.inr ⟨k.before, k.after, hb, ?_⟩
    rcases hf with hf | hf
    · exact Or.inl (hf ▸ ht)
    · exact Or.inr (hf ▸ ht)

/-- Induction on a text from its first delimiter on. What holds of all shorter
rests may be used, since a reader may go on after more than one delimiter. -/
theorem cut_induction (a b : Char) {motive : List Char → Prop}
    (free : ∀ text, (∀ c ∈ text, c ≠ a ∧ c ≠ b) → motive text)
    (first : ∀ before after, (∀ c ∈ before, c ≠ a ∧ c ≠ b) →
      (∀ rest, rest.length ≤ after.length → motive rest) → motive (before ++ a :: after))
    (second : ∀ before after, (∀ c ∈ before, c ≠ a ∧ c ≠ b) →
      (∀ rest, rest.length ≤ after.length → motive rest) → motive (before ++ b :: after))
    (text : List Char) : motive text := by
  induction hn : text.length using Nat.strong_induction_on generalizing text with
  | _ n ih =>
  subst hn
  rcases free_or_cut a b text with hfree | ⟨before, after, hfree, rfl | rfl⟩
  · exact free text hfree
  · exact first before after hfree fun rest hrest => ih _ (by simp; omega) rest rfl
  · exact second before after hfree fun rest hrest => ih _ (by simp; omega) rest rfl

theorem afterGroup_eq_ok_iff {text rest : List Char} :
    g.afterGroup text = .ok rest ↔
      (text = [] ∧ rest = []) ∨ text = g.separator :: rest := by
  cases text with
  | nil => simp [afterGroup, eq_comm]
  | cons c cs =>
    by_cases hc : c = g.separator
    · simp [afterGroup, hc]
    · simp [afterGroup, hc]

/-! ## Reading what was rendered -/

/-- Sub-tokens are read up to the close encloser that follows them. -/
theorem readSubs_renderSubs {s : String} {subs : List String} {after rest : List Char}
    (hfree : ∀ x ∈ s :: subs, ∀ c ∈ x.toList, c ≠ g.subSeparator ∧ c ≠ g.closing)
    (hafter : g.afterGroup after = .ok rest) :
    g.readSubs (g.renderSubs (s :: subs) ++ after) = .ok (s :: subs, rest) := by
  induction subs generalizing s with
  | nil =>
    have hs := hfree s List.mem_cons_self
    rw [renderSubs_singleton, List.append_assoc, List.singleton_append,
      readSubs_closing after hs, map_eq_ok_iff_exists]
    exact ⟨rest, hafter, by simp⟩
  | cons s' subs ih =>
    have hs := hfree s List.mem_cons_self
    have hrest := ih fun x hx => hfree x (List.mem_cons_of_mem s hx)
    rw [renderSubs_cons_cons, List.append_assoc, List.cons_append,
      readSubs_separator _ hs, map_eq_ok_iff_exists]
    exact ⟨_, hrest, by simp⟩

/-- What was read of sub-tokens stands before a close encloser and the rest. -/
theorem renderSubs_of_readSubs {text rest : List Char} {subs : List String}
    (h : g.readSubs text = .ok (subs, rest)) :
    subs ≠ [] ∧ (∀ x ∈ subs, ∀ c ∈ x.toList, c ≠ g.subSeparator ∧ c ≠ g.closing) ∧
      ∃ after, text = g.renderSubs subs ++ after ∧ g.afterGroup after = .ok rest := by
  induction text using cut_induction g.subSeparator g.closing generalizing subs with
  | free text hfree =>
    rw [readSubs_unclosed hfree] at h
    cases h
  | first sub after hfree ih =>
    -- A separator ends this sub-token, so another one was read after it.
    rw [readSubs_separator after hfree, map_eq_ok_iff_exists] at h
    obtain ⟨⟨subs', rest'⟩, hr, heq⟩ := h
    cases heq
    obtain ⟨hne, hsubs, tail, rfl, htail⟩ := ih after (Nat.le_refl _) hr
    refine ⟨List.cons_ne_nil _ _, ?_, tail, ?_, htail⟩
    · simpa using ⟨hfree, hsubs⟩
    · cases subs' with
      | nil => exact absurd rfl hne
      | cons s subs' => simp
  | second sub after hfree _ =>
    rw [readSubs_closing after hfree, map_eq_ok_iff_exists] at h
    obtain ⟨r, ha, heq⟩ := h
    cases heq
    refine ⟨List.cons_ne_nil _ _, ?_, after, ?_, ha⟩
    · simpa using hfree
    · simp

@[simp] theorem readGroups_nil : g.readGroups [] = .ok [] :=
  readGroups_plain fun _ hc => absurd hc List.not_mem_nil

/-- Groups without the delimiters that would end their tokens are read back from
each of their renderings. -/
theorem readGroups_of_renders {ts : List TokenGroup} {text : List Char}
    (hts : ∀ t ∈ ts, g.Delimited t) (h : g.Renders ts text) :
    g.readGroups text = .ok ts := by
  induction ts generalizing text with
  | nil =>
    rw [renders_nil.mp h]
    exact readGroups_nil
  | cons t ts ih =>
    obtain ⟨main, subs⟩ := t
    have ht := hts _ List.mem_cons_self
    have hrest : ∀ {rest}, g.Renders ts rest → g.readGroups rest = .ok ts :=
      ih fun u hu => hts u (List.mem_cons_of_mem _ hu)
    rcases renders_cons.mp h with ⟨rfl, hne, rfl⟩ | ⟨rest, rfl, hr⟩
    · cases subs with
      | nil =>
        rw [renderGroup_simple] at hne ⊢
        rw [readGroups_plain ht.main_free, if_neg (by simpa using hne), String.ofList_toList]
      | cons s subs =>
        have hsubs : g.readSubs (g.renderSubs (s :: subs) ++ []) = .ok (s :: subs, []) :=
          readSubs_renderSubs ht.subs_free rfl
        rw [List.append_nil] at hsubs
        rw [renderGroup_complex, readGroups_opening _ ht.main_free, bind_eq_ok_iff_exists]
        exact ⟨_, hsubs, map_eq_ok_iff_exists.mpr ⟨[], readGroups_nil, by simp⟩⟩
    · cases subs with
      | nil =>
        rw [renderGroup_simple, readGroups_separator rest ht.main_free, map_eq_ok_iff_exists]
        exact ⟨ts, hrest hr, by simp⟩
      | cons s subs =>
        have hsubs := readSubs_renderSubs ht.subs_free
          (afterGroup_eq_ok_iff.mpr (Or.inr (rfl : g.separator :: rest = _)))
        rw [renderGroup_complex, List.append_assoc, List.cons_append,
          readGroups_opening _ ht.main_free, bind_eq_ok_iff_exists]
        exact ⟨_, hsubs, map_eq_ok_iff_exists.mpr ⟨ts, hrest hr, by simp⟩⟩

/-- A text that is read as groups is one of their renderings. -/
theorem renders_of_readGroups {text : List Char} {ts : List TokenGroup}
    (h : g.readGroups text = .ok ts) :
    (∀ t ∈ ts, g.Delimited t) ∧ g.Renders ts text := by
  induction text using cut_induction g.separator g.opening generalizing ts with
  | free text hfree =>
    -- The last group has no separator after it. If it is empty, it is no group.
    rw [readGroups_plain hfree] at h
    cases text with
    | nil => cases h; simp
    | cons c cs =>
      cases h
      refine ⟨?_, renders_cons.mpr (Or.inl ⟨rfl, ?_, ?_⟩)⟩
      · intro t ht
        rw [List.mem_singleton.mp ht]
        exact ⟨by simpa using hfree, by simp⟩
      · simp
      · simp
  | first main after hfree ih =>
    rw [readGroups_separator after hfree, map_eq_ok_iff_exists] at h
    obtain ⟨us, hr, rfl⟩ := h
    obtain ⟨hus, hrender⟩ := ih after (Nat.le_refl _) hr
    refine ⟨?_, renders_cons.mpr (Or.inr ⟨after, by simp, hrender⟩)⟩
    rintro t (_ | ⟨_, ht⟩)
    · exact ⟨by simpa using hfree, by simp⟩
    · exact hus t ht
  | second main after hfree ih =>
    rw [readGroups_opening after hfree, bind_eq_ok_iff_exists] at h
    obtain ⟨⟨subs, r⟩, hs, hmap⟩ := h
    obtain ⟨us, hr, rfl⟩ := map_eq_ok_iff_exists.mp hmap
    obtain ⟨hus, hrender⟩ := ih r (Nat.le_of_lt (readSubs_length_lt hs)) hr
    obtain ⟨hne, hsubs, tail, rfl, htail⟩ := renderSubs_of_readSubs hs
    obtain ⟨s, subs, rfl⟩ := List.exists_cons_of_ne_nil hne
    constructor
    · rintro t (_ | ⟨_, ht⟩)
      · exact ⟨by simpa using hfree, hsubs⟩
      · exact hus t ht
    · -- The text ends with the group, or a separator follows it.
      rcases afterGroup_eq_ok_iff.mp htail with ⟨rfl, rfl⟩ | rfl
      · rw [readGroups_nil] at hr
        cases hr
        exact renders_cons.mpr (Or.inl ⟨rfl, by simp, by simp⟩)
      · exact renders_cons.mpr (Or.inr ⟨r, by simp, hrender⟩)

theorem readGroups_eq_ok_iff {text : List Char} {ts : List TokenGroup} :
    g.readGroups text = .ok ts ↔ (∀ t ∈ ts, g.Delimited t) ∧ g.Renders ts text :=
  ⟨renders_of_readGroups, fun h => readGroups_of_renders h.1 h.2⟩

/-! ## Errors of reading -/

theorem afterGroup_error {text : List Char} {e : ParseError}
    (h : g.afterGroup text = .error e) : e = .separatorMissing := by
  cases text with
  | nil => cases h
  | cons c cs =>
    by_cases hc : c = g.separator
    · simp [afterGroup, hc] at h
    · simpa [afterGroup, hc, eq_comm] using h

theorem readSubs_error {text : List Char} {e : ParseError}
    (h : g.readSubs text = .error e) : e = .unclosed ∨ e = .separatorMissing := by
  induction text using cut_induction g.subSeparator g.closing with
  | free text hfree =>
    rw [readSubs_unclosed hfree] at h
    cases h
    exact Or.inl rfl
  | first sub after hfree ih =>
    rw [readSubs_separator after hfree, map_eq_error_iff] at h
    exact ih after (Nat.le_refl _) h
  | second sub after hfree _ =>
    rw [readSubs_closing after hfree, map_eq_error_iff] at h
    exact Or.inr (afterGroup_error h)

/-- The text ends inside the enclosers, or something other than a separator
follows them. -/
theorem readGroups_error {text : List Char} {e : ParseError}
    (h : g.readGroups text = .error e) : e = .unclosed ∨ e = .separatorMissing := by
  induction text using cut_induction g.separator g.opening with
  | free text hfree =>
    rw [readGroups_plain hfree] at h
    cases h
  | first main after hfree ih =>
    rw [readGroups_separator after hfree, map_eq_error_iff] at h
    exact ih after (Nat.le_refl _) h
  | second main after hfree ih =>
    rw [readGroups_opening after hfree, bind_eq_error_iff_or] at h
    rcases h with hs | ⟨⟨subs, r⟩, hs, hmap⟩
    · exact readSubs_error hs
    · exact ih r (Nat.le_of_lt (readSubs_length_lt hs)) (map_eq_error_iff.mp hmap)

/-! ## What a rendering adds to the tokens -/

theorem flatten_sublist_intercalate (sep : List Char) (xs : List (List Char)) :
    xs.flatten.Sublist (sep.intercalate xs) := by
  induction xs with
  | nil => simp
  | cons x xs ih =>
    cases xs with
    | nil => simp
    | cons y ys =>
      rw [List.intercalate_cons_cons, List.flatten_cons, List.append_assoc]
      exact (ih.trans (List.sublist_append_right _ _)).append_left x

theorem filter_intercalate {p : Char → Bool} {sep : List Char} (hsep : sep.filter p = [])
    (xs : List (List Char)) : (sep.intercalate xs).filter p = xs.flatten.filter p := by
  induction xs with
  | nil => simp
  | cons x xs ih =>
    cases xs with
    | nil => simp
    | cons y ys =>
      rw [List.intercalate_cons_cons, List.flatten_cons, List.filter_append,
        List.filter_append, hsep, ih, List.append_nil, List.filter_append]

/-- The characters of the tokens stand in the rendering, in their order. -/
theorem chars_sublist_renderGroup (t : TokenGroup) : t.chars.Sublist (g.renderGroup t) := by
  obtain ⟨main, subs⟩ := t
  cases subs with
  | nil => simp [TokenGroup.chars, TokenGroup.tokens]
  | cons s subs =>
    have hsubs : ((s :: subs).map String.toList).flatten.Sublist (g.renderSubs (s :: subs)) :=
      (flatten_sublist_intercalate _ _).trans (List.sublist_append_left _ _)
    exact (hsubs.cons g.opening).append_left main.toList

/-- Nothing but delimiters is added to the characters of the tokens. -/
theorem filter_renderGroup (t : TokenGroup) :
    (g.renderGroup t).filter (!g.isDelimiter ·) = t.chars.filter (!g.isDelimiter ·) := by
  obtain ⟨main, subs⟩ := t
  cases subs with
  | nil => simp [TokenGroup.chars, TokenGroup.tokens]
  | cons s subs =>
    have hsep : [g.subSeparator].filter (!g.isDelimiter ·) = [] := by simp [isDelimiter]
    have hopen : g.isDelimiter g.opening = true := by simp [isDelimiter]
    have hclose : g.isDelimiter g.closing = true := by simp [isDelimiter]
    rw [renderGroup_complex, renderSubs, List.filter_append,
      List.filter_cons_of_neg (by simp [hopen]), List.filter_append, filter_intercalate hsep]
    simp [TokenGroup.chars, TokenGroup.tokens, hclose, List.flatMap_def]

theorem chars_sublist_of_renders {ts : List TokenGroup} {text : List Char}
    (h : g.Renders ts text) : (ts.flatMap TokenGroup.chars).Sublist text := by
  induction ts generalizing text with
  | nil => simp
  | cons t ts ih =>
    have ht := chars_sublist_renderGroup (g := g) t
    rcases renders_cons.mp h with ⟨rfl, -, rfl⟩ | ⟨rest, rfl, hr⟩
    · simpa using ht
    · exact ht.append ((ih hr).cons g.separator)

theorem filter_of_renders {ts : List TokenGroup} {text : List Char}
    (h : g.Renders ts text) :
    text.filter (!g.isDelimiter ·) =
      (ts.flatMap TokenGroup.chars).filter (!g.isDelimiter ·) := by
  induction ts generalizing text with
  | nil => rw [renders_nil.mp h]; rfl
  | cons t ts ih =>
    have hsep : g.isDelimiter g.separator = true := by simp [isDelimiter]
    rw [List.flatMap_cons, List.filter_append, ← filter_renderGroup]
    rcases renders_cons.mp h with ⟨rfl, -, rfl⟩ | ⟨rest, rfl, hr⟩
    · simp
    · rw [List.filter_append, List.filter_cons_of_neg (by simp [hsep]), ih hr]

/-- An open encloser stands in the renderings of complex groups only. -/
theorem isSimple_iff_opening_not_mem {t : TokenGroup} (ht : g.Delimited t) :
    t.isSimple = true ↔ g.opening ∉ g.renderGroup t := by
  obtain ⟨main, subs⟩ := t
  cases subs with
  | nil =>
    have hmain : g.opening ∉ main.toList := fun hc => (ht.main_free _ hc).2 rfl
    simpa [TokenGroup.isSimple] using hmain
  | cons s subs => simp [TokenGroup.isSimple]

/-! ## Bodies -/

theorem mem_strip {text : List Char} {c : Char} :
    c ∈ g.strip text ↔ c ∈ text ∧ c ∉ g.ignored := by
  simp [strip, isIgnored]

theorem strip_append (a b : List Char) : g.strip (a ++ b) = g.strip a ++ g.strip b := by
  simp [strip]

theorem strip_eq_self {text : List Char} (h : ∀ c ∈ text, c ∉ g.ignored) :
    g.strip text = text := by
  rw [strip, List.filter_eq_self]
  intro c hc
  simpa [isIgnored] using h c hc

theorem not_mem_ignored_of_isDelimiter {c : Char} (h : g.isDelimiter c = true) :
    c ∉ g.ignored := by
  simp only [isDelimiter, Bool.or_eq_true, beq_iff_eq] at h
  rcases h with ((rfl | rfl) | rfl) | rfl
  · exact g.valid.separator_kept
  · exact g.valid.opening_kept
  · exact g.valid.closing_kept
  · exact g.valid.subSeparator_kept

/-- A rendering of well-formed groups has no ignored character. -/
theorem not_mem_ignored_of_renders {ts : List TokenGroup} {text : List Char} {c : Char}
    (hts : ∀ t ∈ ts, g.WellFormed t) (h : g.Renders ts text) (hc : c ∈ text) :
    c ∉ g.ignored := by
  cases hd : g.isDelimiter c with
  | true => exact not_mem_ignored_of_isDelimiter hd
  | false =>
    have hmem : c ∈ text.filter (!g.isDelimiter ·) := by simp [hc, hd]
    rw [filter_of_renders h, List.mem_filter, List.mem_flatMap] at hmem
    obtain ⟨⟨t, ht, hct⟩, -⟩ := hmem
    obtain ⟨s, hs, hcs⟩ := List.mem_flatMap.mp hct
    exact (hts t ht).kept s hs c hcs

/-- Tokens of a stripped text have no ignored character. -/
theorem wellFormed_of_renders_strip {ts : List TokenGroup} {body : List Char}
    (hts : ∀ t ∈ ts, g.Delimited t) (h : g.Renders ts (g.strip body)) :
    ∀ t ∈ ts, g.WellFormed t := by
  intro t ht
  refine { hts t ht with kept := ?_ }
  intro s hs c hc
  have hchars : c ∈ ts.flatMap TokenGroup.chars :=
    List.mem_flatMap.mpr ⟨t, ht, List.mem_flatMap.mpr ⟨s, hs, hc⟩⟩
  exact (mem_strip.mp ((chars_sublist_of_renders h).subset hchars)).2

theorem tokenGroups_eq_ok_iff {body : List Char} {ts : List TokenGroup} :
    g.tokenGroups body = .ok ts ↔
      (∀ t ∈ ts, g.WellFormed t) ∧ g.Renders ts (g.strip body) := by
  rw [tokenGroups, readGroups_eq_ok_iff]
  constructor
  · rintro ⟨hts, h⟩
    exact ⟨wellFormed_of_renders_strip hts h, h⟩
  · rintro ⟨hts, h⟩
    exact ⟨fun t ht => (hts t ht).toDelimited, h⟩

/-- A rendering of well-formed groups is a body with these groups. -/
theorem tokenGroups_of_renders {ts : List TokenGroup} {text : List Char}
    (hts : ∀ t ∈ ts, g.WellFormed t) (h : g.Renders ts text) :
    g.tokenGroups text = .ok ts := by
  rw [tokenGroups_eq_ok_iff, strip_eq_self fun c hc => not_mem_ignored_of_renders hts h hc]
  exact ⟨hts, h⟩

/-- **Reading undoes rendering.** The groups of a body are exactly the
well-formed groups that its stripped text renders. So no character is lost but
ignored ones and delimiters, a group is simple exactly if it has no open
encloser, and well-formed groups are read back from their rendering. -/
theorem tokenGroups_eq_ok_iff_rendered (g : Grammar) (body : List Char)
    (ts : List TokenGroup) :
    (g.tokenGroups body = .ok ts ↔
      (∀ t ∈ ts, g.WellFormed t) ∧
        (g.strip body = g.render ts ∨
          (∃ t, ts.getLast? = some t ∧ g.renderGroup t ≠ []) ∧
            g.strip body = (g.render ts).dropLast)) ∧
    (g.tokenGroups body = .ok ts →
      (g.strip body).filter (!g.isDelimiter ·) =
          (ts.flatMap TokenGroup.chars).filter (!g.isDelimiter ·) ∧
        ∀ t ∈ ts, t.isSimple = true ↔ g.opening ∉ g.renderGroup t) ∧
    ((∀ t ∈ ts, g.WellFormed t) → g.tokenGroups (g.render ts) = .ok ts) := by
  refine ⟨tokenGroups_eq_ok_iff, ?_, fun hts => tokenGroups_of_renders hts (Or.inl rfl)⟩
  intro h
  obtain ⟨hts, hrender⟩ := tokenGroups_eq_ok_iff.mp h
  exact ⟨filter_of_renders hrender,
    fun t ht => isSimple_iff_opening_not_mem (hts t ht).toDelimited⟩

end Grammar

end EntityProps
