import EntityProps.Proofs.Rendering
import EntityProps.Proofs.Settings
import Mathlib.Logic.Equiv.Basic

/-!
# Renamed characters

No character means anything to the reader unless the settings say so. If every
character, those of the settings included, gets another name and no two of them the
same, the settings still go together, and a body is read as the renamed tokens of what
it was before, or with the same error.

- `GrammarSpec.Valid.rename`, `GrammarSpec.distinct_rename`: settings under renaming.
- `Grammar.Renames`: a grammar has the renamed characters of another. Each step of
  reading takes this relation as it is (`readSubs_map`, `readGroups_map`).
- `Grammar.tokenGroups_rename`: the result for settings and bodies.
-/

namespace EntityProps

variable {f : Char → Char}

/-! ## Renaming -/

/-- The token group with its characters renamed. -/
def TokenGroup.rename (f : Char → Char) (t : TokenGroup) : TokenGroup where
  main := t.main.map f
  subs := t.subs.map (·.map f)

/-- The same settings for renamed characters. -/
def GrammarSpec.rename (f : Char → Char) (g : GrammarSpec) : GrammarSpec where
  separator := f g.separator
  opening := f g.opening
  closing := f g.closing
  subSeparator := f g.subSeparator
  ignored := g.ignored.map f

theorem map_ofList (f : Char → Char) (text : List Char) :
    (String.ofList text).map f = String.ofList (text.map f) := by
  rw [← String.toList_inj, String.toList_map, String.toList_ofList, String.toList_ofList]

/-- Characters that went together do so under other names. -/
theorem GrammarSpec.Valid.rename {g : GrammarSpec} (hf : Function.Injective f) (h : g.Valid) :
    (g.rename f).Valid where
  separator_ne_opening := hf.ne h.separator_ne_opening
  separator_ne_closing := hf.ne h.separator_ne_closing
  opening_ne_closing := hf.ne h.opening_ne_closing
  subSeparator_ne_opening := hf.ne h.subSeparator_ne_opening
  subSeparator_ne_closing := hf.ne h.subSeparator_ne_closing
  separator_kept := by simpa [GrammarSpec.rename, hf.eq_iff] using h.separator_kept
  opening_kept := by simpa [GrammarSpec.rename, hf.eq_iff] using h.opening_kept
  closing_kept := by simpa [GrammarSpec.rename, hf.eq_iff] using h.closing_kept
  subSeparator_kept := by simpa [GrammarSpec.rename, hf.eq_iff] using h.subSeparator_kept

/-- Repeats stay repeats, and nothing else becomes one. -/
theorem eraseDups_map (hf : Function.Injective f) (l : List Char) :
    (l.map f).eraseDups = l.eraseDups.map f := by
  induction l using eraseDups_induction with
  | nil => rfl
  | cons c l ih =>
    have hrest : (l.map f).filter (fun d => !d == f c) = (l.filter fun d => !d == c).map f := by
      rw [List.filter_map]
      congr 1
      apply List.filter_congr
      intro d _
      simp [hf.eq_iff]
    rw [List.map_cons, List.eraseDups_cons, hrest, ih, List.eraseDups_cons, List.map_cons]

theorem GrammarSpec.distinct_rename (hf : Function.Injective f) (g : GrammarSpec) :
    (g.rename f).distinct = g.distinct.rename f := by
  simp only [distinct, rename, eraseDups_map hf]

namespace Grammar

/-- The characters of the one grammar are those of the other, renamed. -/
structure Renames (f : Char → Char) (g g' : Grammar) : Prop where
  separator_eq : g'.separator = f g.separator
  opening_eq : g'.opening = f g.opening
  closing_eq : g'.closing = f g.closing
  subSeparator_eq : g'.subSeparator = f g.subSeparator
  mem_ignored_iff : ∀ c, f c ∈ g'.ignored ↔ c ∈ g.ignored

/-! ## Reading renamed text -/

theorem map_free {a b : Char} {text : List Char} (hf : Function.Injective f)
    (h : ∀ c ∈ text, c ≠ a ∧ c ≠ b) : ∀ c ∈ text.map f, c ≠ f a ∧ c ≠ f b := by
  intro c hc
  obtain ⟨d, hd, rfl⟩ := List.mem_map.mp hc
  obtain ⟨ha, hb⟩ := h d hd
  exact ⟨hf.ne ha, hf.ne hb⟩

variable {g g' : Grammar}

theorem Renames.main_free (h : Renames f g g') (hf : Function.Injective f) {main : List Char}
    (hfree : ∀ c ∈ main, c ≠ g.separator ∧ c ≠ g.opening) :
    ∀ c ∈ main.map f, c ≠ g'.separator ∧ c ≠ g'.opening := by
  rw [h.separator_eq, h.opening_eq]
  exact map_free hf hfree

theorem Renames.sub_free (h : Renames f g g') (hf : Function.Injective f) {sub : List Char}
    (hfree : ∀ c ∈ sub, c ≠ g.subSeparator ∧ c ≠ g.closing) :
    ∀ c ∈ sub.map f, c ≠ g'.subSeparator ∧ c ≠ g'.closing := by
  rw [h.subSeparator_eq, h.closing_eq]
  exact map_free hf hfree

theorem afterGroup_map (hf : Function.Injective f) (h : Renames f g g') (text : List Char) :
    g'.afterGroup (text.map f) = (g.afterGroup text).map (·.map f) := by
  cases text with
  | nil => rfl
  | cons c rest =>
    rw [List.map_cons, afterGroup, afterGroup, h.separator_eq]
    by_cases hc : c = g.separator
    · rw [if_pos (congrArg f hc), if_pos hc]
      rfl
    · rw [if_neg (hf.ne hc), if_neg hc]
      rfl

/-- Sub-tokens are read up to the same place. -/
theorem readSubs_map (hf : Function.Injective f) (h : Renames f g g') (text : List Char) :
    g'.readSubs (text.map f) =
      (g.readSubs text).map fun p => (p.1.map (·.map f), p.2.map f) := by
  induction text using cut_induction g.subSeparator g.closing with
  | free text hfree =>
    have hfree' := h.sub_free hf hfree
    rw [readSubs_unclosed hfree, readSubs_unclosed hfree']
    rfl
  | first sub rest hfree ih =>
    have hfree' := h.sub_free hf hfree
    rw [List.map_append, List.map_cons, ← h.subSeparator_eq, readSubs_separator rest hfree,
      readSubs_separator _ hfree', ih rest (Nat.le_refl _)]
    cases g.readSubs rest with
    | error e => rfl
    | ok p => simp [Except.map, map_ofList]
  | second sub rest hfree _ =>
    have hfree' := h.sub_free hf hfree
    rw [List.map_append, List.map_cons, ← h.closing_eq, readSubs_closing rest hfree,
      readSubs_closing _ hfree', afterGroup_map hf h]
    cases g.afterGroup rest with
    | error e => rfl
    | ok rest => simp [Except.map, map_ofList]

/-- Groups are read alike, one after the other. -/
theorem readGroups_map (hf : Function.Injective f) (h : Renames f g g') (text : List Char) :
    g'.readGroups (text.map f) = (g.readGroups text).map (·.map (TokenGroup.rename f)) := by
  induction text using cut_induction g.separator g.opening with
  | free text hfree =>
    have hfree' := h.main_free hf hfree
    rw [readGroups_plain hfree, readGroups_plain hfree']
    cases text with
    | nil => rfl
    | cons c cs =>
      have hmain : TokenGroup.rename f ⟨String.ofList (c :: cs), []⟩ =
          ⟨String.ofList ((c :: cs).map f), []⟩ := by
        rw [TokenGroup.rename, map_ofList, List.map_nil]
      exact congrArg (fun t => Except.ok [t]) hmain.symm
  | first main rest hfree ih =>
    have hfree' := h.main_free hf hfree
    rw [List.map_append, List.map_cons, ← h.separator_eq, readGroups_separator rest hfree,
      readGroups_separator _ hfree', ih rest (Nat.le_refl _)]
    cases g.readGroups rest with
    | error e => rfl
    | ok ts => simp [Except.map, TokenGroup.rename, map_ofList]
  | second main rest hfree ih =>
    have hfree' := h.main_free hf hfree
    rw [List.map_append, List.map_cons, ← h.opening_eq, readGroups_opening rest hfree,
      readGroups_opening _ hfree', readSubs_map hf h]
    cases hsubs : g.readSubs rest with
    | error e => rfl
    | ok p =>
      -- The rest after the close encloser is shorter, so it is read alike.
      have hrest := ih p.2 (Nat.le_of_lt (readSubs_length_lt hsubs))
      simp only [Except.map, bind, Except.bind, hrest]
      cases g.readGroups p.2 with
      | error e => rfl
      | ok ts => simp [TokenGroup.rename, map_ofList]

theorem strip_map (h : Renames f g g') (text : List Char) :
    g'.strip (text.map f) = (g.strip text).map f := by
  rw [strip, strip, List.filter_map]
  congr 1
  apply List.filter_congr
  intro c _
  simp [isIgnored, h.mem_ignored_iff]

theorem tokenGroups_map (hf : Function.Injective f) (h : Renames f g g') (body : List Char) :
    g'.tokenGroups (body.map f) = (g.tokenGroups body).map (·.map (TokenGroup.rename f)) := by
  rw [tokenGroups, strip_map h, readGroups_map hf h, tokenGroups]

/-- The settings for renamed characters give the renamed grammar. -/
theorem exists_ofSpec_rename (hf : Function.Injective f) (g : Grammar) :
    ∃ g', ofSpec (g.toGrammarSpec.rename f) = .ok g' ∧
      g'.toGrammarSpec = g.toGrammarSpec.distinct.rename f ∧ Renames f g g' := by
  have hvalid : (g.toGrammarSpec.distinct.rename f).Valid := g.valid.distinct.rename hf
  refine ⟨⟨_, hvalid⟩, ofSpec_eq_ok_iff.mpr (g.toGrammarSpec.distinct_rename hf).symm, rfl, ?_⟩
  exact {
    separator_eq := rfl
    opening_eq := rfl
    closing_eq := rfl
    subSeparator_eq := rfl
    mem_ignored_iff := by
      intro c
      simp [GrammarSpec.rename, GrammarSpec.distinct, hf.eq_iff] }

/-- **The grammar is parametric in its characters.** Let the characters of a grammar be
renamed, no two of them to the same. The renamed settings are accepted, and with them
the renamed body is read as the renamed tokens of the body, or with the same error. -/
theorem tokenGroups_rename (g : Grammar) {f : Char → Char} (hf : Function.Injective f) :
    ∃ g', ofSpec (g.toGrammarSpec.rename f) = .ok g' ∧
      g'.toGrammarSpec = g.toGrammarSpec.distinct.rename f ∧
      ∀ body, g'.tokenGroups (body.map f) =
        (g.tokenGroups body).map fun ts => ts.map (TokenGroup.rename f) := by
  obtain ⟨g', hspec, heq, hrenames⟩ := exists_ofSpec_rename hf g
  exact ⟨g', hspec, heq, tokenGroups_map hf hrenames⟩

/-- An arrow in place of the comma, and the comma in place of the arrow. -/
theorem tokenGroups_rename_arrow :
    ∃ g', ofSpec { separator := '→', subSeparator := '→' } = .ok g' ∧
      g'.tokenGroups "Pair(x → y)→A,".toList = .ok [⟨"Pair", ["x", "y"]⟩, ⟨"A,", []⟩] := by
  obtain ⟨g', hspec, -, hread⟩ := tokenGroups_rename standard (Equiv.swap ',' '→').injective
  have hstandard : standard.tokenGroups "Pair(x , y),A→".toList =
      .ok [⟨"Pair", ["x", "y"]⟩, ⟨"A→", []⟩] :=
    tokenGroups_eq_ok_iff.mpr ⟨by decide, by decide⟩
  have hbody : "Pair(x , y),A→".toList.map (Equiv.swap ',' '→') = "Pair(x → y)→A,".toList := by
    decide
  have hgroups : [⟨"Pair", ["x", "y"]⟩, ⟨"A→", []⟩].map (TokenGroup.rename (Equiv.swap ',' '→')) =
      [⟨"Pair", ["x", "y"]⟩, ⟨"A,", []⟩] := by decide +kernel
  refine ⟨g', hspec, ?_⟩
  rw [← hbody, hread, hstandard, ← hgroups]
  rfl

end Grammar

end EntityProps
