import EntityProps.Pattern.Reader

/-!
# Reading a pattern with a bracket behind it

A pattern is put between anchors as text, so a bracket and an anchor stand behind it. The
readers take from it what they take from the pattern alone: what they read is decided before
the bracket, and no reader waits for one. There is one exception. A comment lasts to the end
of its line, and if that is the end of the pattern, it takes the bracket with it.

- `Continued`: the text that is left of the pattern, beside what is left of the longer text.
- `Reader.step_continued`: a step that can be made on the pattern can be made on the longer
  text, and leads to the same state.
-/

namespace EntityProps.Pattern

/-- What is put behind a pattern: the bracket that closes the group, and the last anchor. -/
def closer : List Char := [')', '$']

/-- The second text is what is left of a longer text when the first is left of the pattern.
The closer stands behind it, or a comment at the end of the pattern took the closer. -/
inductive Continued : List Char → List Char → Prop
  | behind (text : List Char) : Continued text (text ++ closer)
  | taken : Continued [] []

namespace Continued

variable {spaced : Bool} {c : Char} {text text' rest rest' : List Char} {p : Char → Bool}

theorem of_nil (h : Continued [] text') : text' = closer ∨ text' = [] := by
  cases h with
  | behind => exact Or.inl rfl
  | taken => exact Or.inr rfl

theorem of_cons (h : Continued (c :: rest) text') :
    ∃ rest', text' = c :: rest' ∧ Continued rest rest' := by
  cases h with
  | behind => exact ⟨rest ++ closer, rfl, .behind rest⟩

/-- A character that is no close bracket stands in the pattern. -/
theorem of_cons_right (hc : c ≠ ')') (h : Continued text (c :: rest')) :
    ∃ rest, text = c :: rest ∧ Continued rest rest' := by
  cases text with
  | nil =>
    rcases h.of_nil with hnil | hnil
    · exact absurd (List.cons.inj hnil).1 hc
    · cases hnil
  | cons d rest =>
    obtain ⟨rest'', heq, hrest⟩ := h.of_cons
    obtain ⟨rfl, rfl⟩ := List.cons.inj heq
    exact ⟨rest, rfl, hrest⟩

/-- A text that does not start with a character does not with the closer behind it. -/
theorem ne_cons (hc : c ≠ ')') (h : Continued text text') (hno : ∀ t, text ≠ c :: t)
    (t' : List Char) : text' ≠ c :: t' := by
  intro ht'
  rw [ht'] at h
  obtain ⟨t, ht, -⟩ := h.of_cons_right hc
  exact hno t ht

/-- What starts both texts is the same, unless it starts the closer. -/
theorem head?_eq_some_iff (hc : c ≠ ')') (h : Continued text text') :
    text'.head? = some c ↔ text.head? = some c := by
  rw [List.head?_eq_some_iff, List.head?_eq_some_iff]
  constructor
  · rintro ⟨rest', rfl⟩
    obtain ⟨rest, rfl, -⟩ := h.of_cons_right hc
    exact ⟨rest, rfl⟩
  · rintro ⟨rest, rfl⟩
    obtain ⟨rest', rfl, -⟩ := h.of_cons
    exact ⟨rest', rfl⟩

/-! ## White space -/

theorem dropSpace (inComment : Bool) (h : Continued text text') :
    Continued (dropSpace inComment text) (dropSpace inComment text') := by
  cases h with
  | taken => cases inComment <;> exact .taken
  | behind =>
    fun_induction Pattern.dropSpace inComment text with
    | case1 inComment =>
      cases inComment with
      | false => exact .behind []
      | true => exact .taken
    | case2 c rest ih => exact ih
    | case3 c rest hblank ih =>
      rw [List.cons_append, Pattern.dropSpace, if_pos hblank]
      exact ih
    | case4 rest hblank ih =>
      rw [List.cons_append, Pattern.dropSpace, if_neg hblank, if_pos rfl]
      exact ih
    | case5 c rest hblank hhash =>
      rw [List.cons_append, Pattern.dropSpace, if_neg hblank, if_neg hhash]
      exact .behind (c :: rest)

theorem skipSpace (spaced : Bool) (h : Continued text text') :
    Continued (skipSpace spaced text) (skipSpace spaced text') := by
  cases spaced with
  | false => exact h
  | true => exact h.dropSpace false

theorem skipSpace_closer (spaced : Bool) : Pattern.skipSpace spaced closer = closer := by
  cases spaced <;> rfl

theorem skipSpace_cons (h : Continued text text')
    (hs : Pattern.skipSpace spaced text = c :: rest) :
    ∃ rest', Pattern.skipSpace spaced text' = c :: rest' ∧ Continued rest rest' := by
  have hskip := h.skipSpace spaced
  rw [hs] at hskip
  exact hskip.of_cons

/-- Characters are skipped up to the same place, if the closer is skipped as a whole or not
at all. -/
theorem dropWhile (hp : closer.dropWhile p = closer ∨ closer.dropWhile p = [])
    (h : Continued text text') : Continued (text.dropWhile p) (text'.dropWhile p) := by
  cases h with
  | taken => exact .taken
  | behind =>
    induction text with
    | nil =>
      rw [List.nil_append, List.dropWhile_nil]
      rcases hp with hp | hp
      · rw [hp]
        exact .behind []
      · rw [hp]
        exact .taken
    | cons c rest ih =>
      rw [List.cons_append, List.dropWhile_cons, List.dropWhile_cons]
      split
      · exact ih
      · exact .behind (c :: rest)

/-- What is skipped is the same, if something of the pattern is left. -/
theorem takeWhile_eq (h : Continued text text') (hleft : text.dropWhile p ≠ []) :
    text'.takeWhile p = text.takeWhile p := by
  cases h with
  | taken => exact absurd rfl hleft
  | behind =>
    induction text with
    | nil => exact absurd rfl hleft
    | cons c rest ih =>
      rw [List.dropWhile_cons] at hleft
      rw [List.cons_append, List.takeWhile_cons, List.takeWhile_cons]
      split
      · next hc =>
        rw [if_pos hc] at hleft
        rw [ih hleft]
      · rfl

end Continued

/-- What is made of something that was read before leaves the text as it is. -/
theorem map_continued {α β : Type} {o : Option α} {f : α → β} {b : β}
    {text text' rest : List Char} (h : Continued text text')
    (hx : (o.map fun a => (f a, text)) = some (b, rest)) :
    ∃ rest', (o.map fun a => (f a, text')) = some (b, rest') ∧ Continued rest rest' := by
  obtain ⟨a, ha, hx⟩ := Option.map_eq_some_iff.mp hx
  cases hx
  refine ⟨text', ?_, h⟩
  rw [ha]
  rfl

/-! ## Escapes -/

section Escapes

variable {spaced negated : Bool} {flags : Flags} {e : Escape} {n : Nat}
  {text text' rest : List Char}

theorem readHexDigits_continued {count acc : Nat} (h : Continued text text')
    (hx : readHexDigits spaced count acc text = some (n, rest)) :
    ∃ rest', readHexDigits spaced count acc text' = some (n, rest') ∧ Continued rest rest' := by
  induction count generalizing acc text text' with
  | zero =>
    cases hx
    exact ⟨text', rfl, h⟩
  | succ count ih =>
    rw [readHexDigits] at hx
    split at hx
    · cases hx
    · next c cs hs =>
      obtain ⟨v, hv, hx⟩ := Option.bind_eq_some_iff.mp hx
      obtain ⟨cs', hs', hcs⟩ := h.skipSpace_cons hs
      obtain ⟨rest', hx', hrest⟩ := ih hcs hx
      refine ⟨rest', ?_, hrest⟩
      rw [readHexDigits, hs']
      exact Option.bind_eq_some_iff.mpr ⟨v, hv, hx'⟩

theorem readHexBraced_continued {acc : Option Nat} (h : Continued text text')
    (hx : readHexBraced spaced acc text = some (n, rest)) :
    ∃ rest', readHexBraced spaced acc text' = some (n, rest') ∧ Continued rest rest' := by
  fun_induction readHexBraced spaced acc text generalizing text' with
  | case1 | case3 => cases hx
  | case2 acc text cs hs =>
    obtain ⟨m, hm, hx⟩ := Option.map_eq_some_iff.mp hx
    cases hx
    obtain ⟨cs', hs', hcs⟩ := h.skipSpace_cons hs
    refine ⟨cs', ?_, hcs⟩
    rw [readHexBraced, hs', hm]
    rfl
  | case4 acc text c cs hs hc v hv ih =>
    obtain ⟨cs', hs', hcs⟩ := h.skipSpace_cons hs
    obtain ⟨rest', hx', hrest⟩ := ih hcs hx
    refine ⟨rest', ?_, hrest⟩
    rw [readHexBraced, hs']
    simp only [if_neg hc, hv]
    exact hx'

theorem readNumbered_continued {letter : Char} (h : Continued text text')
    (hx : readNumbered spaced letter text = some (e, rest)) :
    ∃ rest', readNumbered spaced letter text' = some (e, rest') ∧ Continued rest rest' := by
  have hskip := h.skipSpace spaced
  simp only [readNumbered] at hx ⊢
  split at hx
  · next cs hs =>
    rw [hs] at hskip
    obtain ⟨cs', hs', hcs⟩ := hskip.of_cons
    obtain ⟨⟨n, r⟩, hn, hx⟩ := Option.bind_eq_some_iff.mp hx
    obtain ⟨c, hc, hx⟩ := Option.bind_eq_some_iff.mp hx
    cases hx
    obtain ⟨rest', hn', hrest⟩ := readHexBraced_continued hcs hn
    refine ⟨rest', ?_, hrest⟩
    rw [hs']
    simp [hn', hc]
  · next hbrace =>
    obtain ⟨⟨n, r⟩, hn, hx⟩ := Option.bind_eq_some_iff.mp hx
    obtain ⟨c, hc, hx⟩ := Option.bind_eq_some_iff.mp hx
    cases hx
    obtain ⟨rest', hn', hrest⟩ := readHexDigits_continued hskip hn
    refine ⟨rest', ?_, hrest⟩
    split
    · next cs' hs' => exact absurd hs' (hskip.ne_cons (by decide) hbrace cs')
    · simp [hn', hc]

theorem takeBoundaryName_continued (spaced : Bool) (h : Continued text text') :
    (takeBoundaryName spaced text').1 = (takeBoundaryName spaced text).1 ∧
      Continued (takeBoundaryName spaced text).2 (takeBoundaryName spaced text').2 := by
  fun_induction takeBoundaryName spaced text generalizing text' with
  | case1 text hs =>
    have hskip := h.skipSpace spaced
    rw [hs] at hskip
    rw [takeBoundaryName]
    rcases hskip.of_nil with hs' | hs'
    · rw [hs']
      exact ⟨rfl, .behind []⟩
    · rw [hs']
      exact ⟨rfl, .taken⟩
  | case2 text c cs hs hc name r hn ih =>
    obtain ⟨cs', hs', hcs⟩ := h.skipSpace_cons hs
    obtain ⟨hname, hrest⟩ := ih hcs
    rw [hn] at hname hrest
    rw [takeBoundaryName, hs']
    simp only [if_pos hc]
    exact ⟨congrArg (c :: ·) hname, hrest⟩
  | case3 text c cs hs hc =>
    have hskip := h.skipSpace spaced
    rw [hs] at hskip
    obtain ⟨cs', hs', -⟩ := hskip.of_cons
    rw [hs'] at hskip
    rw [takeBoundaryName, hs']
    simpa only [if_neg hc, true_and] using hskip

theorem readBoundary_continued (h : Continued text text')
    (hx : readBoundary flags text = some (e, rest)) :
    ∃ rest', readBoundary flags text' = some (e, rest') ∧ Continued rest rest' := by
  unfold readBoundary at hx
  split at hx
  · next inner =>
    obtain ⟨inner', rfl, hinner⟩ := h.of_cons
    simp only [readBoundary]
    split at hx
    · cases hx
    · next c cs hs =>
      obtain ⟨cs', hs', -⟩ := hinner.skipSpace_cons hs
      rw [hs']
      split at hx
      · next hc =>
        obtain ⟨hname, hrest⟩ := takeBoundaryName_continued flags.spaced hinner
        simp only [if_pos hc]
        split at hx
        · next name r hn =>
          rw [hn] at hname hrest
          obtain ⟨r', hn', hr⟩ := hrest.of_cons
          have hpair : takeBoundaryName flags.spaced inner' = (name, '\x7d' :: r') :=
            Prod.ext hname hn'
          rw [hpair]
          simp only
          split at hx
          all_goals
            cases hx
            try exact ⟨r', rfl, hr⟩
        · cases hx
      · next hc =>
        cases hx
        simp only [if_neg hc]
        exact ⟨_, rfl, h⟩
  · next hbrace =>
    cases hx
    refine ⟨text', ?_, h⟩
    unfold readBoundary
    split
    · next inner' => exact absurd rfl (h.ne_cons (by decide) hbrace inner')
    · rfl

theorem takeBraced_continued {name : List Char} (h : Continued text text')
    (hx : takeBraced spaced text = some (name, rest)) :
    ∃ rest', takeBraced spaced text' = some (name, rest') ∧ Continued rest rest' := by
  fun_induction takeBraced spaced text generalizing text' name with
  | case1 => cases hx
  | case2 text cs hs =>
    cases hx
    obtain ⟨cs', hs', hcs⟩ := h.skipSpace_cons hs
    refine ⟨cs', ?_, hcs⟩
    rw [takeBraced, hs']
    rfl
  | case3 text c cs hs hc ih =>
    obtain ⟨⟨inner, r⟩, hinner, hx⟩ := Option.map_eq_some_iff.mp hx
    cases hx
    obtain ⟨cs', hs', hcs⟩ := h.skipSpace_cons hs
    obtain ⟨rest', hinner', hrest⟩ := ih hcs hinner
    refine ⟨rest', ?_, hrest⟩
    rw [takeBraced, hs']
    simp only [if_neg hc, hinner']
    rfl

theorem readProperty_continued (h : Continued text text')
    (hx : readProperty spaced negated text = some (e, rest)) :
    ∃ rest', readProperty spaced negated text' = some (e, rest') ∧ Continued rest rest' := by
  unfold readProperty at hx ⊢
  split at hx
  · cases hx
  · next c cs hs =>
    obtain ⟨cs', hs', hcs⟩ := h.skipSpace_cons hs
    rw [hs']
    simp only
    split at hx
    · cases hx
    · next hslash =>
      rw [if_neg hslash]
      split at hx
      · next hbrace =>
        obtain ⟨⟨d, r⟩, hd, hx⟩ := Option.bind_eq_some_iff.mp hx
        obtain ⟨members, hmembers, hx⟩ := Option.bind_eq_some_iff.mp hx
        cases hx
        obtain ⟨rest', hd', hrest⟩ := takeBraced_continued hcs hd
        refine ⟨rest', ?_, hrest⟩
        rw [if_pos hbrace]
        simp [hd', hmembers]
      · next hbrace =>
        rw [if_neg hbrace]
        exact map_continued hcs hx

theorem readEscape_continued (h : Continued text text')
    (hx : readEscape flags text = some (e, rest)) :
    ∃ rest', readEscape flags text' = some (e, rest') ∧ Continued rest rest' := by
  cases text with
  | nil => cases hx
  | cons c cs =>
    obtain ⟨cs', rfl, hcs⟩ := h.of_cons
    simp only [readEscape] at hx ⊢
    split at hx
    all_goals try first
      | exact readNumbered_continued hcs hx
      | exact readBoundary_continued hcs hx
      | exact readProperty_continued hcs hx
      | (cases hx; exact ⟨cs', rfl, hcs⟩)
    -- Any other character is escaped for itself.
    split at hx
    · next hc =>
      cases hx
      exact ⟨cs', if_pos hc, hcs⟩
    · cases hx

end Escapes

/-! ## Bracket expressions -/

namespace Bracket

variable {spaced : Bool} {flags : Flags} {c : Char} {text text' rest rest₁ rest₁' : List Char}

theorem readHyphens_continued (spaced : Bool) (parts : List SetPart) (h : Continued text text') :
    (readHyphens spaced parts text').1 = (readHyphens spaced parts text).1 ∧
      Continued (readHyphens spaced parts text).2 (readHyphens spaced parts text').2 := by
  fun_induction readHyphens spaced parts text generalizing text' with
  | case1 parts text hs =>
    have hskip := h.skipSpace spaced
    rw [hs] at hskip
    rw [readHyphens]
    rcases hskip.of_nil with hs' | hs'
    · rw [hs']
      exact ⟨rfl, .behind []⟩
    · rw [hs']
      exact ⟨rfl, .taken⟩
  | case2 parts text cs hs ih =>
    obtain ⟨cs', hs', hcs⟩ := h.skipSpace_cons hs
    rw [readHyphens, hs']
    exact ih hcs
  | case3 parts text c cs hs hc =>
    have hskip := h.skipSpace spaced
    rw [hs] at hskip
    obtain ⟨cs', hs', -⟩ := hskip.of_cons
    rw [hs'] at hskip
    rw [readHyphens, hs']
    simpa only [if_neg hc, true_and] using hskip

theorem readNegation_continued (h : Continued text text') :
    (readNegation text').1 = (readNegation text).1 ∧
      Continued (readNegation text).2 (readNegation text').2 := by
  by_cases hhead : ∃ cs, text = '^' :: cs
  · obtain ⟨cs, rfl⟩ := hhead
    obtain ⟨cs', rfl, hcs⟩ := h.of_cons
    exact ⟨rfl, hcs⟩
  · have hno : ∀ cs, text ≠ '^' :: cs := fun cs hcs => hhead ⟨cs, hcs⟩
    have hno' := h.ne_cons (by decide) hno
    have hread : readNegation text = (false, text) := by
      rw [readNegation]
      exact hno
    have hread' : readNegation text' = (false, text') := by
      rw [readNegation]
      exact hno'
    rw [hread, hread']
    exact ⟨rfl, h⟩

theorem readStart_continued (spaced : Bool) (h : Continued text text') :
    (readStart spaced text').1 = (readStart spaced text).1 ∧
      (readStart spaced text').2.1 = (readStart spaced text).2.1 ∧
        Continued (readStart spaced text).2.2 (readStart spaced text').2.2 := by
  obtain ⟨hnegated, hneg⟩ := readNegation_continued (h.skipSpace spaced)
  obtain ⟨hparts, hrest⟩ := readHyphens_continued spaced [] hneg
  unfold readStart
  simp only
  split
  · next r' hr' =>
    rw [hr'] at hparts hrest
    obtain ⟨r, hr, hclose⟩ := hrest.of_cons_right (by decide)
    have hx : readHyphens spaced [] (readNegation (skipSpace spaced text)).2 = ([], ']' :: r) :=
      Prod.ext hparts.symm hr
    rw [hx]
    exact ⟨hnegated, rfl, hclose⟩
  · next parts' r' hno' hr' =>
    rw [hr'] at hparts hrest
    split
    · next r hr =>
      rw [hr] at hparts hrest
      obtain ⟨r₁, rfl, -⟩ := hrest.of_cons
      exact absurd rfl (hno' r₁ hparts)
    · next hr =>
      rw [hr] at hparts hrest
      exact ⟨hnegated, hparts, hrest⟩

theorem start_continued (spaced : Bool) (outer : List SetPart) (frames : List SetFrame)
    (h : Continued text text') :
    (start spaced outer frames text').1 = (start spaced outer frames text).1 ∧
      Continued (start spaced outer frames text).2 (start spaced outer frames text').2 := by
  obtain ⟨hnegated, hparts, hrest⟩ := readStart_continued spaced h
  refine ⟨?_, hrest⟩
  simp only [start, hnegated, hparts]

theorem readColonClass_continued {s : CharSet} {negated : Bool} (h : Continued text text')
    (hx : readColonClass text = some (s, negated, rest)) :
    ∃ rest', readColonClass text' = some (s, negated, rest') ∧ Continued rest rest' := by
  unfold readColonClass at hx
  split at hx
  · next cs =>
    obtain ⟨cs', rfl, hcs⟩ := h.of_cons
    obtain ⟨hnegated, hneg⟩ := readNegation_continued hcs
    simp only at hx
    have hdrop := hneg.dropWhile (p := (· != ':')) (by decide)
    split at hx
    · next after hafter =>
      have htake := hneg.takeWhile_eq (p := (· != ':')) (by rw [hafter]; simp)
      rw [hafter] at hdrop
      obtain ⟨after₁, hafter₁, hclose⟩ := hdrop.of_cons
      obtain ⟨after', rfl, hafter'⟩ := hclose.of_cons
      obtain ⟨s, hs, hx⟩ := Option.map_eq_some_iff.mp hx
      cases hx
      refine ⟨after', ?_, hafter'⟩
      simp only [readColonClass, hafter₁, htake, hs, hnegated]
      rfl
    · cases hx
  · cases hx

/-- What is no class between colons is none with the closer behind it. -/
theorem readColonClass_eq_none (h : Continued text text') (hx : readColonClass text = none) :
    readColonClass text' = none := by
  unfold readColonClass at hx ⊢
  split
  · next cs' =>
    obtain ⟨cs, rfl, hcs⟩ := h.of_cons_right (by decide)
    obtain ⟨-, hneg⟩ := readNegation_continued hcs
    simp only at hx ⊢
    have hdrop := hneg.dropWhile (p := (· != ':')) (by decide)
    split
    · next after' hafter' =>
      rw [hafter'] at hdrop
      obtain ⟨_, hafter, hclose⟩ := hdrop.of_cons_right (by decide)
      obtain ⟨after, rfl, -⟩ := hclose.of_cons_right (by decide)
      have htake := hneg.takeWhile_eq (p := (· != ':')) (by rw [hafter]; simp)
      rw [hafter] at hx
      rw [htake]
      exact Option.map_eq_none_iff.mpr (Option.map_eq_none_iff.mp hx)
    · rfl
  · rfl

theorem readItem_continued {e : Escape} (h : Continued text text')
    (hx : readItem flags c text = some (e, rest)) :
    ∃ rest', readItem flags c text' = some (e, rest') ∧ Continued rest rest' := by
  unfold readItem at hx ⊢
  split at hx
  · next hc =>
    rw [if_pos hc]
    exact readEscape_continued h hx
  · next hc =>
    cases hx
    rw [if_neg hc]
    exact ⟨text', rfl, h⟩

/-- In the spaced style, blanks are passed over behind a hyphen, and so is the mark of one
comment. -/
theorem afterHyphen_true_iff (hblank : Text.isBlank c = false) (hmark : c ≠ '#') :
    afterHyphen true text = some c ↔ (text.dropWhile Text.isBlank).head? = some c ∨
      ∃ more, text.dropWhile Text.isBlank = '#' :: more ∧
        (more.dropWhile Text.isBlank).head? = some c := by
  have hhead : text.head? = some c → (text.dropWhile Text.isBlank).head? = some c := by
    intro h
    obtain ⟨more, rfl⟩ := List.head?_eq_some_iff.mp h
    rw [List.dropWhile_cons, hblank]
    rfl
  rw [afterHyphen, Bool.not_true, if_neg Bool.false_ne_true]
  cases hd : text.dropWhile Text.isBlank with
  | nil =>
    rw [hd] at hhead
    simpa using hhead
  | cons d more =>
    rw [hd] at hhead
    by_cases hd' : d = '#'
    · subst hd'
      have hno : text.head? ≠ some c := fun h => hmark (Option.some.inj (hhead h)).symm
      simp [hno, hmark.symm]
    · simp [hd']

/-- A hyphen makes a range with the closer behind it if it does without. -/
theorem afterHyphen_continued (spaced : Bool) (hc : c = ']' ∨ c = '-')
    (h : Continued text text') :
    afterHyphen spaced text' = some c ↔ afterHyphen spaced text = some c := by
  have hclose : c ≠ ')' := by
    rcases hc with rfl | rfl <;> decide
  cases spaced with
  | false => exact h.head?_eq_some_iff hclose
  | true =>
    have hblank : Text.isBlank c = false := by
      rcases hc with rfl | rfl <;> decide
    have hmark : c ≠ '#' := by
      rcases hc with rfl | rfl <;> decide
    have hskipped : ∀ {t t' : List Char}, Continued t t' →
        ((t'.dropWhile Text.isBlank).head? = some c ↔
          (t.dropWhile Text.isBlank).head? = some c) :=
      fun ht => (ht.dropWhile (by decide)).head?_eq_some_iff hclose
    have hdrop := h.dropWhile (p := Text.isBlank) (by decide)
    rw [afterHyphen_true_iff hblank hmark, afterHyphen_true_iff hblank hmark]
    refine or_congr (hskipped h) ⟨?_, ?_⟩
    · rintro ⟨more', hmore', hhead⟩
      rw [hmore'] at hdrop
      obtain ⟨more, hmore, hcont⟩ := hdrop.of_cons_right (by decide)
      exact ⟨more, hmore, (hskipped hcont).mp hhead⟩
    · rintro ⟨more, hmore, hhead⟩
      rw [hmore] at hdrop
      obtain ⟨more', hmore', hcont⟩ := hdrop.of_cons
      exact ⟨more', hmore', (hskipped hcont).mpr hhead⟩

theorem readRange_continued {s : CharSet} (h : Continued text text')
    (hx : readRange flags c text = some (s, rest)) :
    ∃ rest', readRange flags c text' = some (s, rest') ∧ Continued rest rest' := by
  obtain ⟨⟨first, r₁⟩, h₁, hx⟩ := Option.bind_eq_some_iff.mp hx
  obtain ⟨r₁', h₁', hr₁⟩ := readItem_continued h h₁
  have hskip := hr₁.skipSpace flags.spaced
  simp only [readRange, h₁', Option.bind_eq_bind, Option.bind_some]
  simp only at hx
  split at hx
  · next more hs =>
    obtain ⟨more', hs', hmore⟩ := hr₁.skipSpace_cons hs
    rw [hs', hs] at hskip
    rw [hs']
    simp only
    have hnext : (afterHyphen flags.spaced more' = some ']' ∨
        afterHyphen flags.spaced more' = some '-') ↔
        (afterHyphen flags.spaced more = some ']' ∨
          afterHyphen flags.spaced more = some '-') :=
      or_congr (afterHyphen_continued _ (Or.inl rfl) hmore)
        (afterHyphen_continued _ (Or.inr rfl) hmore)
    split at hx
    · next hend =>
      obtain ⟨s', hs₁, hx⟩ := Option.bind_eq_some_iff.mp hx
      cases hx
      rw [if_pos (hnext.mpr hend), hs₁]
      exact ⟨_, rfl, hskip⟩
    · next hend =>
      rw [if_neg (mt hnext.mp hend)]
      split at hx
      · cases hx
      · next d more₁ hd =>
        obtain ⟨more₁', hd', hmore₁⟩ := hmore.skipSpace_cons hd
        obtain ⟨⟨last, r₂⟩, h₂, hx⟩ := Option.bind_eq_some_iff.mp hx
        obtain ⟨a, ha, hx⟩ := Option.bind_eq_some_iff.mp hx
        obtain ⟨b, hb, hx⟩ := Option.bind_eq_some_iff.mp hx
        obtain ⟨r₂', h₂', hr₂⟩ := readItem_continued hmore₁ h₂
        split at hx
        · next hle =>
          cases hx
          refine ⟨r₂', ?_, hr₂⟩
          simp [hd', h₂', ha, hb, hle]
        · cases hx
  · next hno =>
    obtain ⟨s', hs₁, hx⟩ := Option.bind_eq_some_iff.mp hx
    cases hx
    split
    · next more' hs' => exact absurd hs' (hskip.ne_cons (by decide) hno more')
    · rw [hs₁]
      exact ⟨_, rfl, hskip⟩

theorem step_continued {b : Bracket} {progress : Progress} (h : Continued text text')
    (hx : b.step flags c text = some (progress, rest)) :
    ∃ rest', b.step flags c text' = some (progress, rest') ∧ Continued rest rest' := by
  unfold step at hx
  simp only at hx
  split at hx
  · -- A bracket or a class between colons is opened.
    simp only [step]
    split at hx
    · next s negated r hclass =>
      obtain ⟨s', hs, hx⟩ := Option.map_eq_some_iff.mp hx
      cases hx
      obtain ⟨r', hclass', hr⟩ := readColonClass_continued h hclass
      simp only [hclass', hs]
      exact ⟨r', rfl, hr⟩
    · next hclass =>
      cases hx
      obtain ⟨hstart, hr⟩ := start_continued flags.spaced b.parts b.frames h
      simp only [readColonClass_eq_none h hclass, hstart]
      exact ⟨_, rfl, hr⟩
  · obtain ⟨p, hp, hx⟩ := Option.map_eq_some_iff.mp hx
    cases hx
    simp only [step, hp]
    exact ⟨text', rfl, h⟩
  · cases hx
    obtain ⟨r', rfl, hr⟩ := h.of_cons
    exact ⟨r', rfl, hr⟩
  · cases hx
    obtain ⟨r', rfl, hr⟩ := h.of_cons
    exact ⟨r', rfl, hr⟩
  · cases hx
    obtain ⟨r', rfl, hr⟩ := h.of_cons
    exact ⟨r', rfl, hr⟩
  · next hopen hclose hand hminus htilde =>
    obtain ⟨⟨s, r⟩, hs, hx⟩ := Option.map_eq_some_iff.mp hx
    cases hx
    obtain ⟨r', hs', hr⟩ := readRange_continued h hs
    refine ⟨r', ?_, hr⟩
    unfold step
    simp only
    split
    · exact (hopen rfl).elim
    · exact (hclose rfl).elim
    · next r' => exact absurd rfl (h.ne_cons (by decide) (fun r => hand r rfl) r')
    · next r' => exact absurd rfl (h.ne_cons (by decide) (fun r => hminus r rfl) r')
    · next r' => exact absurd rfl (h.ne_cons (by decide) (fun r => htilde r rfl) r')
    · rw [hs']
      rfl

end Bracket

end EntityProps.Pattern
