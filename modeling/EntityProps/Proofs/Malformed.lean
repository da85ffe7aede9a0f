import EntityProps.Proofs.Rendering

/-!
# Malformed bodies

A body that is not read has read as far as some complete groups, each with its
separator, and then stops making sense inside the enclosers of the next one.
Either the close encloser never comes (`StopsInside`), or something other than a
separator follows it (`RunsOn`).

- `readSubs_eq_unclosed_iff`, `readSubs_eq_separatorMissing_iff`: what is wrong is
  decided at the first close encloser, wherever the separators between
  sub-tokens stand.
- `readGroups_eq_error_iff`: the groups before are complete, and the error is that
  of the group after them.
- `tokenGroups_error_classified`: the result for bodies.
-/

namespace EntityProps.Grammar

variable {g : Grammar}

/-! ## The two ways to be malformed -/

/-- After complete groups, the text ends inside the enclosers of another. -/
def StopsInside (g : Grammar) (text : List Char) : Prop :=
  ∃ ts main inside, (∀ t ∈ ts, g.WellFormed t) ∧
    (∀ c ∈ main, c ≠ g.separator ∧ c ≠ g.opening) ∧ g.closing ∉ inside ∧
    text = g.render ts ++ main ++ g.opening :: inside

/-- After complete groups, another is closed and something other than a property
separator follows it. -/
def RunsOn (g : Grammar) (text : List Char) : Prop :=
  ∃ ts main inside c rest, (∀ t ∈ ts, g.WellFormed t) ∧
    (∀ c ∈ main, c ≠ g.separator ∧ c ≠ g.opening) ∧ g.closing ∉ inside ∧
    c ≠ g.separator ∧
    text = g.render ts ++ main ++ g.opening :: (inside ++ g.closing :: c :: rest)

/-! ## Inside the enclosers -/

/-- Sub-tokens end at the first close encloser, and what follows it decides how
reading goes on. -/
theorem readSubs_append_closing {inside : List Char} (after : List Char)
    (h : g.closing ∉ inside) :
    ∃ subs, g.readSubs (inside ++ g.closing :: after) =
      (g.afterGroup after).map fun rest => (subs, rest) := by
  induction inside using cut_induction g.subSeparator g.closing with
  | free sub hfree => exact ⟨_, readSubs_closing after hfree⟩
  | first sub inside hfree ih =>
    have hinside : g.closing ∉ inside := fun hc => h (by simp [hc])
    obtain ⟨subs, hsubs⟩ := ih inside (Nat.le_refl _) hinside
    refine ⟨String.ofList sub :: subs, ?_⟩
    rw [List.append_assoc, List.cons_append, readSubs_separator _ hfree, hsubs]
    cases g.afterGroup after <;> rfl
  | second sub inside _ _ => exact absurd (by simp) h

theorem readSubs_of_closing_not_mem {text : List Char} (h : g.closing ∉ text) :
    g.readSubs text = .error .unclosed := by
  induction text using cut_induction g.subSeparator g.closing with
  | free sub hfree => exact readSubs_unclosed hfree
  | first sub rest hfree ih =>
    have hrest : g.closing ∉ rest := fun hc => h (by simp [hc])
    rw [readSubs_separator rest hfree, ih rest (Nat.le_refl _) hrest]
    rfl
  | second sub rest _ _ => exact absurd (by simp) h

theorem afterGroup_eq_error_iff {text : List Char} {e : ParseError} :
    g.afterGroup text = .error e ↔
      e = .separatorMissing ∧ ∃ c rest, text = c :: rest ∧ c ≠ g.separator := by
  cases text with
  | nil => simp [afterGroup]
  | cons c rest =>
    by_cases hc : c = g.separator
    · simp [afterGroup, hc]
    · simp [afterGroup, hc, eq_comm]

theorem readSubs_eq_unclosed_iff {text : List Char} :
    g.readSubs text = .error .unclosed ↔ g.closing ∉ text := by
  refine ⟨fun h hc => ?_, readSubs_of_closing_not_mem⟩
  obtain ⟨inside, after, rfl, hinside⟩ := List.eq_append_cons_of_mem hc
  obtain ⟨subs, hsubs⟩ := readSubs_append_closing after hinside
  rw [hsubs, map_eq_error_iff, afterGroup_eq_error_iff] at h
  cases h.1

theorem readSubs_eq_separatorMissing_iff {text : List Char} :
    g.readSubs text = .error .separatorMissing ↔
      ∃ inside c rest, g.closing ∉ inside ∧ c ≠ g.separator ∧
        text = inside ++ g.closing :: c :: rest := by
  constructor
  · intro h
    by_cases hc : g.closing ∈ text
    · obtain ⟨inside, after, rfl, hinside⟩ := List.eq_append_cons_of_mem hc
      obtain ⟨subs, hsubs⟩ := readSubs_append_closing after hinside
      rw [hsubs, map_eq_error_iff, afterGroup_eq_error_iff] at h
      obtain ⟨-, c, rest, rfl, hne⟩ := h
      exact ⟨inside, c, rest, hinside, hne, rfl⟩
    · rw [readSubs_of_closing_not_mem hc] at h
      cases h
  · rintro ⟨inside, c, rest, hinside, hne, rfl⟩
    obtain ⟨subs, hsubs⟩ := readSubs_append_closing (c :: rest) hinside
    rw [hsubs, map_eq_error_iff, afterGroup_eq_error_iff]
    exact ⟨rfl, c, rest, rfl, hne⟩

/-! ## After complete groups -/

/-- Complete groups are read whatever follows them. -/
theorem readGroups_render_append {ts : List TokenGroup} (hts : ∀ t ∈ ts, g.Delimited t)
    (text : List Char) :
    g.readGroups (g.render ts ++ text) = (g.readGroups text).map (ts ++ ·) := by
  induction ts with
  | nil => cases h : g.readGroups text <;> simp [h, Except.map]
  | cons t ts ih =>
    obtain ⟨main, subs⟩ := t
    have ht := hts _ List.mem_cons_self
    have hrest := ih fun u hu => hts u (List.mem_cons_of_mem _ hu)
    rw [render_cons, List.append_assoc, List.cons_append]
    cases subs with
    | nil =>
      rw [renderGroup_simple, readGroups_separator _ ht.main_free, hrest]
      cases g.readGroups text <;> simp [Except.map]
    | cons s subs =>
      have hsubs := readSubs_renderSubs ht.subs_free
        (afterGroup_eq_ok_iff.mpr (Or.inr (rfl : g.separator :: (g.render ts ++ text) = _)))
      rw [renderGroup_complex, List.append_assoc, List.cons_append,
        readGroups_opening _ ht.main_free, hsubs]
      simp only [bind, Except.bind, hrest]
      cases g.readGroups text <;> simp [Except.map]

theorem readGroups_opening_error {main inside : List Char} {e : ParseError}
    (hmain : ∀ c ∈ main, c ≠ g.separator ∧ c ≠ g.opening) (h : g.readSubs inside = .error e) :
    g.readGroups (main ++ g.opening :: inside) = .error e := by
  rw [readGroups_opening inside hmain, h]
  rfl

/-- A text is not read because of one group, and all groups before it are complete. -/
theorem readGroups_eq_error_iff {text : List Char} {e : ParseError} :
    g.readGroups text = .error e ↔
      ∃ ts main inside, (∀ t ∈ ts, g.Delimited t) ∧
        (∀ c ∈ main, c ≠ g.separator ∧ c ≠ g.opening) ∧ g.readSubs inside = .error e ∧
        text = g.render ts ++ main ++ g.opening :: inside := by
  constructor
  · intro h
    induction text using cut_induction g.separator g.opening with
    | free text hfree =>
      rw [readGroups_plain hfree] at h
      cases h
    | first main after hfree ih =>
      rw [readGroups_separator after hfree, map_eq_error_iff] at h
      obtain ⟨ts, main', inside, hts, hmain', hinside, rfl⟩ := ih after (Nat.le_refl _) h
      refine ⟨⟨String.ofList main, []⟩ :: ts, main', inside, ?_, hmain', hinside, by simp⟩
      rintro t (_ | ⟨_, ht⟩)
      · exact ⟨by simpa using hfree, by simp⟩
      · exact hts t ht
    | second main after hfree ih =>
      rw [readGroups_opening after hfree, bind_eq_error_iff_or] at h
      rcases h with hs | ⟨⟨subs, rest⟩, hs, hmap⟩
      · exact ⟨[], main, after, by simp, hfree, hs, by simp⟩
      · -- This group is complete, so the text goes on after it with a separator.
        rw [map_eq_error_iff] at hmap
        obtain ⟨ts, main', inside, hts, hmain', hinside, hrest⟩ :=
          ih rest (Nat.le_of_lt (readSubs_length_lt hs)) hmap
        obtain ⟨hne, hsubs, tail, rfl, htail⟩ := renderSubs_of_readSubs hs
        obtain ⟨s, subs, rfl⟩ := List.exists_cons_of_ne_nil hne
        obtain ⟨rfl, rfl⟩ | rfl := afterGroup_eq_ok_iff.mp htail
        · simp at hrest
        · refine ⟨⟨String.ofList main, s :: subs⟩ :: ts, main', inside, ?_, hmain', hinside, ?_⟩
          · rintro t (_ | ⟨_, ht⟩)
            · exact ⟨by simpa using hfree, hsubs⟩
            · exact hts t ht
          · simp [hrest]
  · rintro ⟨ts, main, inside, hts, hmain, hinside, rfl⟩
    rw [List.append_assoc, readGroups_render_append hts, readGroups_opening_error hmain hinside]
    rfl

/-! ## Bodies -/

/-- Groups that open a stripped text have no ignored character. -/
theorem wellFormed_of_render_append {ts : List TokenGroup} {body rest : List Char}
    (hts : ∀ t ∈ ts, g.Delimited t) (h : g.strip body = g.render ts ++ rest) :
    ∀ t ∈ ts, g.WellFormed t := by
  intro t ht
  refine { hts t ht with kept := fun s hs c hc => ?_ }
  have hchars : c ∈ ts.flatMap TokenGroup.chars :=
    List.mem_flatMap.mpr ⟨t, ht, List.mem_flatMap.mpr ⟨s, hs, hc⟩⟩
  have hrender : c ∈ g.render ts := (chars_sublist_of_renders (Or.inl rfl)).subset hchars
  exact (mem_strip.mp (h ▸ List.mem_append_left rest hrender)).2

theorem tokenGroups_eq_error_iff {body : List Char} {e : ParseError} :
    g.tokenGroups body = .error e ↔
      ∃ ts main inside, (∀ t ∈ ts, g.WellFormed t) ∧
        (∀ c ∈ main, c ≠ g.separator ∧ c ≠ g.opening) ∧ g.readSubs inside = .error e ∧
        g.strip body = g.render ts ++ main ++ g.opening :: inside := by
  rw [tokenGroups, readGroups_eq_error_iff]
  constructor
  · rintro ⟨ts, main, inside, hts, hmain, hinside, heq⟩
    refine ⟨ts, main, inside, ?_, hmain, hinside, heq⟩
    exact wellFormed_of_render_append hts (heq.trans (List.append_assoc _ _ _))
  · rintro ⟨ts, main, inside, hts, hmain, hinside, heq⟩
    exact ⟨ts, main, inside, fun t ht => (hts t ht).toDelimited, hmain, hinside, heq⟩

theorem tokenGroups_eq_unclosed_iff {body : List Char} :
    g.tokenGroups body = .error .unclosed ↔ g.StopsInside (g.strip body) := by
  simp only [tokenGroups_eq_error_iff, readSubs_eq_unclosed_iff, StopsInside]

theorem tokenGroups_eq_separatorMissing_iff {body : List Char} :
    g.tokenGroups body = .error .separatorMissing ↔ g.RunsOn (g.strip body) := by
  rw [tokenGroups_eq_error_iff]
  constructor
  · rintro ⟨ts, main, inside, hts, hmain, hinside, heq⟩
    obtain ⟨inside, c, rest, hclosing, hne, rfl⟩ := readSubs_eq_separatorMissing_iff.mp hinside
    exact ⟨ts, main, inside, c, rest, hts, hmain, hclosing, hne, heq⟩
  · rintro ⟨ts, main, inside, c, rest, hts, hmain, hclosing, hne, heq⟩
    exact ⟨ts, main, _, hts, hmain,
      readSubs_eq_separatorMissing_iff.mpr ⟨inside, c, rest, hclosing, hne, rfl⟩, heq⟩

theorem strip_append_closing {body : List Char} (n : Nat) :
    g.strip (body ++ List.replicate n g.closing) =
      g.strip body ++ List.replicate n g.closing := by
  have hkept : g.strip (List.replicate n g.closing) = List.replicate n g.closing := by
    apply strip_eq_self
    intro c hc
    rw [List.eq_of_mem_replicate hc]
    exact g.valid.closing_kept
  rw [strip_append, hkept]

/-- What stops inside enclosers is mended by one close encloser, and by no other
number of them. -/
theorem tokenGroups_append_closing {body : List Char} (h : g.StopsInside (g.strip body)) (n : Nat) :
    (∃ ts, g.tokenGroups (body ++ List.replicate n g.closing) = .ok ts) ↔ n = 1 := by
  have hunclosed := tokenGroups_eq_unclosed_iff.mpr h
  obtain ⟨ts, main, inside, hts, hmain, hinside, heq⟩ := h
  have hstrip : g.strip (body ++ List.replicate n g.closing) =
      g.render ts ++ (main ++ g.opening :: (inside ++ List.replicate n g.closing)) := by
    rw [strip_append_closing, heq]
    simp
  match n with
  | 0 => simp [hunclosed]
  | 1 =>
    obtain ⟨subs, hsubs⟩ := readSubs_append_closing [] hinside
    have hread : g.readGroups (main ++ g.opening :: (inside ++ [g.closing])) =
        .ok [⟨String.ofList main, subs⟩] := by
      rw [readGroups_opening _ hmain, hsubs]
      simp [afterGroup, Except.map, bind, Except.bind]
    refine iff_of_true ⟨ts ++ [⟨String.ofList main, subs⟩], ?_⟩ rfl
    rw [tokenGroups, hstrip, readGroups_render_append fun t ht => (hts t ht).toDelimited]
    exact map_eq_ok_iff_exists.mpr ⟨_, hread, rfl⟩
  | n + 2 =>
    -- The second close encloser stands where a separator should.
    have hruns : g.RunsOn (g.strip (body ++ List.replicate (n + 2) g.closing)) :=
      ⟨ts, main, inside, g.closing, List.replicate n g.closing, hts, hmain, hinside,
        g.valid.separator_ne_closing.symm, by rw [hstrip, List.append_assoc]; rfl⟩
    simp [tokenGroups_eq_separatorMissing_iff.mpr hruns]

/-- What runs on does so whatever is appended. -/
theorem RunsOn.append {body : List Char} (h : g.RunsOn (g.strip body)) (more : List Char) :
    g.RunsOn (g.strip (body ++ more)) := by
  obtain ⟨ts, main, inside, c, rest, hts, hmain, hinside, hne, heq⟩ := h
  refine ⟨ts, main, inside, c, rest ++ g.strip more, hts, hmain, hinside, hne, ?_⟩
  rw [strip_append, heq]
  simp

/-- **Rejected bodies are of two sorts.** A body is rejected as unclosed exactly
if its stripped text ends inside the enclosers of a group after complete groups,
and for a missing separator exactly if there something else follows the close
encloser. No body is both, and a body that is neither is read. One close encloser,
and no other number of them, mends the first; nothing that is appended mends
the second. -/
theorem tokenGroups_error_classified (g : Grammar) (body : List Char) :
    (g.tokenGroups body = .error .unclosed ↔ g.StopsInside (g.strip body)) ∧
    (g.tokenGroups body = .error .separatorMissing ↔ g.RunsOn (g.strip body)) ∧
    ¬ (g.StopsInside (g.strip body) ∧ g.RunsOn (g.strip body)) ∧
    ((∀ ts, g.tokenGroups body ≠ .ok ts) ↔
      g.StopsInside (g.strip body) ∨ g.RunsOn (g.strip body)) ∧
    (g.tokenGroups body = .error .unclosed → ∀ n,
      (∃ ts, g.tokenGroups (body ++ List.replicate n g.closing) = .ok ts) ↔ n = 1) ∧
    (g.tokenGroups body = .error .separatorMissing → ∀ more,
      g.tokenGroups (body ++ more) = .error .separatorMissing) := by
  have hunclosed := @tokenGroups_eq_unclosed_iff g body
  have hmissing := @tokenGroups_eq_separatorMissing_iff g body
  refine ⟨hunclosed, hmissing, ?_, ?_, fun h n => ?_, fun h more => ?_⟩
  · rintro ⟨hstops, hruns⟩
    have hboth := (hunclosed.mpr hstops).symm.trans (hmissing.mpr hruns)
    cases hboth
  · rw [← hunclosed, ← hmissing]
    cases h : g.tokenGroups body with
    | ok ts => simp
    | error e => simpa using readGroups_error h
  · exact tokenGroups_append_closing (hunclosed.mp h) n
  · exact tokenGroups_eq_separatorMissing_iff.mpr ((hmissing.mp h).append more)

/-- The second close encloser is no separator. -/
example : Grammar.standard.tokenGroups ['A', '(', ')', ')'] = .error .separatorMissing := by
  decide +kernel

end EntityProps.Grammar
