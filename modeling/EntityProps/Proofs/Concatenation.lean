import EntityProps.Proofs.Malformed

/-!
# Bodies in a row

A body that ends between two groups, or is empty, can be read apart from what
follows it: its groups come first, and then the groups or the error of the rest.
Any other body that is read comes to such an end by one more property separator.

The last character is enough to see where a body ends. The property separator
may also stand inside enclosers, but a body that is read does not end there.

- `Renders.eq_render`, `Renders.append_separator`: a rendering with its last
  separator, or without it, told apart by the last character.
- `readGroups_render_append`: reading goes on after complete groups as it would
  without them.
- `tokenGroups_append`: the result for bodies.
-/

namespace EntityProps.Grammar

variable {g : Grammar}

/-! ## The end of a rendering -/

/-- A group does not end with a property separator, which would have ended its main
token. -/
theorem Delimited.getLast?_renderGroup_ne {t : TokenGroup} (ht : g.Delimited t) :
    (g.renderGroup t).getLast? ≠ some g.separator := by
  obtain ⟨main, subs⟩ := t
  cases subs with
  | nil =>
    intro hlast
    have hmem : g.separator ∈ main.toList := List.mem_of_getLast? hlast
    exact (ht.main_free _ hmem).1 rfl
  | cons s subs =>
    have hlast : (g.renderGroup ⟨main, s :: subs⟩).getLast? = some g.closing := by
      rw [renderGroup_complex, renderSubs, ← List.cons_append, ← List.append_assoc,
        List.getLast?_concat]
    rw [hlast]
    intro hclosing
    exact g.valid.separator_ne_closing (Option.some.inj hclosing).symm

/-- The last group of a rendering stands before a separator. -/
theorem render_append_singleton (ts : List TokenGroup) (t : TokenGroup) :
    g.render (ts ++ [t]) = (g.render ts ++ g.renderGroup t) ++ [g.separator] := by
  simp [render]

/-- A rendering that is empty or ends with a separator is complete. -/
theorem Renders.eq_render {ts : List TokenGroup} {text : List Char}
    (hts : ∀ t ∈ ts, g.Delimited t) (h : g.Renders ts text)
    (hend : text = [] ∨ text.getLast? = some g.separator) : text = g.render ts := by
  rcases h with hrender | ⟨⟨t, ht, hne⟩, hrender⟩
  · exact hrender
  · -- Without the last separator, the text ends with what stands before it.
    obtain ⟨us, rfl⟩ := List.getLast?_eq_some_iff.mp ht
    have htext : text = g.render us ++ g.renderGroup t := by
      rw [hrender, render_append_singleton, List.dropLast_concat]
    have hlast : text.getLast? = (g.renderGroup t).getLast? := by
      rw [htext, List.getLast?_append_of_ne_nil _ hne]
    rcases hend with hempty | hend
    · rw [htext] at hempty
      exact absurd (List.append_eq_nil_iff.mp hempty).2 hne
    · have hdelimited : g.Delimited t := hts t (by simp)
      exact absurd (hlast.symm.trans hend) hdelimited.getLast?_renderGroup_ne

/-- Any other rendering is completed by one separator. -/
theorem Renders.append_separator {ts : List TokenGroup} {text : List Char}
    (h : g.Renders ts text) (hne : text ≠ []) (hlast : text.getLast? ≠ some g.separator) :
    text ++ [g.separator] = g.render ts := by
  rcases List.eq_nil_or_concat ts with rfl | ⟨us, t, rfl⟩
  · exact absurd (renders_nil.mp h) hne
  · rw [List.concat_eq_append] at h ⊢
    rcases h with hrender | ⟨-, hrender⟩
    · rw [hrender, render_append_singleton, List.getLast?_concat] at hlast
      exact absurd rfl hlast
    · rw [hrender, render_append_singleton, List.dropLast_concat]

/-! ## Bodies -/

theorem strip_append_separator_cons (a b : List Char) :
    g.strip (a ++ g.separator :: b) = (g.strip a ++ [g.separator]) ++ g.strip b := by
  have hkept : g.strip [g.separator] = [g.separator] :=
    strip_eq_self fun c hc => List.mem_singleton.mp hc ▸ g.valid.separator_kept
  rw [← List.singleton_append, strip_append, strip_append, hkept, List.append_assoc]

/-- After complete groups, a body is read as it would be alone. -/
theorem readGroups_render_append_strip {ts : List TokenGroup} (hts : ∀ t ∈ ts, g.WellFormed t)
    (b : List Char) :
    g.readGroups (g.render ts ++ g.strip b) = (g.tokenGroups b).map (ts ++ ·) := by
  rw [readGroups_render_append fun t ht => (hts t ht).toDelimited, ← tokenGroups]

/-- **Reading is compositional.** Let a body be read. If its stripped text is empty or
ends with a property separator, any further text is read behind it as it would be
alone, with its groups after those of the body, or with its error. Otherwise the same
holds of further text behind one more separator. -/
theorem tokenGroups_append {a : List Char} {ts : List TokenGroup}
    (ha : g.tokenGroups a = .ok ts) (b : List Char) :
    (g.strip a = [] ∨ (g.strip a).getLast? = some g.separator →
      g.tokenGroups (a ++ b) = (g.tokenGroups b).map (ts ++ ·)) ∧
    (g.strip a ≠ [] → (g.strip a).getLast? ≠ some g.separator →
      g.tokenGroups (a ++ g.separator :: b) = (g.tokenGroups b).map (ts ++ ·)) := by
  obtain ⟨hts, hrender⟩ := tokenGroups_eq_ok_iff.mp ha
  constructor
  · intro hend
    have hcomplete : g.strip a = g.render ts :=
      hrender.eq_render (fun t ht => (hts t ht).toDelimited) hend
    rw [tokenGroups, strip_append, hcomplete]
    exact readGroups_render_append_strip hts b
  · intro hne hlast
    have hcomplete : g.strip a ++ [g.separator] = g.render ts :=
      hrender.append_separator hne hlast
    rw [tokenGroups, strip_append_separator_cons, hcomplete]
    exact readGroups_render_append_strip hts b

/-- The separator at the end of the first body stands between groups, the one before it
between sub-tokens. -/
theorem tokenGroups_append_pair :
    standard.tokenGroups "Pair(x, ), ".toList = .ok [⟨"Pair", ["x", ""]⟩] ∧
      standard.tokenGroups ("Pair(x, ), ".toList ++ "B".toList) =
        .ok [⟨"Pair", ["x", ""]⟩, ⟨"B", []⟩] ∧
      standard.tokenGroups ("Pair(x, )".toList ++ standard.separator :: "B(".toList) =
        .error .unclosed := by
  have hclosed : standard.tokenGroups "Pair(x, ), ".toList = .ok [⟨"Pair", ["x", ""]⟩] :=
    tokenGroups_eq_ok_iff.mpr ⟨by decide, by decide⟩
  have hopen : standard.tokenGroups "Pair(x, )".toList = .ok [⟨"Pair", ["x", ""]⟩] :=
    tokenGroups_eq_ok_iff.mpr ⟨by decide, by decide⟩
  have hb : standard.tokenGroups "B".toList = .ok [⟨"B", []⟩] :=
    tokenGroups_eq_ok_iff.mpr ⟨by decide, by decide⟩
  have hfails : standard.tokenGroups "B(".toList = .error .unclosed := by decide +kernel
  refine ⟨hclosed, ?_, ?_⟩
  · rw [(tokenGroups_append hclosed "B".toList).1 (by decide), hb]
    rfl
  · rw [(tokenGroups_append hopen "B(".toList).2 (by decide) (by decide), hfails]
    rfl

end EntityProps.Grammar
