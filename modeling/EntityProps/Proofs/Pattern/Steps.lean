import EntityProps.Proofs.Pattern.Continued

/-!
# Steps of reading a pattern

A pattern is read in steps. With the closer behind the pattern and with further groups
around, the same steps can be made.

- `Reader.step_continued`: a step that can be made on what is left of the pattern can be made
  with the closer behind it.
- `Reader.within_step`: a step does not look at the groups around those that are open.
-/

namespace EntityProps.Pattern

/-! ## Repetitions -/

section Repetitions

variable {spaced : Bool} {text text' rest : List Char}

theorem skipLazy_continued (h : Continued text text') :
    Continued (skipLazy text) (skipLazy text') := by
  unfold skipLazy
  split
  · obtain ⟨cs', rfl, hcs⟩ := h.of_cons
    exact hcs
  · next hno =>
    split
    · next cs' => exact absurd rfl (h.ne_cons (by decide) hno cs')
    · exact h

theorem takeDigits_continued (spaced : Bool) (h : Continued text text') :
    (takeDigits spaced text').1 = (takeDigits spaced text).1 ∧
      Continued (takeDigits spaced text).2 (takeDigits spaced text').2 := by
  fun_induction takeDigits spaced text generalizing text' with
  | case1 =>
    rcases h.of_nil with rfl | rfl
    · rw [closer, takeDigits]
      exact ⟨rfl, .behind []⟩
    · rw [takeDigits]
      exact ⟨rfl, .taken⟩
  | case2 c cs hc digits r hd ih =>
    obtain ⟨cs', rfl, hcs⟩ := h.of_cons
    obtain ⟨hdigits, hrest⟩ := ih (hcs.skipSpace spaced)
    rw [hd] at hdigits hrest
    rw [takeDigits]
    simp only [if_pos hc]
    exact ⟨congrArg (c :: ·) hdigits, hrest⟩
  | case3 c cs hc =>
    obtain ⟨cs', rfl, -⟩ := h.of_cons
    rw [takeDigits]
    simpa only [if_neg hc, true_and] using h

theorem skipBlank_continued (spaced : Bool) (h : Continued text text') :
    Continued (skipBlank spaced text) (skipBlank spaced text') := by
  fun_induction skipBlank spaced text generalizing text' with
  | case1 =>
    rcases h.of_nil with rfl | rfl
    · rw [closer, skipBlank]
      exact .behind []
    · rw [skipBlank]
      exact .taken
  | case2 c cs hc ih =>
    obtain ⟨cs', rfl, hcs⟩ := h.of_cons
    rw [skipBlank, if_pos hc]
    exact ih (hcs.skipSpace spaced)
  | case3 c cs hc =>
    obtain ⟨cs', rfl, -⟩ := h.of_cons
    rw [skipBlank, if_neg hc]
    exact h

theorem readCount_continued {n : Nat} (h : Continued text text')
    (hx : readCount spaced text = some (n, rest)) :
    ∃ rest', readCount spaced text' = some (n, rest') ∧ Continued rest rest' := by
  have hdrop := h.dropWhile (p := Text.isBlank) (by decide)
  obtain ⟨hdigits, hrest⟩ := takeDigits_continued spaced hdrop
  simp only [readCount] at hx ⊢
  rw [hdigits]
  split at hx
  · cases hx
  · next hsome =>
    rw [if_neg hsome]
    split at hx
    · next hfits =>
      cases hx
      rw [if_pos hfits]
      exact ⟨_, rfl, skipBlank_continued spaced hrest⟩
    · cases hx

theorem readMost_continued {least : Nat} {most : Option Nat} (h : Continued text text')
    (hx : readMost spaced least text = some (most, rest)) :
    ∃ rest', readMost spaced least text' = some (most, rest') ∧ Continued rest rest' := by
  unfold readMost at hx ⊢
  split at hx
  · next cs =>
    obtain ⟨cs', rfl, hcs⟩ := h.of_cons
    have hskip := hcs.skipSpace spaced
    simp only
    split at hx
    · next r hr =>
      cases hx
      rw [hr] at hskip
      obtain ⟨r', hr', -⟩ := hskip.of_cons
      rw [hr'] at hskip ⊢
      exact ⟨_, rfl, hskip⟩
    · next hno =>
      obtain ⟨⟨k, r⟩, hk, hx⟩ := Option.map_eq_some_iff.mp hx
      cases hx
      obtain ⟨rest', hk', hrest⟩ := readCount_continued hskip hk
      refine ⟨rest', ?_, hrest⟩
      split
      · next r' hr' => exact absurd hr' (hskip.ne_cons (by decide) hno r')
      · rw [hk']
        rfl
  · next hno =>
    cases hx
    split
    · next cs' => exact absurd rfl (h.ne_cons (by decide) hno cs')
    · exact ⟨_, rfl, h⟩

theorem readBounds_continued {least : Nat} {most : Option Nat} (h : Continued text text')
    (hx : readBounds spaced text = some (least, most, rest)) :
    ∃ rest', readBounds spaced text' = some (least, most, rest') ∧ Continued rest rest' := by
  obtain ⟨⟨n, r₁⟩, h₁, hx⟩ := Option.bind_eq_some_iff.mp hx
  obtain ⟨⟨m, r₂⟩, h₂, hx⟩ := Option.bind_eq_some_iff.mp hx
  obtain ⟨r₁', h₁', hr₁⟩ := readCount_continued (h.skipSpace spaced) h₁
  obtain ⟨r₂', h₂', hr₂⟩ := readMost_continued hr₁ h₂
  simp only at hx
  split at hx
  · next cs =>
    obtain ⟨cs', rfl, hcs⟩ := hr₂.of_cons
    split at hx
    · next hle =>
      cases hx
      refine ⟨_, ?_, skipLazy_continued (hcs.skipSpace spaced)⟩
      simp [readBounds, h₁', h₂', hle]
    · cases hx
  · cases hx

end Repetitions

/-! ## Groups -/

theorem readFlags_continued {flags flags' : Flags} {seen : List Char}
    {afterMinus negative isGroup : Bool} {text text' rest : List Char} (h : Continued text text')
    (hx : readFlags flags seen afterMinus negative text = some (flags', isGroup, rest)) :
    ∃ rest', readFlags flags seen afterMinus negative text' = some (flags', isGroup, rest') ∧
      Continued rest rest' := by
  fun_induction readFlags flags seen afterMinus negative text generalizing text' with
  | case1 | case2 | case4 | case6 | case8 | case10 => cases hx
  | case3 flags seen afterMinus negative cs hminus =>
    cases hx
    obtain ⟨cs', rfl, hcs⟩ := h.of_cons
    refine ⟨cs', ?_, hcs⟩
    rw [readFlags, if_pos rfl, if_neg hminus]
  | case5 flags seen afterMinus negative cs hempty hcolon =>
    cases hx
    obtain ⟨cs', rfl, hcs⟩ := h.of_cons
    refine ⟨cs', ?_, hcs⟩
    rw [readFlags, if_neg hcolon, if_pos rfl, if_neg hempty]
  | case7 flags seen afterMinus negative cs hnegative hcolon hclose ih =>
    obtain ⟨cs', rfl, hcs⟩ := h.of_cons
    obtain ⟨rest', hx', hrest⟩ := ih hcs hx
    refine ⟨rest', ?_, hrest⟩
    rw [readFlags, if_neg hcolon, if_neg hclose, if_pos rfl, if_neg hnegative]
    exact hx'
  | case9 flags seen afterMinus negative c cs hcolon hclose hminus hnew flags₁ hset ih =>
    obtain ⟨cs', rfl, hcs⟩ := h.of_cons
    obtain ⟨rest', hx', hrest⟩ := ih hcs hx
    refine ⟨rest', ?_, hrest⟩
    rw [readFlags, if_neg hcolon, if_neg hclose, if_neg hminus, if_neg hnew, hset]
    exact hx'

theorem readName_continued {names : List (List Char)} {text text' name rest : List Char}
    (h : Continued text text') (hx : readName names text = some (name, rest)) :
    ∃ rest', readName names text' = some (name, rest') ∧ Continued rest rest' := by
  have hdrop := h.dropWhile (p := (· != '>')) (by decide)
  unfold readName at hx
  split at hx
  · next c name' d r htake hleft =>
    have htake' := h.takeWhile_eq (p := (· != '>')) (by rw [hleft]; simp)
    rw [hleft] at hdrop
    obtain ⟨r', hleft', hr⟩ := hdrop.of_cons
    split at hx
    · next hname =>
      cases hx
      refine ⟨r', ?_, hr⟩
      simp only [readName, htake', htake, hleft', if_pos hname]
    · cases hx
  · cases hx

namespace Reader

variable {r r' next : Reader} {outer : List Outer} {c : Char} {text text' rest : List Char}

theorem stepGroup_continued (h : Continued text text')
    (hx : r.stepGroup text = some (next, rest)) :
    ∃ rest', r.stepGroup text' = some (next, rest') ∧ Continued rest rest' := by
  have hskip := h.skipSpace r.flags.spaced
  have named : ∀ {t t'}, Continued t t' → stepGroup.named r t = some (next, rest) →
      ∃ rest', stepGroup.named r t' = some (next, rest') ∧ Continued rest rest' := by
    intro t t' ht hx
    obtain ⟨⟨name, cs⟩, hname, hx⟩ := Option.map_eq_some_iff.mp hx
    cases hx
    obtain ⟨cs', hname', hcs⟩ := readName_continued ht hname
    refine ⟨cs', ?_, hcs⟩
    rw [stepGroup.named, hname']
    rfl
  unfold stepGroup at hx ⊢
  split at hx
  · next cs hs =>
    rw [hs] at hskip
    obtain ⟨t₁, hs', h₁⟩ := hskip.of_cons
    obtain ⟨t₂, rfl, h₂⟩ := h₁.of_cons
    obtain ⟨t₃, rfl, h₃⟩ := h₂.of_cons
    rw [hs']
    exact named h₃ hx
  · next cs hs =>
    rw [hs] at hskip
    obtain ⟨t₁, hs', h₁⟩ := hskip.of_cons
    obtain ⟨t₂, rfl, h₂⟩ := h₁.of_cons
    rw [hs']
    exact named h₂ hx
  · next cs hnamed hangle hs =>
    rw [hs] at hskip
    obtain ⟨cs', hs', hcs⟩ := hskip.of_cons
    rw [hs']
    obtain ⟨⟨flags, isGroup, r₁⟩, hflags, hx⟩ := Option.map_eq_some_iff.mp hx
    obtain ⟨r₁', hflags', hr₁⟩ := readFlags_continued hcs hflags
    split
    · next heq =>
      cases heq
      obtain ⟨t₁, rfl, h₁⟩ := hcs.of_cons_right (by decide)
      obtain ⟨t₂, rfl, -⟩ := h₁.of_cons_right (by decide)
      exact (hnamed t₂ rfl).elim
    · next heq =>
      cases heq
      exact absurd rfl (hcs.ne_cons (by decide) hangle _)
    · next heq =>
      cases heq
      rw [hflags']
      cases isGroup with
      | true =>
        cases hx
        exact ⟨r₁', rfl, hr₁⟩
      | false =>
        cases hx
        exact ⟨r₁', rfl, hr₁⟩
    · next hno => exact (hno _ rfl).elim
  · next hnamed hangle hmark =>
    cases hx
    have hmark' := hskip.ne_cons (by decide) hmark
    split
    · next heq => exact absurd heq (hmark' _)
    · next heq => exact absurd heq (hmark' _)
    · next heq => exact absurd heq (hmark' _)
    · exact ⟨_, rfl, hskip⟩

theorem stepOutside_continued (h : Continued text text')
    (hx : r.stepOutside c text = some (next, rest)) :
    ∃ rest', r.stepOutside c text' = some (next, rest') ∧ Continued rest rest' := by
  unfold stepOutside at hx ⊢
  simp only at hx ⊢
  split at hx
  · exact stepGroup_continued h hx
  · exact map_continued h hx
  · cases hx
    exact ⟨text', rfl, h⟩
  · cases hx
    obtain ⟨hbracket, hrest⟩ := Bracket.start_continued r.flags.spaced [] [] h
    rw [hbracket]
    exact ⟨_, rfl, hrest⟩
  · exact map_continued (skipLazy_continued h) hx
  · exact map_continued (skipLazy_continued h) hx
  · exact map_continued (skipLazy_continued h) hx
  · obtain ⟨⟨least, most, r₁⟩, hbounds, hx⟩ := Option.bind_eq_some_iff.mp hx
    obtain ⟨r₁', hbounds', hr₁⟩ := readBounds_continued h hbounds
    rw [hbounds']
    exact map_continued hr₁ hx
  · obtain ⟨⟨e, r₁⟩, he, hx⟩ := Option.bind_eq_some_iff.mp hx
    obtain ⟨r₁', he', hr₁⟩ := readEscape_continued h he
    rw [he']
    exact map_continued hr₁ hx
  · exact map_continued h hx
  all_goals
    cases hx
    exact ⟨text', rfl, h⟩

/-- **Steps do not wait for the closer.** A step that can be made on what is left of a pattern
can be made with the closer behind it. It leads to the same state and leaves the same, with
the closer behind it. -/
theorem step_continued (h : Continued text text')
    (hx : r.step c text = some (next, rest)) :
    ∃ rest', r.step c text' = some (next, rest') ∧ Continued rest rest' := by
  unfold step at hx ⊢
  split at hx
  · exact stepOutside_continued h hx
  · obtain ⟨⟨progress, r₁⟩, hp, hx⟩ := Option.map_eq_some_iff.mp hx
    obtain ⟨r₁', hp', hr⟩ := Bracket.step_continued h hp
    rw [hp']
    cases progress with
    | more b =>
      cases hx
      exact ⟨r₁', rfl, hr⟩
    | done part =>
      cases hx
      exact ⟨r₁', rfl, hr⟩

/-! ## Groups around -/

/-- The same state with further groups around. -/
def within (r : Reader) (outer : List Outer) : Reader :=
  { r with groups := r.groups ++ outer }

@[simp] theorem within_flags : (r.within outer).flags = r.flags := rfl

@[simp] theorem within_level : (r.within outer).level = r.level := rfl

@[simp] theorem within_bracket : (r.within outer).bracket = r.bracket := rfl

theorem within_map_repeatLast {least : Nat} {most : Option Nat}
    (h : (r.repeatLast least most).map (·, text) = some (next, rest)) :
    ((r.within outer).repeatLast least most).map (·, text) = some (next.within outer, rest) := by
  obtain ⟨r', hrepeat, h⟩ := Option.map_eq_some_iff.mp h
  obtain ⟨level, hlevel, rfl⟩ := Option.map_eq_some_iff.mp hrepeat
  cases h
  rw [repeatLast, within_level, hlevel]
  rfl

theorem within_closeGroup (h : r.closeGroup = some r') :
    (r.within outer).closeGroup = some (r'.within outer) := by
  unfold closeGroup at h ⊢
  split at h
  · cases h
  · next o groups hgroups =>
    cases h
    have hwithin : (r.within outer).groups = o :: (groups ++ outer) :=
      congrArg (· ++ outer) hgroups
    rw [hwithin]
    rfl

theorem within_stepGroup (h : r.stepGroup text = some (next, rest)) :
    (r.within outer).stepGroup text = some (next.within outer, rest) := by
  have named : ∀ {t}, stepGroup.named r t = some (next, rest) →
      stepGroup.named (r.within outer) t = some (next.within outer, rest) := by
    intro t ht
    obtain ⟨x, hname, ht⟩ := Option.map_eq_some_iff.mp ht
    cases ht
    exact Option.map_eq_some_iff.mpr ⟨x, hname, rfl⟩
  unfold stepGroup at h ⊢
  rw [within_flags]
  split at h
  · exact named h
  · exact named h
  · obtain ⟨⟨flags, isGroup, cs⟩, hflags, h⟩ := Option.map_eq_some_iff.mp h
    refine Option.map_eq_some_iff.mpr ⟨_, hflags, ?_⟩
    cases isGroup with
    | true =>
      cases h
      rfl
    | false =>
      cases h
      rfl
  · cases h
    rfl

theorem within_stepOutside (h : r.stepOutside c text = some (next, rest)) :
    (r.within outer).stepOutside c text = some (next.within outer, rest) := by
  unfold stepOutside at h ⊢
  simp only [within_flags] at h ⊢
  split at h
  · exact within_stepGroup h
  · obtain ⟨r', hclose, h⟩ := Option.map_eq_some_iff.mp h
    cases h
    rw [within_closeGroup hclose]
    rfl
  · cases h
    rfl
  · cases h
    rfl
  · exact within_map_repeatLast h
  · exact within_map_repeatLast h
  · exact within_map_repeatLast h
  · obtain ⟨x, hbounds, h⟩ := Option.bind_eq_some_iff.mp h
    exact Option.bind_eq_some_iff.mpr ⟨x, hbounds, within_map_repeatLast h⟩
  · obtain ⟨x, he, h⟩ := Option.bind_eq_some_iff.mp h
    obtain ⟨node, hnode, h⟩ := Option.map_eq_some_iff.mp h
    cases h
    exact Option.bind_eq_some_iff.mpr ⟨x, he, Option.map_eq_some_iff.mpr ⟨node, hnode, rfl⟩⟩
  · obtain ⟨node, hnode, h⟩ := Option.map_eq_some_iff.mp h
    cases h
    exact Option.map_eq_some_iff.mpr ⟨node, hnode, rfl⟩
  all_goals
    cases h
    rfl

/-- Steps do not look at the groups around those that are open. -/
theorem within_step (h : r.step c text = some (next, rest)) :
    (r.within outer).step c text = some (next.within outer, rest) := by
  unfold step at h ⊢
  rw [within_bracket]
  split at h
  · exact within_stepOutside h
  · obtain ⟨⟨progress, cs⟩, hp, h⟩ := Option.map_eq_some_iff.mp h
    refine Option.map_eq_some_iff.mpr ⟨_, hp, ?_⟩
    cases progress with
    | more b =>
      cases h
      rfl
    | done part =>
      cases h
      rfl

end Reader

end EntityProps.Pattern
