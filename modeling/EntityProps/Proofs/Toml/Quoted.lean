import EntityProps.Toml.Text
import EntityProps.Toml.Writer
import Mathlib.Data.List.TakeWhile

/-!
# Quoted texts

A text in quotes is read back, whatever characters it has: quotes, backslashes,
line breaks, control characters (`readText_quoted`).

The four ways to quote a text have one view: what stands between the quotes spells
the text, character by character (`Spells`). On one line the quote itself only
stands in escapes. On several lines it may stand as itself, but never three times
in a row unless an escape comes between, so reading does not end early.

- `spells_escapeAll`, `spells_self`: what the writer puts between quotes spells the
  text, with escapes or without.
- `readLine_of_spells`, `readBlock_of_spells`: what spells a text is read as it.
-/

namespace EntityProps.Toml

/-! ## Characters between quotes -/

/-- How a character is written between quotes: as itself, as a line break, or as an escape. In a
text on one line the quote itself is always escaped. -/
inductive Piece (quote : Char) (block : Bool) (c : Char) : List Char → Prop
  | plain (hplain : isPlain c = true) (hquote : block = false → c ≠ quote)
      (hslash : quote = '"' → c ≠ '\\') : Piece quote block c [c]
  | newline (hblock : block = true) (hc : c = '\n') : Piece quote block c ['\n']
  | escaped {d : Char} {code : List Char} (hquote : quote = '"') (hblank : isBlank d = false)
      (hbreak : d ≠ '\n' ∧ d ≠ '\r')
      (hread : ∀ rest, readEscape (d :: (code ++ rest)) = some (c, rest)) :
      Piece quote block c ('\\' :: d :: code)

/-- Number of quotes at the start of a text. -/
def leadingQuotes (quote : Char) (l : List Char) : Nat :=
  (l.takeWhile (· = quote)).length

/-- What stands between quotes spells a text, character by character. In a text of several lines
no character is followed by quotes that would close the text. -/
inductive Spells (quote : Char) (block : Bool) : List Char → List Char → Prop
  | nil : Spells quote block [] []
  | cons {c : Char} {text piece inner : List Char} (hpiece : Piece quote block c piece)
      (hfew : block = true → leadingQuotes quote (piece ++ inner) ≤ 2)
      (hrest : Spells quote block text inner) : Spells quote block (c :: text) (piece ++ inner)

variable {quote c : Char} {block : Bool} {text inner piece rest : List Char}

theorem Piece.ne_nil (h : Piece quote block c piece) : piece ≠ [] := by
  cases h <;> simp

theorem ne_of_isPlain (h : isPlain c = true) : c ≠ '\n' ∧ c ≠ '\r' := by
  constructor <;> rintro rfl <;> revert h <;> decide

theorem afterBreak?_cons (h : c ≠ '\n' ∧ c ≠ '\r') : afterBreak? (c :: rest) = none := by
  rw [afterBreak?]
  · intro _ heq
    exact h.1 (List.cons.inj heq).1
  · intro _ heq
    exact h.2 (List.cons.inj heq).1

/-! ### Texts on one line -/

theorem readLine_quote (fuel rest : List Char) (hfuel : fuel ≠ []) :
    readLine quote fuel (quote :: rest) = some ([], rest) := by
  obtain ⟨f, fuel, rfl⟩ := List.exists_cons_of_ne_nil hfuel
  rw [readLine, if_pos rfl]

theorem readLine_piece (h : Piece quote false c piece) {f : Char} {fuel : List Char} :
    readLine quote (f :: fuel) (piece ++ rest) =
      (readLine quote fuel rest).map fun (cs, rest) => (c :: cs, rest) := by
  cases h with
  | plain hplain hquote hslash =>
    have hne : ¬ (c = '\\' ∧ quote = '"') := fun h => hslash h.2 h.1
    rw [List.singleton_append, readLine, if_neg (hquote rfl), if_neg hne, if_pos hplain]
    cases readLine quote fuel rest <;> rfl
  | newline hblock => cases hblock
  | @escaped d code hquote hblank hbreak hread =>
    subst hquote
    rw [List.cons_append, List.cons_append, readLine, if_neg (by decide), if_pos ⟨rfl, rfl⟩,
      hread]
    cases h : readLine '"' fuel rest <;> simp [h]

theorem readLine_of_spells (h : Spells quote false text inner) (rest : List Char) :
    ∀ fuel : List Char, inner.length < fuel.length →
      readLine quote fuel (inner ++ quote :: rest) = some (text, rest) := by
  induction h with
  | nil =>
    intro fuel hfuel
    exact readLine_quote fuel rest (List.ne_nil_of_length_pos (by omega))
  | @cons c text piece inner hpiece _ _ ih =>
    intro fuel hfuel
    have hlength := List.length_pos_iff.mpr hpiece.ne_nil
    rw [List.length_append] at hfuel
    obtain ⟨f, fuel, rfl⟩ := List.exists_cons_of_ne_nil
      (List.ne_nil_of_length_pos (by omega : 0 < fuel.length))
    rw [List.length_cons] at hfuel
    rw [List.append_assoc, readLine_piece hpiece, ih fuel (by omega)]
    rfl

/-! ### Texts of several lines -/

theorem leadingQuotes_cons_of_ne (h : c ≠ quote) (l : List Char) :
    leadingQuotes quote (c :: l) = 0 := by
  rw [leadingQuotes, List.takeWhile_cons_of_neg (by simpa using h), List.length_nil]

theorem leadingQuotes_cons_self (l : List Char) :
    leadingQuotes quote (quote :: l) = leadingQuotes quote l + 1 := by
  rw [leadingQuotes, List.takeWhile_cons_of_pos (by simp), List.length_cons, leadingQuotes]

/-- At most two quotes are at the start, and then the end or another character. -/
theorem quotes_or_other (h : leadingQuotes quote inner ≤ 2) :
    ∃ n ≤ 2, inner = List.replicate n quote ∨
      ∃ x more, x ≠ quote ∧ inner = List.replicate n quote ++ x :: more := by
  refine ⟨leadingQuotes quote inner, h, ?_⟩
  have hquotes : inner.takeWhile (· = quote) =
      List.replicate (leadingQuotes quote inner) quote := by
    refine List.eq_replicate_iff.mpr ⟨rfl, fun x hx => ?_⟩
    simpa using List.mem_takeWhile_imp hx
  have hsplit := List.takeWhile_append_dropWhile (p := (· = quote)) (l := inner)
  rw [hquotes] at hsplit
  cases hother : inner.dropWhile (· = quote) with
  | nil =>
    rw [hother, List.append_nil] at hsplit
    exact Or.inl hsplit.symm
  | cons x more =>
    rw [hother] at hsplit
    have hx := List.head_dropWhile_not (· = quote) (l := inner) (by simp [hother])
    simp only [hother, List.head_cons, decide_eq_false_iff_not] at hx
    exact Or.inr ⟨x, more, hx, hsplit.symm⟩

theorem closing?_quotes {n : Nat} (hn : n ≤ 2) (hrest : rest.head? ≠ some quote) :
    closing? quote (List.replicate n quote ++ quote :: quote :: quote :: rest) =
      some (List.replicate n quote, rest) := by
  match n, hn with
  | 0, _ =>
    match rest with
    | [] => simp [closing?]
    | [d] => simp_all [closing?]
    | d :: e :: rest => simp_all [closing?]
  | 1, _ =>
    match rest with
    | [] => simp [closing?]
    | d :: rest => simp_all [closing?]
  | 2, _ => simp [closing?]

theorem closing?_other {n : Nat} (hn : n ≤ 2) {x : Char} (hx : x ≠ quote) (more : List Char) :
    closing? quote (List.replicate n quote ++ x :: more) = none := by
  match n, hn with
  | 0, _ =>
    match more with
    | [] => simp [closing?]
    | [y] => simp [closing?]
    | y :: z :: more => simp [closing?, hx]
  | 1, _ =>
    match more with
    | [] => simp [closing?]
    | y :: more => simp [closing?, hx]
  | 2, _ => simp [closing?, hx]

theorem Spells.eq_of_quotes (hquote : quote ≠ '\\' ∧ quote ≠ '\n')
    (h : Spells quote block text inner) (hinner : ∀ x ∈ inner, x = quote) : text = inner := by
  induction h with
  | nil => rfl
  | @cons c text piece inner hpiece _ _ ih =>
    rw [ih fun x hx => hinner x (List.mem_append_right _ hx)]
    cases hpiece with
    | plain => rfl
    | newline => exact absurd (hinner '\n' (by simp)).symm hquote.2
    | escaped => exact absurd (hinner '\\' (by simp)).symm hquote.1

theorem readBlock_closed {f : Char} {fuel : List Char} {closed : List Char × List Char}
    (h : closing? quote text = some closed) :
    readBlock quote (f :: fuel) text = some closed := by
  cases text with
  | nil => rw [readBlock, h]
  | cons c text => rw [readBlock, h]

theorem readBlock_piece (h : Piece quote true c piece) {f : Char} {fuel : List Char}
    (hclosing : closing? quote (piece ++ rest) = none) :
    readBlock quote (f :: fuel) (piece ++ rest) =
      (readBlock quote fuel rest).map fun (cs, rest) => (c :: cs, rest) := by
  cases h with
  | plain hplain hquote hslash =>
    have hne : ¬ (c = '\\' ∧ quote = '"') := fun h => hslash h.2 h.1
    rw [List.singleton_append] at hclosing ⊢
    simp only [readBlock, hclosing, afterBreak?_cons (ne_of_isPlain hplain), if_neg hne,
      if_pos hplain]
    cases readBlock quote fuel rest <;> rfl
  | newline _ hc =>
    subst hc
    rw [List.singleton_append] at hclosing ⊢
    simp only [readBlock, hclosing, afterBreak?]
    cases readBlock quote fuel rest <;> rfl
  | @escaped d code hquote hblank hbreak hread =>
    subst hquote
    have hfold : afterFold? (d :: (code ++ rest)) = none := by
      rw [afterFold?, skipBlank, List.dropWhile_cons_of_neg (by simp [hblank]),
        afterBreak?_cons hbreak]
      rfl
    rw [List.cons_append, List.cons_append] at hclosing ⊢
    have hslash : afterBreak? ('\\' :: d :: (code ++ rest)) = none :=
      afterBreak?_cons (by decide)
    simp only [readBlock, hclosing, hslash, hfold, hread, and_self, if_true]
    cases h : readBlock '"' fuel rest <;> simp [h]

theorem readBlock_of_spells (hquote : quote ≠ '\\' ∧ quote ≠ '\n')
    (h : Spells quote true text inner) (hrest : rest.head? ≠ some quote) :
    ∀ fuel : List Char, inner.length < fuel.length →
      readBlock quote fuel (inner ++ quote :: quote :: quote :: rest) = some (text, rest) := by
  induction h with
  | nil =>
    intro fuel hfuel
    obtain ⟨f, fuel, rfl⟩ := List.exists_cons_of_ne_nil (List.ne_nil_of_length_pos hfuel)
    exact readBlock_closed (closing?_quotes (Nat.zero_le 2) hrest)
  | @cons c text piece inner hpiece hfew hspells ih =>
    intro fuel hfuel
    have hlength := List.length_pos_iff.mpr hpiece.ne_nil
    rw [List.length_append] at hfuel
    obtain ⟨f, fuel, rfl⟩ := List.exists_cons_of_ne_nil
      (List.ne_nil_of_length_pos (by omega : 0 < fuel.length))
    rw [List.length_cons] at hfuel
    obtain ⟨n, hn, hquotes | ⟨x, more, hx, hother⟩⟩ := quotes_or_other (hfew rfl)
    · -- Only quotes are left, and the closing ones are those after them.
      have hall : ∀ x ∈ piece ++ inner, x = quote := by
        rw [hquotes]
        exact fun x hx => List.eq_of_mem_replicate hx
      rw [Spells.eq_of_quotes hquote (.cons hpiece hfew hspells) hall, hquotes]
      exact readBlock_closed (closing?_quotes hn hrest)
    · have hclosing := closing?_other hn hx (more ++ quote :: quote :: quote :: rest)
      rw [← List.cons_append, ← List.append_assoc, ← hother, List.append_assoc] at hclosing
      rw [List.append_assoc, readBlock_piece hpiece hclosing, ih fuel (by omega)]
      rfl

/-! ## What the writer puts between quotes -/

theorem hexValue?_toUpper_digitChar {v : Nat} (h : v < 16) :
    Text.hexValue? (Text.digitChar v).toUpper = some v := by
  revert v
  decide

theorem digitValue?_toUpper_digitChar {v : Nat} (h : v < 16) :
    Text.digitValue? 16 (Text.digitChar v).toUpper = some v := by
  rw [Text.digitValue?, hexValue?_toUpper_digitChar h]
  simpa using h

theorem toNat_of_needsEscape (h : needsEscape c = true) : c.toNat < 128 := by
  rw [needsEscape, decide_eq_true_eq] at h
  rcases h with ⟨hlt, -, -⟩ | rfl
  · have : c.toNat < 32 := hlt
    omega
  · decide

/-- A character that is written by number is read from its number. -/
theorem readEscape_code (h : needsEscape c = true) (rest : List Char) :
    readEscape ('u' :: '0' :: '0' :: (Text.digitChar (c.toNat / 16)).toUpper ::
      (Text.digitChar (c.toNat % 16)).toUpper :: rest) = some (c, rest) := by
  have hlt := toNat_of_needsEscape h
  have hzero : Text.digitValue? 16 '0' = some 0 := by decide
  have hhigh := digitValue?_toUpper_digitChar (v := c.toNat / 16) (by omega)
  have hlow := digitValue?_toUpper_digitChar (v := c.toNat % 16) (by omega)
  have hsum : 16 * (c.toNat / 16) + c.toNat % 16 = c.toNat := Nat.div_add_mod _ _
  have hscalar : Text.scalar? c.toNat = some c := by
    rw [Text.scalar?, if_pos (show c.toNat.isValidChar from c.valid), Char.ofNat_toNat]
  simp [readEscape, readCode, Text.numeralValue?, hzero, hhigh, hlow, hsum, hscalar]

theorem isPlain_of_not_needsEscape (h : needsEscape c = false) (hbreak : c ≠ '\n') :
    isPlain c = true := by
  rw [needsEscape, decide_eq_false_iff_not, not_or] at h
  rw [isPlain, decide_eq_true_eq]
  by_cases htab : c = '\t'
  · exact Or.inl htab
  · refine Or.inr ⟨?_, h.2⟩
    exact Char.not_lt.mp fun hlt => h.1 ⟨hlt, htab, hbreak⟩

theorem piece_escape (h : c ≠ '"') : Piece '"' block c (escape block c) := by
  rw [escape]
  split
  · next hc => exact .escaped rfl (by decide) (by decide) (by simp [hc, readEscape])
  split
  · next hc => exact .escaped rfl (by decide) (by decide) (by simp [hc, readEscape])
  split
  · next hc => exact .escaped rfl (by decide) (by decide) (by simp [hc, readEscape])
  split
  · next hc =>
    split
    · next hblock => exact .newline hblock hc
    · exact .escaped rfl (by decide) (by decide) (by simp [hc, readEscape])
  split
  · next hc => exact .escaped rfl (by decide) (by decide) (by simp [hc, readEscape])
  split
  · next hc => exact .escaped rfl (by decide) (by decide) (by simp [hc, readEscape])
  split
  · next hcode => exact .escaped rfl (by decide) (by decide) (readEscape_code hcode)
  · next hslash _ _ hbreak _ _ hcode =>
    exact .plain (isPlain_of_not_needsEscape (by simpa using hcode) hbreak) (fun _ => h)
      (fun _ => hslash)

theorem piece_quote : Piece '"' block '"' ['\\', '"'] :=
  .escaped rfl (by decide) (by decide) fun _ => rfl

theorem leadingQuotes_escape (h : c ≠ '"') (l : List Char) :
    leadingQuotes '"' (escape block c ++ l) = 0 := by
  have hpiece : Piece '"' block c (escape block c) := piece_escape h
  cases hescape : escape block c with
  | nil => exact absurd hescape hpiece.ne_nil
  | cons d code =>
    rw [hescape] at hpiece
    refine leadingQuotes_cons_of_ne ?_ _
    cases hpiece with
    | plain => exact h
    | newline => decide
    | escaped => decide

/-- Quotes of a text of several lines stand as they are, up to two in a row. -/
theorem leadingQuotes_escapeAll (text : List Char) {run : Nat} (hrun : run ≤ 2) :
    leadingQuotes '"' (escapeAll true run text) + run ≤ 2 := by
  induction text generalizing run with
  | nil => simpa [escapeAll, leadingQuotes] using hrun
  | cons c text ih =>
    rw [escapeAll]
    split
    · split
      · next h =>
        have := ih (show run + 1 ≤ 2 by simp at h; omega)
        rw [leadingQuotes_cons_self]
        omega
      · rw [leadingQuotes_cons_of_ne (by decide)]
        omega
    · next hc =>
      rw [leadingQuotes_escape hc]
      omega

theorem spells_escapeAll (block : Bool) (text : List Char) {run : Nat} (hrun : run ≤ 2) :
    Spells '"' block text (escapeAll block run text) := by
  induction text generalizing run with
  | nil => exact .nil
  | cons c text ih =>
    have hfew : block = true → leadingQuotes '"' (escapeAll block run (c :: text)) ≤ 2 := by
      rintro rfl
      have := leadingQuotes_escapeAll (c :: text) hrun
      omega
    rw [escapeAll] at hfew ⊢
    split at hfew
    · next hc =>
      subst hc
      rw [if_pos rfl]
      split at hfew
      · next h =>
        rw [if_pos h]
        obtain ⟨hblock, hlt⟩ : block = true ∧ run < 2 := by simpa using h
        exact .cons (.plain (by decide) (by simp [hblock]) (by decide)) hfew (ih (by omega))
      · next h =>
        rw [if_neg h]
        exact .cons piece_quote hfew (ih (by omega))
    · next hc =>
      rw [if_neg hc]
      exact .cons (piece_escape hc) hfew (ih (by omega))

/-! ### Texts without escapes -/

theorem add_leadingQuotes_le_longestRun (quote : Char) (run : Nat) (l : List Char) :
    run + leadingQuotes quote l ≤ longestRun quote run l := by
  induction l generalizing run with
  | nil => exact Nat.le_refl run
  | cons d l ih =>
    rw [longestRun]
    split
    · next hd =>
      subst hd
      have := ih (run + 1)
      rw [leadingQuotes_cons_self]
      omega
    · next hd =>
      rw [leadingQuotes_cons_of_ne hd]
      exact Nat.le_max_left _ _

theorem longestRun_le_of_le (quote : Char) {run run' : Nat} (h : run ≤ run') (l : List Char) :
    longestRun quote run l ≤ longestRun quote run' l := by
  induction l generalizing run run' with
  | nil => exact h
  | cons d l ih =>
    rw [longestRun, longestRun]
    split
    · exact ih (Nat.succ_le_succ h)
    · exact Nat.max_le.mpr ⟨Nat.le_trans h (Nat.le_max_left _ _), Nat.le_max_right _ _⟩

theorem longestRun_le_cons (quote d : Char) (l : List Char) :
    longestRun quote 0 l ≤ longestRun quote 0 (d :: l) := by
  rw [longestRun]
  split
  · exact longestRun_le_of_le quote (Nat.zero_le 1) l
  · exact Nat.le_max_right _ _

theorem not_mem_of_longestRun (h : longestRun quote 0 text = 0) : quote ∉ text := by
  induction text with
  | nil => simp
  | cons d text ih =>
    have hrest := longestRun_le_cons quote d text
    have hlead := add_leadingQuotes_le_longestRun quote 0 (d :: text)
    intro hmem
    rcases List.mem_cons.mp hmem with rfl | hmem
    · rw [leadingQuotes_cons_self] at hlead
      omega
    · exact ih (by omega) hmem

/-- In single quotes a text spells itself. -/
theorem spells_self (hquote : quote ≠ '"')
    (hplain : ∀ c ∈ text, isPlain c = true ∨ block = true ∧ c = '\n')
    (hline : block = false → quote ∉ text) (hrun : block = true → longestRun quote 0 text ≤ 2) :
    Spells quote block text text := by
  induction text with
  | nil => exact .nil
  | cons c text ih =>
    have hfew : block = true → leadingQuotes quote (c :: text) ≤ 2 := fun hblock => by
      have := add_leadingQuotes_le_longestRun quote 0 (c :: text)
      have := hrun hblock
      omega
    have hrest : Spells quote block text text := by
      refine ih (fun d hd => hplain d (List.mem_cons_of_mem c hd)) ?_ ?_
      · exact fun hblock hmem => hline hblock (List.mem_cons_of_mem c hmem)
      · exact fun hblock => Nat.le_trans (longestRun_le_cons quote c text) (hrun hblock)
    have hpiece : Piece quote block c [c] := by
      rcases hplain c List.mem_cons_self with hc | ⟨hblock, rfl⟩
      · refine .plain hc ?_ (fun h => absurd h hquote)
        rintro hblock rfl
        exact hline hblock List.mem_cons_self
      · exact .newline hblock rfl
    exact .cons hpiece hfew hrest

/-! ## Reading what was written -/

theorem Spells.head?_ne (h : Spells quote false text inner) (hquote : quote ≠ '\\') :
    inner.head? ≠ some quote := by
  cases h with
  | nil => simp
  | cons hpiece _ _ =>
    cases hpiece with
    | plain _ hne _ => simpa using hne rfl
    | newline hblock => cases hblock
    | escaped => simpa using hquote.symm

theorem Spells.afterBreak?_eq_none (h : Spells quote true text inner) (htext : '\n' ∉ text)
    (hquote : quote ≠ '\n' ∧ quote ≠ '\r') :
    afterBreak? (inner ++ quote :: rest) = none := by
  cases h with
  | nil => exact afterBreak?_cons hquote
  | cons hpiece _ _ =>
    cases hpiece with
    | plain hplain => exact afterBreak?_cons (ne_of_isPlain hplain)
    | newline _ hc => exact absurd hc.symm (by rintro rfl; exact htext List.mem_cons_self)
    | escaped => exact afterBreak?_cons (by decide)

theorem readQuoted_of_spells (h : Spells quote false text inner) (rest : List Char) :
    readQuoted quote (inner ++ quote :: rest) = some (String.ofList text, rest) := by
  rw [readQuoted, readLine_of_spells h rest _ (by simp)]
  rfl

theorem readQuotedBlock_of_spells (hquote : quote ≠ '\\' ∧ quote ≠ '\n' ∧ quote ≠ '\r')
    (h : Spells quote true text inner) (hrest : rest.head? ≠ some quote) :
    readQuotedBlock quote (blockBody text inner ++ quote :: quote :: quote :: rest) =
      some (String.ofList text, rest) := by
  have hread := readBlock_of_spells ⟨hquote.1, hquote.2.1⟩ h hrest
    (inner ++ quote :: quote :: quote :: rest) (by simp)
  rw [readQuotedBlock, blockBody]
  split
  · -- The line break that was put before the text is taken off.
    rw [List.cons_append, afterBreak?, Option.getD_some, hread]
    rfl
  · next htext =>
    rw [h.afterBreak?_eq_none (by simpa using htext) hquote.2, Option.getD_none, hread]
    rfl

/-- Two quotes do not open a text of several lines, unless a third one follows. -/
theorem Spells.append_ne (h : Spells quote false text inner) (hquote : quote ≠ '\\')
    (hrest : rest.head? ≠ some quote) (more : List Char) :
    inner ++ quote :: rest ≠ quote :: quote :: more := by
  have hhead := h.head?_ne hquote
  intro heq
  cases inner with
  | nil =>
    rw [List.nil_append, List.cons.injEq] at heq
    exact hrest (by rw [heq.2]; rfl)
  | cons d inner =>
    rw [List.cons_append, List.cons.injEq] at heq
    exact hhead (by rw [heq.1]; rfl)

theorem readText_basic (h : Spells '"' false text inner) (hrest : rest.head? ≠ some '"') :
    readText ('"' :: (inner ++ '"' :: rest)) = some (String.ofList text, rest) := by
  rw [readText]
  · exact readQuoted_of_spells h rest
  · exact fun more heq => h.append_ne (by decide) hrest more heq

theorem readText_literal (h : Spells '\'' false text inner) (hrest : rest.head? ≠ some '\'') :
    readText ('\'' :: (inner ++ '\'' :: rest)) = some (String.ofList text, rest) := by
  rw [readText]
  · exact readQuoted_of_spells h rest
  · exact fun more heq => h.append_ne (by decide) hrest more heq

theorem isPlain_or_newline (h : text.any needsEscape = false) (hc : c ∈ text) :
    isPlain c = true ∨ c = '\n' := by
  by_cases hbreak : c = '\n'
  · exact Or.inr hbreak
  · refine Or.inl (isPlain_of_not_needsEscape ?_ hbreak)
    simpa using List.any_eq_false.mp h c hc

theorem quoting_eq_literal (h : quoting text = .literal) :
    text.any needsEscape = false ∧ longestRun '\'' 0 text = 0 ∧ '\n' ∉ text := by
  simp only [quoting] at h
  split at h; · cases h
  split at h
  · next hc => simpa [and_assoc] using hc
  split at h; · cases h
  split at h; · cases h
  split at h <;> cases h

theorem quoting_eq_literalBlock (h : quoting text = .literalBlock) :
    text.any needsEscape = false ∧ longestRun '\'' 0 text ≤ 2 := by
  simp only [quoting] at h
  split at h; · cases h
  split at h; · cases h
  split at h; · cases h
  split at h
  · next hc => simpa using hc
  split at h <;> cases h

/-- In single quotes no character of the text has to be escaped. -/
theorem spells_of_literal (h : quoting text = .literal) : Spells '\'' false text text := by
  obtain ⟨hcoded, hsingles, hbroken⟩ := quoting_eq_literal h
  refine spells_self (by decide) ?_ (fun _ => not_mem_of_longestRun hsingles) (by simp)
  intro c hc
  rcases isPlain_or_newline hcoded hc with hplain | rfl
  · exact Or.inl hplain
  · exact absurd hc hbroken

theorem spells_of_literalBlock (h : quoting text = .literalBlock) :
    Spells '\'' true text text := by
  obtain ⟨hcoded, hsingles⟩ := quoting_eq_literalBlock h
  refine spells_self (by decide) ?_ (by simp) (fun _ => hsingles)
  intro c hc
  rcases isPlain_or_newline hcoded hc with hplain | rfl
  · exact Or.inl hplain
  · exact Or.inr ⟨rfl, rfl⟩

/-- **A text in quotes is read back,** whatever characters it has, if no further quote follows. -/
theorem readText_quoted (text : List Char) (hbasic : rest.head? ≠ some '"')
    (hliteral : rest.head? ≠ some '\'') :
    readText (quoted text ++ rest) = some (String.ofList text, rest) := by
  rw [quoted]
  cases hquoting : quoting text with
  | basic =>
    have hspells := spells_escapeAll false text (Nat.zero_le 2)
    simpa using readText_basic hspells hbasic
  | literal =>
    simpa using readText_literal (spells_of_literal hquoting) hliteral
  | basicBlock =>
    have hspells := spells_escapeAll true text (Nat.zero_le 2)
    simpa [readText] using readQuotedBlock_of_spells (by decide) hspells hbasic
  | literalBlock =>
    have hspells := spells_of_literalBlock hquoting
    simpa [readText] using readQuotedBlock_of_spells (by decide) hspells hliteral

end EntityProps.Toml
