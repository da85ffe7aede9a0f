import EntityProps.Proofs.Toml.Values

/-!
# Lines of a document

A document is written line by line: pairs of a key and its value, headers, and
empty lines between blocks of them. Each line is read as its statement, whatever
comes after it (`IsLineOf`), so a text made of lines is read as their statements
(`readStatements_lines`).

Keys stand without quotes, so a key that needs them is no key here
(`IsBareKey`).
-/

namespace EntityProps.Toml

variable {rest text cs : List Char} {key : String} {d : Data}

/-! ## Keys -/

/-- The key can stand without quotes. -/
structure IsBareKey (key : String) : Prop where
  ne_nil : key.toList ≠ []
  keyChars : ∀ c ∈ key.toList, isKeyChar c = true

instance : DecidablePred IsBareKey := fun key =>
  decidable_of_iff (key.toList ≠ [] ∧ key.toList.all isKeyChar = true)
    ⟨fun h => ⟨h.1, List.all_eq_true.mp h.2⟩, fun h => ⟨h.ne_nil, List.all_eq_true.mpr h.keyChars⟩⟩

theorem IsBareKey.exists_cons (h : IsBareKey key) :
    ∃ c more, key.toList = c :: more ∧ isKeyChar c = true := by
  obtain ⟨c, more, hkey⟩ := List.exists_cons_of_ne_nil h.ne_nil
  exact ⟨c, more, hkey, h.keyChars c (by simp [hkey])⟩

theorem ne_of_isKeyChar {c d : Char} (hc : isKeyChar c = true) (hd : isKeyChar d = false) :
    c ≠ d := by
  rintro rfl
  rw [hc] at hd
  cases hd

theorem isBlank_of_isKeyChar {c : Char} (hc : isKeyChar c = true) : isBlank c = false := by
  rw [isBlank, decide_eq_false_iff_not, not_or]
  exact ⟨ne_of_isKeyChar hc (by decide), ne_of_isKeyChar hc (by decide)⟩

theorem readSimpleKey_bare (hkey : IsBareKey key) (hrest : ∀ c ∈ rest.head?, isKeyChar c = false) :
    readSimpleKey (key.toList ++ rest) = some (key, rest) := by
  obtain ⟨c, more, hcons, hc⟩ := hkey.exists_cons
  have hspan : (key.toList ++ rest).span isKeyChar = (key.toList, rest) :=
    span_append_of_head? hkey.keyChars hrest
  rw [readSimpleKey, hspan]
  · rw [hcons, ← String.ofList_toList (s := key), hcons]
  · simp only [hcons, List.cons_append, List.cons.injEq]
    exact fun _ h => ne_of_isKeyChar hc (by decide) h.1
  · simp only [hcons, List.cons_append, List.cons.injEq]
    exact fun _ h => ne_of_isKeyChar hc (by decide) h.1

/-- A key without quotes is read with the space after it. -/
theorem readKey_bare (hkey : IsBareKey key) (hrest : ∀ c ∈ rest.head?, isKeyChar c = false)
    (hdot : (skipBlank rest).head? ≠ some '.') :
    readKey (key.toList ++ rest) = some (⟨[], key⟩, skipBlank rest) := by
  obtain ⟨c, more, hcons, hc⟩ := hkey.exists_cons
  have hskip : skipBlank (key.toList ++ rest) = key.toList ++ rest := by
    rw [hcons, skipBlank, List.cons_append,
      List.dropWhile_cons_of_neg (by simp [isBlank_of_isKeyChar hc])]
  rw [readKey, depthLimit, readKeyParts, hskip, readSimpleKey_bare hkey hrest]
  simp only [Option.bind_eq_bind, Option.bind_some]
  split
  · next h =>
    rw [h] at hdot
    exact absurd rfl hdot
  · rfl

/-! ## Lines -/

/-- The text is the line of a statement: it is read as this statement, whatever comes after. -/
structure IsLineOf (cs : List Char) (s : Statement) : Prop where
  starts : ∃ c more, cs = c :: more ∧ isBlank c = false ∧ c ≠ '\ufeff'
  read : ∀ rest, readStatement (cs ++ rest) = some (s, rest)

theorem isLineOf_blank : IsLineOf ['\n'] .blank where
  starts := ⟨_, _, rfl, by decide⟩
  read _ := rfl

theorem afterLine?_newline (rest : List Char) : afterLine? ('\n' :: rest) = some rest := by
  simp [afterLine?, skipBlank, isBlank, afterBreak?]

theorem isLineOf_pair (hkey : IsBareKey key) (hd : IsFlat d) (h : pairChars? (key, d) = some cs) :
    IsLineOf cs (.pair ⟨[], key⟩ d) := by
  rw [pairChars?, Option.map_eq_some_iff] at h
  obtain ⟨value, hvalue, rfl⟩ := h
  obtain ⟨c, more, hcons, hc⟩ := hkey.exists_cons
  refine ⟨⟨c, _, by rw [hcons]; rfl, isBlank_of_isKeyChar hc, ne_of_isKeyChar hc (by decide)⟩,
    fun rest => ?_⟩
  have hskip : skipBlank (' ' :: (value ++ '\n' :: rest)) = value ++ '\n' :: rest :=
    ((startsValue_flat hd hvalue).append _).skipBlank_eq
  have hread : readPair (readValue (depthLimit - 1))
      (key.toList ++ ' ' :: '=' :: ' ' :: (value ++ '\n' :: rest)) =
        some ((⟨[], key⟩, d), '\n' :: rest) := by
    have hkeyRead : readKey (key.toList ++ ' ' :: '=' :: ' ' :: (value ++ '\n' :: rest)) =
        some (⟨[], key⟩, skipBlank (' ' :: '=' :: ' ' :: (value ++ '\n' :: rest))) :=
      readKey_bare hkey (by simp; decide) (by simp [skipBlank, isBlank])
    have hequals : skipBlank (' ' :: '=' :: ' ' :: (value ++ '\n' :: rest)) =
        '=' :: ' ' :: (value ++ '\n' :: rest) := by simp [skipBlank, isBlank]
    simp only [readPair, hkeyRead, hequals, Option.bind_eq_bind, Option.bind_some, hskip]
    rw [depthLimit, readValue_flat hd hvalue (.newline rest)]
    rfl
  have htext : key.toList ++ ' ' :: '=' :: ' ' :: value ++ ['\n'] ++ rest =
      key.toList ++ ' ' :: '=' :: ' ' :: (value ++ '\n' :: rest) := by simp
  rw [htext, readStatement]
  · simp only [hread, afterLine?_newline, Option.bind_eq_bind, Option.bind_some]
  all_goals
    simp only [hcons, List.cons_append, List.cons.injEq]
    exact fun _ h => ne_of_isKeyChar hc (by decide) h.1

theorem readHeader_bare (hkey : IsBareKey key) (closing rest : List Char)
    (hclosing : ∃ more, closing = ']' :: more) :
    readHeader closing (key.toList ++ closing ++ '\n' :: rest) = some (⟨[], key⟩, rest) := by
  obtain ⟨more, rfl⟩ := hclosing
  have hblank : skipBlank (']' :: more ++ '\n' :: rest) = ']' :: more ++ '\n' :: rest := by
    simp [skipBlank, isBlank]
  have hkeyRead : readKey (key.toList ++ (']' :: more ++ '\n' :: rest)) =
      some (⟨[], key⟩, skipBlank (']' :: more ++ '\n' :: rest)) :=
    readKey_bare hkey (by simp; decide) (by rw [hblank]; simp)
  have hclose : (']' :: more).isPrefixOf? (']' :: more ++ '\n' :: rest) = some ('\n' :: rest) :=
    List.isPrefixOf?_eq_some_iff_append_eq.mpr rfl
  simp only [readHeader, List.append_assoc, hkeyRead, hblank, hclose, afterLine?_newline,
    Option.bind_eq_bind, Option.bind_some]

theorem isLineOf_table (hkey : IsBareKey key) :
    IsLineOf (['['] ++ key.toList ++ [']'] ++ ['\n']) (.table ⟨[], key⟩) := by
  refine ⟨⟨_, _, rfl, by decide⟩, fun rest => ?_⟩
  have hread := readHeader_bare hkey [']'] rest ⟨_, rfl⟩
  have htext : ['['] ++ key.toList ++ [']'] ++ ['\n'] ++ rest =
      '[' :: (key.toList ++ [']'] ++ '\n' :: rest) := by simp
  rw [htext, readStatement, hread]
  · rfl
  · obtain ⟨c, more, hcons, hc⟩ := hkey.exists_cons
    simp only [hcons, List.cons_append, List.cons.injEq]
    exact fun _ h => ne_of_isKeyChar hc (by decide) h.1

theorem isLineOf_element (hkey : IsBareKey key) :
    IsLineOf (['[', '['] ++ key.toList ++ [']', ']'] ++ ['\n']) (.element ⟨[], key⟩) := by
  refine ⟨⟨_, _, rfl, by decide⟩, fun rest => ?_⟩
  have hread := readHeader_bare hkey [']', ']'] rest ⟨_, rfl⟩
  have htext : ['[', '['] ++ key.toList ++ [']', ']'] ++ ['\n'] ++ rest =
      '[' :: '[' :: (key.toList ++ [']', ']'] ++ '\n' :: rest) := by simp
  rw [htext, readStatement, hread]
  rfl

/-! ## Statements -/

/-- The statement says something. -/
def Statement.counts : Statement → Bool
  | .blank => false
  | _ => true

/-- The text is made of the lines of these statements, with empty lines between them. -/
inductive AreLinesOf : List Char → List Statement → Prop
  | nil : AreLinesOf [] []
  | blank {text : List Char} {ss : List Statement} (h : AreLinesOf text ss) :
      AreLinesOf ('\n' :: text) ss
  | cons {cs text : List Char} {s : Statement} {ss : List Statement} (hs : IsLineOf cs s)
      (hcounts : s.counts = true) (h : AreLinesOf text ss) : AreLinesOf (cs ++ text) (s :: ss)

variable {s : Statement} {ss ss' : List Statement} {text' : List Char}

theorem AreLinesOf.append (h : AreLinesOf text ss) (h' : AreLinesOf text' ss') :
    AreLinesOf (text ++ text') (ss ++ ss') := by
  induction h with
  | nil => exact h'
  | blank _ ih => exact .blank ih
  | cons hs hcounts _ ih =>
    rw [List.append_assoc]
    exact .cons hs hcounts ih

theorem areLinesOf_intercalate {blocks : List (List Char)} {statements : List (List Statement)}
    (h : List.Forall₂ AreLinesOf blocks statements) :
    AreLinesOf (List.intercalate ['\n'] blocks) statements.flatten := by
  induction h with
  | nil => exact .nil
  | @cons block ss blocks statements hblock hrest ih =>
    rw [List.flatten_cons]
    cases hrest with
    | nil => simpa using hblock
    | cons =>
      rw [List.intercalate_cons_cons, List.append_assoc]
      exact hblock.append (.blank ih)

theorem IsLineOf.skipBlank_eq (h : IsLineOf cs s) (rest : List Char) :
    skipBlank (cs ++ rest) = cs ++ rest := by
  obtain ⟨c, more, rfl, hc, -⟩ := h.starts
  rw [skipBlank, List.cons_append, List.dropWhile_cons_of_neg (by simp [hc])]

theorem readStatements_line (hs : IsLineOf cs s) (f : Char) (fuel : List Char) :
    readStatements (f :: fuel) (cs ++ text) = (readStatements fuel text).map (s :: ·) := by
  obtain ⟨c, more, hcs, -⟩ := hs.starts
  rw [readStatements, hs.skipBlank_eq]
  split
  · next h => simp [hcs] at h
  · simp only [hs.read text, Option.bind_eq_bind, Option.bind_some]
    cases readStatements fuel text <;> rfl

/-- The lines of statements are read as them, apart from the empty lines. -/
theorem readStatements_lines (h : AreLinesOf text ss) :
    ∀ fuel : List Char, text.length < fuel.length →
      ∃ read, readStatements fuel text = some read ∧ read.filter (·.counts) = ss := by
  induction h with
  | nil =>
    intro fuel hfuel
    obtain ⟨f, fuel, rfl⟩ := List.exists_cons_of_ne_nil (List.ne_nil_of_length_pos hfuel)
    exact ⟨[], rfl, rfl⟩
  | @blank text ss _ ih =>
    intro fuel hfuel
    obtain ⟨f, fuel, rfl⟩ := List.exists_cons_of_ne_nil
      (List.ne_nil_of_length_pos (Nat.zero_lt_of_lt hfuel))
    obtain ⟨read, hread, hss⟩ := ih fuel (Nat.lt_of_succ_lt_succ hfuel)
    refine ⟨.blank :: read, ?_, hss⟩
    have hline : readStatements (f :: fuel) (['\n'] ++ text) = _ :=
      readStatements_line isLineOf_blank f fuel
    rw [hread] at hline
    exact hline
  | @cons cs text s ss hs hcounts _ ih =>
    intro fuel hfuel
    obtain ⟨f, fuel, rfl⟩ := List.exists_cons_of_ne_nil
      (List.ne_nil_of_length_pos (Nat.zero_lt_of_lt hfuel))
    obtain ⟨c, more, hcs, -⟩ := hs.starts
    rw [List.length_append, List.length_cons, hcs, List.length_cons] at hfuel
    obtain ⟨read, hread, rfl⟩ := ih fuel (by omega)
    refine ⟨s :: read, ?_, List.filter_cons_of_pos hcounts⟩
    rw [readStatements_line hs, hread]
    rfl

end EntityProps.Toml
