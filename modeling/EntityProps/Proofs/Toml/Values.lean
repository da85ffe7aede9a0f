import EntityProps.Proofs.Numeral
import EntityProps.Proofs.Results
import EntityProps.Proofs.Toml.Quoted
import EntityProps.Toml.Reader

/-!
# Values

What is written for a value of a document is read as this value
(`readValue_flat`). A value of a document is flat: a scalar, or a list of scalars.

A value is read up to a character that cannot belong to it, so each lemma leaves
open what comes after and only asks that it stops the value (`Stops`). A value
itself starts with a character that is neither space nor the end of a list
(`StartsValue`), so nothing of it is skipped.
-/

namespace EntityProps.Toml

/-! ## What follows a value -/

/-- The text goes on with a character that ends a value: a line break, a comma, or the bracket
that closes a list. -/
inductive Stops : List Char → Prop
  | newline (rest : List Char) : Stops ('\n' :: rest)
  | comma (rest : List Char) : Stops (',' :: rest)
  | bracket (rest : List Char) : Stops (']' :: rest)

variable {rest word : List Char} {c : Char}

theorem Stops.head?_ne (h : Stops rest) (hc : c ≠ '\n' ∧ c ≠ ',' ∧ c ≠ ']') :
    rest.head? ≠ some c := by
  cases h with
  | newline => simpa using Ne.symm hc.1
  | comma => simpa using Ne.symm hc.2.1
  | bracket => simpa using Ne.symm hc.2.2

theorem Stops.length_pos (h : Stops rest) : 0 < rest.length := by
  cases h <;> exact Nat.zero_lt_succ _

theorem span_append_of_stops {p : Char → Bool} (hword : ∀ c ∈ word, p c = true)
    (hp : p '\n' = false ∧ p ',' = false ∧ p ']' = false) (h : Stops rest) :
    (word ++ rest).span p = (word, rest) := by
  refine span_append_of_head? hword fun c hc => ?_
  cases h with
  | newline =>
    cases hc
    exact hp.1
  | comma =>
    cases hc
    exact hp.2.1
  | bracket =>
    cases hc
    exact hp.2.2

/-! ## Scalars -/

theorem readScalar_append (hword : ∀ c ∈ word, isScalarChar c = true) (hrest : Stops rest) :
    readScalar (word ++ rest) = (scalar? word).map (·, rest) := by
  have hspace : (rest.head? == some ' ') = false :=
    beq_false_of_ne (hrest.head?_ne (by decide))
  rw [readScalar, span_append_of_stops hword (by decide) hrest]
  simp [hspace]

def AreDigits (word : List Char) : Prop :=
  ∀ c ∈ word, ∃ v < 10, c = Text.digitChar v

theorem AreDigits.isScalarChar (h : AreDigits word) : ∀ c ∈ word, isScalarChar c = true := by
  have hdigit : ∀ v < 10, Toml.isScalarChar (Text.digitChar v) = true := by decide
  intro c hc
  obtain ⟨v, hv, rfl⟩ := h c hc
  exact hdigit v hv

theorem AreDigits.ne_of_mem (h : AreDigits word) (hc : c ∈ word)
    {d : Char} (hd : ∀ v < 10, Text.digitChar v ≠ d) : c ≠ d := by
  obtain ⟨v, hv, rfl⟩ := h c hc
  exact hd v hv

theorem areDigits_numeral (n : Nat) : AreDigits (Text.numeral 10 n) := fun _ hc =>
  Text.exists_digit_of_mem_numeral (by decide) hc

theorem ungroup?_of_digits (h : AreDigits word) (hne : word ≠ []) :
    ungroup? 10 word = some word := by
  fun_induction ungroup? 10 word with
  | case1 => exact absurd rfl hne
  | case2 d =>
    obtain ⟨v, hv, rfl⟩ := h d List.mem_cons_self
    rw [Text.digitValue?_digitChar (by decide) hv]
    rfl
  | case3 d rest ih => exact absurd rfl (h.ne_of_mem (c := '_') (by simp) (by decide))
  | case4 d rest hrest hmark ih =>
    obtain ⟨v, hv, rfl⟩ := h d List.mem_cons_self
    have hds := ih (fun c hc => h c (List.mem_cons_of_mem _ hc)) hrest
    rw [Text.digitValue?_digitChar (by decide) hv, hds]
    rfl

theorem decimal?_numeral (n : Nat) : decimal? (Text.numeral 10 n) = some (Text.numeral 10 n) := by
  rw [decimal?]
  · exact ungroup?_of_digits (areDigits_numeral n) (Text.numeral_ne_nil 10 n)
  · intro d ds h
    have hhead : (Text.numeral 10 n).head? = some '0' := by rw [h]; rfl
    have hzero : n = 0 := Text.eq_zero_of_head?_numeral (by decide) (by decide) hhead
    subst hzero
    simp [Text.numeral] at h

theorem splitSign_of_digits (h : AreDigits word) : splitSign word = (false, word) := by
  rw [splitSign]
  · rintro rest rfl
    exact h.ne_of_mem List.mem_cons_self (d := '-') (by decide) rfl
  · rintro rest rfl
    exact h.ne_of_mem List.mem_cons_self (d := '+') (by decide) rfl

theorem integer?_numeral (n : Nat) : integer? (Text.numeral 10 n) = some (n : Int) := by
  have hdigits := areDigits_numeral n
  -- The letter of another base is no decimal digit.
  have hbase : ∀ {b rest}, (∀ v < 10, Text.digitChar v ≠ b) →
      Text.numeral 10 n ≠ '0' :: b :: rest := by
    intro b rest hb h
    rw [h] at hdigits
    exact hdigits.ne_of_mem (by simp) hb rfl
  rw [integer?, splitSign_of_digits hdigits]
  · simp [decimal?_numeral, Text.numeralValue?_numeral]
  all_goals exact fun _ => hbase (by decide)

theorem integer?_integer (n : Int) : integer? (Text.integer n) = some n := by
  rw [Text.integer]
  split
  · next hneg =>
    rw [integer?]
    · simp only [splitSign, decimal?_numeral, Option.bind_eq_bind, Option.bind_some,
        Text.numeralValue?_numeral (by decide : 2 ≤ 10) (by decide), if_true, Option.some.injEq]
      omega
    all_goals simp
  · next hneg =>
    rw [integer?_numeral, Option.some.injEq]
    omega

theorem isScalarChar_of_mem_integer (n : Int) :
    ∀ c ∈ Text.integer n, isScalarChar c = true := by
  intro c hc
  rw [Text.integer] at hc
  split at hc
  · rcases List.mem_cons.mp hc with rfl | hc
    · decide
    · exact (areDigits_numeral n.natAbs).isScalarChar c hc
  · exact (areDigits_numeral n.natAbs).isScalarChar c hc

theorem scalar?_integer {n : Int} (h : isStorable n = true) :
    scalar? (Text.integer n) = some (.int n) := by
  obtain ⟨c, more, hinteger, hc⟩ := Text.head_integer n
  have hdigit : ∀ v < 10, Text.digitChar v ≠ 't' ∧ Text.digitChar v ≠ 'f' := by decide
  have hletter : c ≠ 't' ∧ c ≠ 'f' := by
    rcases hc with rfl | ⟨v, hv, rfl⟩
    · decide
    · exact hdigit v hv
  rw [scalar?, integer?_integer, if_neg, if_neg]
  · simp [h]
  · rw [hinteger, List.cons.injEq]
    exact fun hw => hletter.2 hw.1
  · rw [hinteger, List.cons.injEq]
    exact fun hw => hletter.1 hw.1

/-- A truth value, an integer or a text. -/
inductive IsScalar : Data → Prop
  | bool (value : Bool) : IsScalar (.bool value)
  | int (n : Int) : IsScalar (.int n)
  | str (text : String) : IsScalar (.str text)

/-- The text starts with a character that starts a value: no space, no line break, and no mark
of a comment or of the end of a list. -/
def StartsValue (text : List Char) : Prop :=
  ∃ c more, text = c :: more ∧ isBlank c = false ∧ c ≠ '\n' ∧ c ≠ '\r' ∧ c ≠ '#' ∧ c ≠ ']'

variable {d : Data} {cs : List Char} {depth : Nat}

theorem head_quoted (text : List Char) :
    ∃ c more, quoted text = c :: more ∧ (c = '"' ∨ c = '\'') := by
  rw [quoted]
  cases quoting text with
  | basic => exact ⟨_, _, rfl, Or.inl rfl⟩
  | literal => exact ⟨_, _, rfl, Or.inr rfl⟩
  | basicBlock => exact ⟨_, _, rfl, Or.inl rfl⟩
  | literalBlock => exact ⟨_, _, rfl, Or.inr rfl⟩

theorem readValue_quoted (text : List Char) (hrest : Stops rest) :
    readValue depth (quoted text ++ rest) = some (.str (String.ofList text), rest) := by
  have hread := readText_quoted text (hrest.head?_ne (by decide)) (hrest.head?_ne (by decide))
  obtain ⟨c, more, hquoted, hc⟩ := head_quoted text
  rw [hquoted, List.cons_append] at hread ⊢
  rcases hc with rfl | rfl
  · rw [readValue, hread]
    rfl
  · rw [readValue, hread]
    rfl

theorem readValue_word (hword : ∀ c ∈ word, isScalarChar c = true) (hne : word ≠ [])
    (hrest : Stops rest) :
    readValue depth (word ++ rest) = (scalar? word).map (·, rest) := by
  have hhead : ∀ {c more}, isScalarChar c = false → word ++ rest ≠ c :: more := by
    obtain ⟨d, word, rfl⟩ := List.exists_cons_of_ne_nil hne
    intro c more hc h
    rw [List.cons_append, List.cons.injEq] at h
    rw [← h.1, hword d List.mem_cons_self] at hc
    cases hc
  rw [readValue, readScalar_append hword hrest]
  all_goals exact fun _ => hhead (by decide)

/-- What is written for a scalar is read as this scalar. -/
theorem readValue_scalar (hd : IsScalar d) (h : scalarChars? d = some cs) (hrest : Stops rest) :
    readValue depth (cs ++ rest) = some (d, rest) := by
  cases hd with
  | bool value =>
    cases value with
    | true =>
      obtain rfl := Option.some.inj h
      rw [readValue_word (List.all_eq_true.mp (by decide)) (by decide) hrest]
      rfl
    | false =>
      obtain rfl := Option.some.inj h
      rw [readValue_word (List.all_eq_true.mp (by decide)) (by decide) hrest]
      rfl
  | int n =>
    rw [scalarChars?, Option.ite_none_right_eq_some, Option.some.injEq] at h
    obtain ⟨hn, rfl⟩ := h
    obtain ⟨c, more, hc, -⟩ := Text.head_integer n
    rw [readValue_word (isScalarChar_of_mem_integer n) (by simp [hc]) hrest, scalar?_integer hn]
    rfl
  | str text =>
    obtain rfl := Option.some.inj h
    rw [readValue_quoted text.toList hrest, String.ofList_toList]

theorem startsValue_scalar (hd : IsScalar d) (h : scalarChars? d = some cs) : StartsValue cs := by
  cases hd with
  | bool value =>
    cases value <;> obtain rfl := Option.some.inj h
    · exact ⟨_, _, rfl, by decide⟩
    · exact ⟨_, _, rfl, by decide⟩
  | int n =>
    rw [scalarChars?, Option.ite_none_right_eq_some, Option.some.injEq] at h
    obtain ⟨-, rfl⟩ := h
    obtain ⟨c, more, hinteger, hc⟩ := Text.head_integer n
    have hdigit : ∀ v < 10, isBlank (Text.digitChar v) = false ∧ Text.digitChar v ≠ '\n' ∧
        Text.digitChar v ≠ '\r' ∧ Text.digitChar v ≠ '#' ∧ Text.digitChar v ≠ ']' := by decide
    refine ⟨c, more, hinteger, ?_⟩
    rcases hc with rfl | ⟨v, hv, rfl⟩
    · decide
    · exact hdigit v hv
  | str text =>
    obtain rfl := Option.some.inj h
    obtain ⟨c, more, hquoted, hc⟩ := head_quoted text.toList
    refine ⟨c, more, hquoted, ?_⟩
    rcases hc with rfl | rfl <;> decide

/-! ## Lists -/

variable {value : List Char → Option (Data × List Char)} {items : List Data}
  {texts : List (List Char)}

theorem StartsValue.append (h : StartsValue cs) (rest : List Char) : StartsValue (cs ++ rest) := by
  obtain ⟨c, more, rfl, hc⟩ := h
  exact ⟨c, more ++ rest, rfl, hc⟩

theorem StartsValue.skipBlank_eq (h : StartsValue cs) : skipBlank cs = cs := by
  obtain ⟨c, more, rfl, hblank, -⟩ := h
  rw [skipBlank, List.dropWhile_cons_of_neg (by simp [hblank])]

theorem StartsValue.skipLines_eq (h : StartsValue cs) : skipLines false cs = cs := by
  obtain ⟨c, more, rfl, hblank, hnewline, hreturn, hcomment, -⟩ := h
  rw [skipLines, if_neg hcomment, if_neg (by simp [hblank])]
  · exact hnewline
  · exact fun _ hc _ => hreturn hc

theorem skipLines_comma (rest : List Char) : skipLines false (',' :: rest) = ',' :: rest := by
  simp [skipLines, isBlank]

theorem skipLines_bracket (rest : List Char) : skipLines false (']' :: rest) = ']' :: rest := by
  simp [skipLines, isBlank]

theorem readItems_end (f : Char) (fuel rest : List Char) :
    readItems value (f :: fuel) (']' :: rest) = some ([], rest) := by
  simp [readItems, skipLines, isBlank]

/-- After an item, what follows it tells whether there are further ones. -/
theorem readItems_item {text : List Char} (htext : skipLines false text = cs ++ rest)
    (hstarts : StartsValue cs) (hread : value (cs ++ rest) = some (d, rest)) (f : Char)
    (fuel : List Char) :
    readItems value (f :: fuel) text =
      match skipLines false rest with
      | ',' :: rest => do
        let (ds, rest) ← readItems value fuel rest
        some (d :: ds, rest)
      | ']' :: rest => some ([d], rest)
      | _ => none := by
  obtain ⟨c, after, hcs, -, -, -, -, hbracket⟩ := hstarts.append rest
  rw [readItems, htext]
  split
  · next h =>
    rw [hcs, List.cons.injEq] at h
    exact absurd h.1 hbracket
  · rw [hread]
    rfl

/-- The items are scalars with these texts. -/
def AreScalars (items : List Data) (texts : List (List Char)) : Prop :=
  List.Forall₂ (fun d cs => IsScalar d ∧ scalarChars? d = some cs) items texts

def itemLine (item : List Char) : List Char :=
  '\n' :: ' ' :: ' ' :: ' ' :: ' ' :: item ++ [',']

theorem skipLines_itemLine (h : StartsValue cs) (rest : List Char) :
    skipLines false (itemLine cs ++ rest) = cs ++ ',' :: rest := by
  simpa [itemLine, skipLines, isBlank] using (h.append (',' :: rest)).skipLines_eq

theorem readItems_lines (h : AreScalars items texts) (rest : List Char) :
    ∀ fuel : List Char, texts.length < fuel.length →
      readItems (readValue depth) fuel (texts.flatMap itemLine ++ '\n' :: ']' :: rest) =
        some (items, rest) := by
  -- Each item takes one character of the fuel, and the bracket at the end one more.
  induction h with
  | nil =>
    intro fuel hfuel
    obtain ⟨f, fuel, rfl⟩ := List.exists_cons_of_ne_nil (List.ne_nil_of_length_pos hfuel)
    simp [readItems, skipLines, isBlank]
  | @cons d cs items texts hd _ ih =>
    intro fuel hfuel
    rw [List.length_cons] at hfuel
    obtain ⟨f, fuel, rfl⟩ := List.exists_cons_of_ne_nil
      (List.ne_nil_of_length_pos (Nat.zero_lt_of_lt hfuel))
    have hstarts := startsValue_scalar hd.1 hd.2
    have hread : ∀ rest, readValue depth (cs ++ ',' :: rest) = some (d, ',' :: rest) :=
      fun rest => readValue_scalar hd.1 hd.2 (.comma rest)
    rw [List.flatMap_cons, List.append_assoc,
      readItems_item (skipLines_itemLine hstarts _) hstarts (hread _), skipLines_comma]
    simp only [ih fuel (Nat.lt_of_succ_lt_succ hfuel), Option.bind_eq_bind, Option.bind_some]

theorem length_le_length_lines (texts : List (List Char)) :
    texts.length ≤ (texts.flatMap itemLine).length := by
  induction texts with
  | nil => exact Nat.le_refl 0
  | cons cs texts ih =>
    rw [List.flatMap_cons, List.length_append, List.length_cons, itemLine]
    simp only [List.length_append, List.length_cons]
    omega

theorem length_le_length_itemChars (texts : List (List Char)) :
    texts.length ≤ (itemChars texts).length + 1 := by
  rw [itemChars.eq_def]
  split
  · simp
  · simp
  · have := length_le_length_lines texts
    rw [List.length_append]
    exact Nat.le_add_right_of_le (Nat.le_add_right_of_le this)

theorem readItems_itemChars (h : AreScalars items texts) (rest : List Char) :
    ∀ fuel : List Char, texts.length < fuel.length →
      readItems (readValue depth) fuel (itemChars texts ++ ']' :: rest) = some (items, rest) := by
  intro fuel hfuel
  obtain ⟨f, fuel, rfl⟩ := List.exists_cons_of_ne_nil
    (List.ne_nil_of_length_pos (Nat.zero_lt_of_lt hfuel))
  -- A list of one item is on the line of its key, a longer one has a line for each item.
  rcases h with - | @⟨d, cs, items, texts, hd, htexts⟩
  · exact readItems_end f fuel rest
  · rcases htexts with - | @⟨d', cs', items, texts, hd', htexts⟩
    · have hstarts := startsValue_scalar hd.1 hd.2
      have hread : readValue depth (cs ++ ']' :: rest) = some (d, ']' :: rest) :=
        readValue_scalar hd.1 hd.2 (.bracket rest)
      have hitem := readItems_item (hstarts.append _).skipLines_eq hstarts hread f fuel
      rwa [skipLines_bracket] at hitem
    · have hlines : itemChars (cs :: cs' :: texts) =
          (cs :: cs' :: texts).flatMap itemLine ++ ['\n'] := rfl
      rw [hlines, List.append_assoc]
      exact readItems_lines (.cons hd (.cons hd' htexts)) rest _ hfuel

/-! ## Values -/

/-- A scalar or a list of scalars. -/
inductive IsFlat : Data → Prop
  | scalar {d : Data} (h : IsScalar d) : IsFlat d
  | list {items : List Data} (h : ∀ d ∈ items, IsScalar d) : IsFlat (.list items)

theorem areScalars_of_mapM (hitems : ∀ d ∈ items, IsScalar d)
    (h : items.mapM scalarChars? = some texts) : AreScalars items texts :=
  List.forall₂_and_left _ _ |>.mpr ⟨hitems, mapM_eq_some_iff_forall₂.mp h⟩

theorem valueChars?_scalar (hd : IsScalar d) : valueChars? d = scalarChars? d := by
  cases hd <;> rfl

theorem startsValue_flat (hd : IsFlat d) (h : valueChars? d = some cs) : StartsValue cs := by
  cases hd with
  | scalar hd =>
    rw [valueChars?_scalar hd] at h
    exact startsValue_scalar hd h
  | list =>
    rw [valueChars?, Option.map_eq_some_iff] at h
    obtain ⟨texts, -, rfl⟩ := h
    exact ⟨_, _, rfl, by decide⟩

/-- **A value is read back.** What is written for a scalar or a list of scalars is read as it. -/
theorem readValue_flat (hd : IsFlat d) (h : valueChars? d = some cs) (hrest : Stops rest) :
    readValue (depth + 1) (cs ++ rest) = some (d, rest) := by
  cases hd with
  | scalar hd =>
    rw [valueChars?_scalar hd] at h
    exact readValue_scalar hd h hrest
  | @list items hitems =>
    rw [valueChars?, Option.map_eq_some_iff] at h
    obtain ⟨texts, htexts, rfl⟩ := h
    have hfuel : texts.length < (itemChars texts ++ ']' :: rest).length := by
      have := length_le_length_itemChars texts
      have := hrest.length_pos
      rw [List.length_append, List.length_cons]
      omega
    rw [List.append_assoc, List.cons_append, readValue,
      List.singleton_append, readItems_itemChars (areScalars_of_mapM hitems htexts) rest _ hfuel]
    rfl

end EntityProps.Toml
