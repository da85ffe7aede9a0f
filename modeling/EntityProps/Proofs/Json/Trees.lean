import EntityProps.Proofs.Json.Scalars

/-!
# Trees in JSON

In both layouts what is written for a tree is read as this tree (`read?_write`), and
white space makes no difference. It holds of the trees without numbers that are kept
by their text and without dates (`IsExact`): of a date JSON keeps only the text.

The readers get less fuel with each member, and each member is at least one
character, so a text is read with as much fuel as it is long (`IsRead`).
-/

namespace EntityProps.Json

variable {l : Layout} {depth fuel : Nat} {d : Data} {rest text : List Char}

/-- There is no date in the tree, and no number with a fraction or an exponent. -/
inductive IsExact : Data → Prop
  | null : IsExact .null
  | bool (value : Bool) : IsExact (.bool value)
  | int (n : Int) : IsExact (.int n)
  | str (text : String) : IsExact (.str text)
  | list {items : List Data} (h : ∀ d ∈ items, IsExact d) : IsExact (.list items)
  | table {entries : Entries} (h : ∀ e ∈ entries, IsExact e.2) : IsExact (.table entries)

namespace IsExact

/-- A table without entries. -/
theorem nil : IsExact (.table []) :=
  .table nofun

theorem cons {key : String} {es : Entries} (hd : IsExact d) (hes : IsExact (.table es)) :
    IsExact (.table ((key, d) :: es)) := by
  cases hes with
  | table h => exact .table (List.forall_mem_cons.mpr ⟨hd, h⟩)

theorem append {es es' : Entries} (hes : IsExact (.table es)) (hes' : IsExact (.table es')) :
    IsExact (.table (es ++ es')) := by
  cases hes with
  | table h =>
    cases hes' with
    | table h' => exact .table (List.forall_mem_append.mpr ⟨h, h'⟩)

theorem map {α : Type} {f : α → Data} (h : ∀ a, IsExact (f a)) (as : List α) :
    IsExact (.list (as.map f)) := by
  refine .list fun d hd => ?_
  obtain ⟨a, -, rfl⟩ := List.mem_map.mp hd
  exact h a

end IsExact

/-! ## White space -/

/-- The text starts with a character that is not skipped. -/
theorem skipSpace_cons {c : Char} (hc : c ≠ ' ' ∧ c ≠ '\t' ∧ c ≠ '\n' ∧ c ≠ '\r') :
    skipSpace (c :: text) = c :: text := by
  rw [skipSpace, List.dropWhile_cons_of_neg]
  simpa using hc

theorem skipSpace_gap (l : Layout) (depth : Nat) (text : List Char) :
    skipSpace (l.gap depth ++ text) = skipSpace text := by
  have hgap : ∀ c ∈ l.gap depth, c = ' ' ∨ c = '\n' := by
    intro c hc
    cases l with
    | compact => exact absurd hc List.not_mem_nil
    | indented =>
      rcases List.mem_cons.mp hc with rfl | hc
      · exact Or.inr rfl
      · exact Or.inl (List.eq_of_mem_replicate hc)
  rw [skipSpace, List.dropWhile_append_of_pos, skipSpace]
  intro c hc
  rcases hgap c hc with rfl | rfl <;> decide

/-- The text starts with a character that starts a value: no white space, and not the end of a
list. -/
def StartsValue (text : List Char) : Prop :=
  ∃ c more, text = c :: more ∧ (c ≠ ' ' ∧ c ≠ '\t' ∧ c ≠ '\n' ∧ c ≠ '\r') ∧ c ≠ ']'

theorem StartsValue.append (h : StartsValue text) (rest : List Char) :
    StartsValue (text ++ rest) := by
  obtain ⟨c, more, rfl, hc⟩ := h
  exact ⟨c, more ++ rest, rfl, hc⟩

theorem StartsValue.skipSpace_eq (h : StartsValue text) : skipSpace text = text := by
  obtain ⟨c, more, rfl, hc, -⟩ := h
  exact skipSpace_cons hc

theorem startsValue_integer (n : Int) : StartsValue (Text.integer n) := by
  have hdigit : ∀ v < 10, (Text.digitChar v ≠ ' ' ∧ Text.digitChar v ≠ '\t' ∧
      Text.digitChar v ≠ '\n' ∧ Text.digitChar v ≠ '\r') ∧ Text.digitChar v ≠ ']' := by decide
  obtain ⟨c, more, h, rfl | ⟨v, hv, rfl⟩⟩ := Text.head_integer n
  · exact ⟨'-', more, h, by decide⟩
  · exact ⟨_, more, h, hdigit v hv⟩

theorem startsValue_chars (h : IsExact d) (l : Layout) (depth : Nat) :
    StartsValue (chars l depth d) := by
  cases h with
  | null => exact ⟨_, _, rfl, by decide⟩
  | bool value => cases value <;> exact ⟨_, _, rfl, by decide⟩
  | int n => exact startsValue_integer n
  | str text => exact ⟨_, _, rfl, by decide⟩
  | @list items h => cases items <;> exact ⟨_, _, rfl, by decide⟩
  | @table entries h => cases entries <;> exact ⟨_, _, rfl, by decide⟩

/-- The closing bracket of a list or a table, on a line of its own or not, ends a number. -/
theorem stops_gap {c : Char} (hc : c = ']' ∨ c = '\x7d') : Stops (l.gap depth ++ c :: rest) := by
  intro d hd
  cases l with
  | compact =>
    cases hd
    rcases hc with rfl | rfl <;> decide
  | indented =>
    cases hd
    decide

theorem stops_comma : Stops (',' :: rest) := by
  rintro c ⟨⟩
  decide

/-! ## Members -/

/-- The tree is read from its text, and what follows is left. -/
def IsRead (l : Layout) (d : Data) : Prop :=
  ∀ {depth fuel rest}, Stops rest → (chars l depth d).length ≤ fuel →
    readValue fuel (chars l depth d ++ rest) = some (d, rest)

theorem stops_items (ds : List Data) (outer : Nat) :
    Stops (charsOfItems l depth ds ++ (l.gap outer ++ ']' :: rest)) := by
  cases ds with
  | nil => exact stops_gap (Or.inl rfl)
  | cons d ds => exact stops_comma

theorem stops_entries (es : Entries) (outer : Nat) :
    Stops (charsOfEntries l depth es ++ (l.gap outer ++ '\x7d' :: rest)) := by
  cases es with
  | nil => exact stops_gap (Or.inr rfl)
  | cons e es => exact stops_comma

/-- A value behind a gap is read from its first character on. -/
theorem IsRead.after_gap (h : IsRead l d) (hd : IsExact d) (hrest : Stops rest)
    (hfuel : (chars l depth d).length ≤ fuel) (gap : Nat) :
    readValue fuel (skipSpace (l.gap gap ++ (chars l depth d ++ rest))) = some (d, rest) := by
  rw [skipSpace_gap, ((startsValue_chars hd l depth).append rest).skipSpace_eq]
  exact h hrest hfuel

theorem readItems_items {ds : List Data} (outer : Nat) (rest : List Char)
    (hds : ∀ d ∈ ds, IsExact d ∧ IsRead l d)
    (hfuel : (charsOfItems l depth ds).length < fuel) :
    readItems fuel (skipSpace (charsOfItems l depth ds ++ (l.gap outer ++ ']' :: rest))) =
      some (ds, rest) := by
  induction ds generalizing fuel with
  | nil =>
    obtain ⟨fuel, rfl⟩ := Nat.exists_eq_add_one_of_ne_zero (Nat.ne_zero_of_lt hfuel)
    rw [charsOfItems, List.nil_append, skipSpace_gap, skipSpace_cons (by decide), readItems]
  | cons d ds ih =>
    obtain ⟨fuel, rfl⟩ := Nat.exists_eq_add_one_of_ne_zero (Nat.ne_zero_of_lt hfuel)
    simp only [charsOfItems, List.length_cons, List.length_append] at hfuel
    obtain ⟨hd, hread⟩ := hds d List.mem_cons_self
    have hstops : Stops (charsOfItems l depth ds ++ (l.gap outer ++ ']' :: rest)) :=
      stops_items ds outer
    have hshort : (charsOfItems l depth ds).length < fuel := by omega
    have hfirst := hread.after_gap hd hstops (by omega : (chars l depth d).length ≤ fuel) depth
    have hmore := ih (fun x hx => hds x (List.mem_cons_of_mem d hx)) hshort
    simp only [charsOfItems, List.cons_append, List.append_assoc]
    rw [skipSpace_cons (by decide), readItems, hfirst]
    simp only [Option.bind_eq_bind, Option.bind_some, hmore]

/-- A key and its value, as they stand between commas. -/
def entryChars (l : Layout) (depth : Nat) (e : String × Data) : List Char :=
  quote e.1 ++ l.colon ++ chars l depth e.2

theorem entryChars_append (e : String × Data) (rest : List Char) :
    entryChars l depth e ++ rest =
      '"' :: (e.1.toList.flatMap escape ++ '"' :: (l.colon ++ (chars l depth e.2 ++ rest))) := by
  simp [entryChars, quote]

theorem skipSpace_entryChars (e : String × Data) (rest : List Char) :
    skipSpace (entryChars l depth e ++ rest) = entryChars l depth e ++ rest := by
  rw [entryChars_append, skipSpace_cons (by decide)]

theorem charsOfEntries_cons (e : String × Data) (es : Entries) :
    charsOfEntries l depth (e :: es) =
      ',' :: (l.gap depth ++ (entryChars l depth e ++ charsOfEntries l depth es)) := by
  simp [charsOfEntries, entryChars]

theorem readEntry_entry {key : String} (hd : IsExact d) (hread : IsRead l d)
    (hrest : Stops rest) (hfuel : (entryChars l depth (key, d)).length ≤ fuel) :
    readEntry fuel (entryChars l depth (key, d) ++ rest) = some ((key, d), rest) := by
  simp only [entryChars, quote, List.length_append, List.length_cons, List.length_nil] at hfuel
  obtain ⟨fuel, rfl⟩ := Nat.exists_eq_add_one_of_ne_zero (by omega : fuel ≠ 0)
  have hlength : (chars l depth d).length ≤ fuel := by omega
  have hvalue : readValue fuel (chars l depth d ++ rest) = some (d, rest) := hread hrest hlength
  have hstarts := ((startsValue_chars hd l depth).append rest).skipSpace_eq
  -- The space behind a colon is skipped like any other.
  have hcolon : ∃ more, l.colon ++ (chars l depth d ++ rest) = ':' :: more ∧
      skipSpace more = chars l depth d ++ rest := by
    cases l with
    | compact => exact ⟨_, rfl, hstarts⟩
    | indented => exact ⟨_, rfl, hstarts⟩
  obtain ⟨more, hcolon, hmore⟩ := hcolon
  have hskip : skipSpace (':' :: more) = ':' :: more := skipSpace_cons (by decide)
  rw [entryChars_append, readEntry, readText_escapes, hcolon]
  simp only [Option.bind_eq_bind, Option.bind_some, hskip, hmore, hvalue]

theorem readEntries_entries {es : Entries} (outer : Nat) (rest : List Char)
    (hes : ∀ e ∈ es, IsExact e.2 ∧ IsRead l e.2)
    (hfuel : (charsOfEntries l depth es).length < fuel) :
    readEntries fuel (skipSpace (charsOfEntries l depth es ++ (l.gap outer ++ '\x7d' :: rest))) =
      some (es, rest) := by
  induction es generalizing fuel with
  | nil =>
    obtain ⟨fuel, rfl⟩ := Nat.exists_eq_add_one_of_ne_zero (Nat.ne_zero_of_lt hfuel)
    rw [charsOfEntries, List.nil_append, skipSpace_gap, skipSpace_cons (by decide), readEntries]
  | cons e es ih =>
    obtain ⟨fuel, rfl⟩ := Nat.exists_eq_add_one_of_ne_zero (Nat.ne_zero_of_lt hfuel)
    simp only [charsOfEntries_cons, List.length_cons, List.length_append] at hfuel
    obtain ⟨he, hread⟩ := hes e List.mem_cons_self
    have hstops : Stops (charsOfEntries l depth es ++ (l.gap outer ++ '\x7d' :: rest)) :=
      stops_entries es outer
    have hshort : (charsOfEntries l depth es).length < fuel := by omega
    have hfirst := readEntry_entry he hread hstops
      (by omega : (entryChars l depth e).length ≤ fuel)
    have hmore := ih (fun x hx => hes x (List.mem_cons_of_mem e hx)) hshort
    simp only [charsOfEntries_cons, List.cons_append, List.append_assoc]
    rw [skipSpace_cons (by decide), readEntries, skipSpace_gap, skipSpace_entryChars, hfirst]
    simp only [Option.bind_eq_bind, Option.bind_some, hmore]

/-! ## Trees -/

theorem readValue_integer (n : Int) (h : Stops rest) :
    readValue (fuel + 1) (Text.integer n ++ rest) = some (.int n, rest) := by
  have hdigit : ∀ v < 10, Text.digitChar v ≠ 'n' ∧ Text.digitChar v ≠ 't' ∧
      Text.digitChar v ≠ 'f' ∧ Text.digitChar v ≠ '"' ∧ Text.digitChar v ≠ '[' ∧
      Text.digitChar v ≠ '\x7b' := by decide
  have hhead : ∃ c more, Text.integer n ++ rest = c :: more ∧
      c ≠ 'n' ∧ c ≠ 't' ∧ c ≠ 'f' ∧ c ≠ '"' ∧ c ≠ '[' ∧ c ≠ '\x7b' := by
    obtain ⟨c, more, hc, rfl | ⟨v, hv, rfl⟩⟩ := Text.head_integer n
    · exact ⟨'-', more ++ rest, by rw [hc]; rfl, by decide⟩
    · exact ⟨_, more ++ rest, by rw [hc]; rfl, hdigit v hv⟩
  obtain ⟨c, more, heq, hn, ht, hf, hquote, hlist, htable⟩ := hhead
  rw [← readNumber_integer h n, heq, readValue]
  -- None of the words, quotes and brackets that start another value starts a number.
  all_goals
    rintro heq' ⟨⟩
    contradiction

/-- The text of a tree is not empty, so there is fuel for the first step. -/
theorem IsRead.of_succ (hd : IsExact d)
    (h : ∀ {depth fuel rest}, Stops rest → (chars l depth d).length ≤ fuel + 1 →
      readValue (fuel + 1) (chars l depth d ++ rest) = some (d, rest)) : IsRead l d := by
  intro depth fuel rest hrest hfuel
  obtain ⟨c, more, hchars, -⟩ := startsValue_chars hd l depth
  have hpos : fuel ≠ 0 := by
    rintro rfl
    rw [hchars] at hfuel
    exact absurd hfuel (Nat.not_succ_le_zero _)
  obtain ⟨fuel, rfl⟩ := Nat.exists_eq_add_one_of_ne_zero hpos
  exact h hrest hfuel

theorem isRead_bool (value : Bool) : IsRead l (.bool value) := by
  refine IsRead.of_succ (.bool value) fun _ _ => ?_
  cases value <;> rfl

theorem isRead_int (n : Int) : IsRead l (.int n) :=
  IsRead.of_succ (.int n) fun hrest _ => readValue_integer n hrest

theorem isRead_str (text : String) : IsRead l (.str text) := by
  refine IsRead.of_succ (.str text) fun {depth fuel rest} _ _ => ?_
  have hchars : chars l depth (.str text) ++ rest =
      '"' :: (text.toList.flatMap escape ++ '"' :: rest) := by
    simp [chars, quote]
  rw [hchars, readValue, readText_escapes, Option.map_some]

theorem isRead_list {ds : List Data} (hds : ∀ d ∈ ds, IsExact d ∧ IsRead l d) :
    IsRead l (.list ds) := by
  refine IsRead.of_succ (.list fun d hd => (hds d hd).1) fun {depth fuel rest} _ hfuel => ?_
  cases ds with
  | nil => rfl
  | cons d ds =>
    obtain ⟨hd, hread⟩ := hds d List.mem_cons_self
    simp only [chars, List.length_cons, List.length_append] at hfuel
    have hlength : (chars l (depth + 1) d).length ≤ fuel := by omega
    have hshort : (charsOfItems l (depth + 1) ds).length < fuel := by omega
    have hstops : Stops (charsOfItems l (depth + 1) ds ++ (l.gap depth ++ ']' :: rest)) :=
      stops_items ds depth
    have hfirst := hread.after_gap hd hstops hlength (depth + 1)
    have hmore := readItems_items depth rest
      (fun x hx => hds x (List.mem_cons_of_mem d hx)) hshort
    obtain ⟨c, more, hc, hspace, hne⟩ := (startsValue_chars hd l (depth + 1)).append
      (charsOfItems l (depth + 1) ds ++ (l.gap depth ++ ']' :: rest))
    simp only [chars, List.cons_append, List.append_assoc, List.nil_append]
    rw [skipSpace_gap, hc, skipSpace_cons hspace] at hfirst
    rw [readValue, skipSpace_gap, hc, skipSpace_cons hspace]
    split
    · next heq => exact absurd (List.cons.inj heq).1 hne
    · simp only [hfirst, Option.bind_eq_bind, Option.bind_some, hmore]

theorem isRead_table {es : Entries} (hes : ∀ e ∈ es, IsExact e.2 ∧ IsRead l e.2) :
    IsRead l (.table es) := by
  refine IsRead.of_succ (.table fun e he => (hes e he).1) fun {depth fuel rest} _ hfuel => ?_
  cases es with
  | nil => rfl
  | cons e es =>
    obtain ⟨key, d⟩ := e
    obtain ⟨hd, hread⟩ := hes (key, d) List.mem_cons_self
    have hchars : ∀ tail, chars l depth (.table ((key, d) :: es)) ++ tail =
        '\x7b' :: (l.gap (depth + 1) ++ (entryChars l (depth + 1) (key, d) ++
          (charsOfEntries l (depth + 1) es ++ (l.gap depth ++ '\x7d' :: tail)))) := by
      intro tail
      simp [chars, entryChars]
    have hsize := congrArg List.length (hchars [])
    simp only [List.length_cons, List.length_append, List.length_nil] at hsize
    have hlength : (entryChars l (depth + 1) (key, d)).length ≤ fuel := by omega
    have hshort : (charsOfEntries l (depth + 1) es).length < fuel := by omega
    have hstops : Stops (charsOfEntries l (depth + 1) es ++ (l.gap depth ++ '\x7d' :: rest)) :=
      stops_entries es depth
    have hfirst := readEntry_entry hd hread hstops hlength
    have hmore := readEntries_entries depth rest
      (fun x hx => hes x (List.mem_cons_of_mem (key, d) hx)) hshort
    rw [hchars, readValue, skipSpace_gap, skipSpace_entryChars]
    split
    · next heq =>
      rw [entryChars_append] at heq
      cases heq
    · simp only [hfirst, Option.bind_eq_bind, Option.bind_some, hmore]

theorem isRead_of_isExact (h : IsExact d) : IsRead l d := by
  induction h with
  | null => exact IsRead.of_succ .null fun _ _ => rfl
  | bool value => exact isRead_bool value
  | int n => exact isRead_int n
  | str text => exact isRead_str text
  | list h ih => exact isRead_list fun d hd => ⟨h d hd, ih d hd⟩
  | table h ih => exact isRead_table fun e he => ⟨h e he, ih e he⟩

/-- **A tree is read back from its text, in whatever layout.** -/
theorem read?_write (h : IsExact d) (l : Layout) : read? (write l d) = some d := by
  have hstops : Stops [] := nofun
  have hread : readValue ((chars l 0 d).length + 1) (chars l 0 d ++ []) = some (d, []) :=
    isRead_of_isExact h hstops (Nat.le_succ _)
  rw [List.append_nil] at hread
  rw [read?, write, String.toList_ofList, (startsValue_chars h l 0).skipSpace_eq]
  simp only [hread, Option.bind_eq_bind, Option.bind_some]
  rfl

end EntityProps.Json
