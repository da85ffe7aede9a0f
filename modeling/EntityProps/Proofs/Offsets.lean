import EntityProps.Proofs.Rendering

/-!
# Offsets in bytes

A text can be cut at offsets that count bytes. A character takes one to four of them,
so only some offsets are boundaries between characters, and at others there is nothing
to cut (`before?`, `after?`).

The place of the first of two characters is found as an offset (`findFirstOf`). It is the
size of the longest prefix in which neither stands (`exists_findFirstOf_eq`), and a
boundary, as is the offset behind the character that was found.
-/

namespace EntityProps.Offset

/-- The offset is in range, and a character starts there unless the text ends. -/
def isBoundary (text : String) (i : Nat) : Bool :=
  String.Pos.Raw.isValid text ⟨i⟩

/-- The text before an offset, if that is a boundary. -/
def before? (text : String) (i : Nat) : Option String :=
  if h : isBoundary text i = true then
    some ⟨text.toByteArray.extract 0 i,
      (String.Pos.Raw.isValid_eq_true_iff.mp h).isValidUTF8_extract_zero⟩
  else none

/-- The text after an offset, if that is a boundary. -/
def after? (text : String) (i : Nat) : Option String :=
  if h : isBoundary text i = true then
    some ⟨text.toByteArray.extract i text.utf8ByteSize,
      (String.Pos.Raw.isValid_eq_true_iff.mp h).isValidUTF8_extract_utf8ByteSize⟩
  else none

/-- Characters with their offsets, the first of which is given. -/
def offsets (i : Nat) : List Char → List (Nat × Char)
  | [] => []
  | c :: cs => (i, c) :: offsets (i + c.utf8Size) cs

/-- The first place of either character, with the character that stands there. -/
def findFirstOf (text : String) (a b : Char) : Option (Nat × Char) :=
  (offsets 0 text.toList).find? fun (_, c) => c = a ∨ c = b

/-! ## Boundaries -/

variable {text : String} {a b c : Char} {i : Nat}

theorem isBoundary_append (s t : String) : isBoundary (s ++ t) s.utf8ByteSize = true := by
  have h : String.Pos.Raw.IsValid (s ++ t) s.rawEndPos :=
    String.Pos.Raw.isValid_iff_exists_append.mpr ⟨s, t, rfl, rfl⟩
  exact String.Pos.Raw.isValid_eq_true_iff.mpr h

theorem before?_append (s t : String) : before? (s ++ t) s.utf8ByteSize = some s := by
  rw [before?, dif_pos (isBoundary_append s t), Option.some.injEq, ← String.toByteArray_inj]
  show (s ++ t).toByteArray.extract 0 s.utf8ByteSize = s.toByteArray
  rw [String.toByteArray_append]
  exact ByteArray.extract_append_eq_left rfl

theorem after?_append (s t : String) : after? (s ++ t) s.utf8ByteSize = some t := by
  rw [after?, dif_pos (isBoundary_append s t), Option.some.injEq, ← String.toByteArray_inj]
  show (s ++ t).toByteArray.extract s.utf8ByteSize (s ++ t).utf8ByteSize = t.toByteArray
  rw [String.toByteArray_append, String.utf8ByteSize_append]
  exact ByteArray.extract_append_eq_right rfl rfl

/-- Inside of a character there is nothing to cut. -/
example : before? "é," 1 = none ∧ after? "é," 2 = some "," := by
  decide

/-! ## A character and what stands around it -/

section Around

variable (before after : List Char) (c : Char)

/-- Where the character stands. -/
theorem ofList_eq_append_character :
    String.ofList (before ++ c :: after) = .ofList before ++ .ofList (c :: after) :=
  String.ofList_append

/-- Where the text after the character starts. -/
theorem ofList_eq_character_append :
    String.ofList (before ++ c :: after) = .ofList (before ++ [c]) ++ .ofList after := by
  rw [← String.ofList_append, List.append_assoc, List.singleton_append]

theorem utf8ByteSize_behind :
    (String.ofList (before ++ [c])).utf8ByteSize =
      (String.ofList before).utf8ByteSize + c.utf8Size := by
  have hsingle : String.ofList [c] = String.singleton c := String.singleton_eq_ofList.symm
  rw [String.ofList_append, String.utf8ByteSize_append, hsingle, String.utf8ByteSize_singleton]

theorem isBoundary_character :
    isBoundary (.ofList (before ++ c :: after)) (String.ofList before).utf8ByteSize = true := by
  rw [ofList_eq_append_character]
  exact isBoundary_append _ _

theorem isBoundary_behind :
    isBoundary (.ofList (before ++ c :: after))
      ((String.ofList before).utf8ByteSize + c.utf8Size) = true := by
  rw [ofList_eq_character_append, ← utf8ByteSize_behind]
  exact isBoundary_append _ _

theorem before?_character :
    before? (.ofList (before ++ c :: after)) (String.ofList before).utf8ByteSize =
      some (.ofList before) := by
  rw [ofList_eq_append_character]
  exact before?_append _ _

theorem after?_behind :
    after? (.ofList (before ++ c :: after))
      ((String.ofList before).utf8ByteSize + c.utf8Size) = some (.ofList after) := by
  rw [ofList_eq_character_append, ← utf8ByteSize_behind]
  exact after?_append _ _

theorem utf8ByteSize_lt_behind :
    (String.ofList after).utf8ByteSize < (String.ofList (before ++ c :: after)).utf8ByteSize := by
  have hpos := c.utf8Size_pos
  rw [ofList_eq_character_append, String.utf8ByteSize_append, utf8ByteSize_behind]
  omega

end Around

/-! ## The first of two characters -/

theorem utf8ByteSize_ofList_cons (c : Char) (cs : List Char) :
    (String.ofList (c :: cs)).utf8ByteSize = c.utf8Size + (String.ofList cs).utf8ByteSize := by
  rw [← List.singleton_append, String.ofList_append, String.utf8ByteSize_append,
    ← String.singleton_eq_ofList, String.utf8ByteSize_singleton]

theorem find?_offsets (a b : Char) (cs : List Char) (i : Nat) :
    (offsets i cs).find? (fun (_, c) => c = a ∨ c = b) =
      (cut? a b cs).map fun k => (i + (String.ofList k.before).utf8ByteSize, k.found) := by
  induction cs generalizing i with
  | nil => rfl
  | cons d cs ih =>
    by_cases hd : d = a ∨ d = b
    · rw [offsets, List.find?_cons_of_pos (by simpa using hd), cut?, if_pos hd]
      rfl
    · rw [offsets, List.find?_cons_of_neg (by simpa using hd), ih, cut?, if_neg hd, Option.map_map]
      congr 1
      funext k
      show (i + d.utf8Size + _, k.found) =
        (i + (String.ofList (d :: k.before)).utf8ByteSize, k.found)
      rw [utf8ByteSize_ofList_cons, Nat.add_assoc]

/-- The offset is that of the cut with which token groups are read. -/
theorem findFirstOf_eq_map_cut? (text : String) (a b : Char) :
    findFirstOf text a b =
      (cut? a b text.toList).map fun k => ((String.ofList k.before).utf8ByteSize, k.found) := by
  rw [findFirstOf, find?_offsets]
  simp only [Nat.zero_add]

theorem findFirstOf_eq_none_iff :
    findFirstOf text a b = none ↔ ∀ c ∈ text.toList, c ≠ a ∧ c ≠ b := by
  rw [findFirstOf_eq_map_cut?, Option.map_eq_none_iff, cut?_eq_none_iff]

theorem findFirstOf_ofList {before : List Char} (h : ∀ d ∈ before, d ≠ a ∧ d ≠ b)
    (hc : c = a ∨ c = b) (after : List Char) :
    findFirstOf (.ofList (before ++ c :: after)) a b =
      some ((String.ofList before).utf8ByteSize, c) := by
  rw [findFirstOf_eq_map_cut?, String.toList_ofList, Grammar.cut?_append_cons after hc h,
    Option.map_some]

theorem exists_ofList_of_findFirstOf (h : findFirstOf text a b = some (i, c)) :
    ∃ before after, text = .ofList (before ++ c :: after) ∧
      i = (String.ofList before).utf8ByteSize ∧ (c = a ∨ c = b) ∧
      ∀ d ∈ before, d ≠ a ∧ d ≠ b := by
  rw [findFirstOf_eq_map_cut?, Option.map_eq_some_iff] at h
  obtain ⟨k, hcut, heq⟩ := h
  cases heq
  obtain ⟨htext, hfound, hfree⟩ := cut?_eq_some_iff.mp hcut
  exact ⟨k.before, k.after, by rw [← htext, String.ofList_toList], rfl, hfound, hfree⟩

/-- The longest prefix of a text in which neither character stands: all such prefixes are
prefixes of it. -/
structure LongestFree (a b : Char) (text before : String) : Prop where
  free : ∀ c ∈ before.toList, c ≠ a ∧ c ≠ b
  longest : ∀ s t, text = s ++ t → (∀ c ∈ s.toList, c ≠ a ∧ c ≠ b) → ∃ more, before = s ++ more

theorem longestFree_cut {before : List Char} (h : ∀ d ∈ before, d ≠ a ∧ d ≠ b)
    (hc : c = a ∨ c = b) (after : List Char) :
    LongestFree a b (.ofList (before ++ c :: after)) (.ofList before) where
  free := by simpa using h
  longest := by
    intro s t heq hs
    have hlist : before ++ c :: after = s.toList ++ t.toList := by
      rw [← String.toList_append, ← heq, String.toList_ofList]
    rcases List.append_eq_append_iff.mp hlist with ⟨more, hbefore, hafter⟩ | ⟨more, hbefore, -⟩
    · cases more with
      | nil => exact ⟨"", by rw [← String.ofList_toList (s := s), hbefore]; simp⟩
      | cons d more =>
        -- The prefix would go beyond the first of the two characters.
        obtain ⟨rfl, -⟩ := List.cons.inj hafter
        have hd := hs c (by simp [hbefore])
        rcases hc with rfl | rfl
        · exact absurd rfl hd.1
        · exact absurd rfl hd.2
    · exact ⟨.ofList more, by rw [hbefore, String.ofList_append, String.ofList_toList]⟩

/-- The offset that is found is the size of the longest prefix without the two characters, and
the character is the one that follows this prefix. -/
theorem exists_findFirstOf_eq (text : String) (a b : Char) :
    ∃ before after, text = before ++ after ∧ LongestFree a b text before ∧
      findFirstOf text a b = after.toList.head?.map fun c => (before.utf8ByteSize, c) := by
  cases hfind : findFirstOf text a b with
  | none =>
    refine ⟨text, "", String.append_empty.symm, ⟨findFirstOf_eq_none_iff.mp hfind, ?_⟩, rfl⟩
    intro s t heq _
    exact ⟨t, heq⟩
  | some found =>
    obtain ⟨i, c⟩ := found
    obtain ⟨before, after, rfl, rfl, hc, hfree⟩ := exists_ofList_of_findFirstOf hfind
    refine ⟨.ofList before, .ofList (c :: after), ofList_eq_append_character before after c,
      longestFree_cut hfree hc after, ?_⟩
    simp

end EntityProps.Offset
