import EntityProps.Json.Reader
import EntityProps.Json.Writer
import EntityProps.Proofs.Numeral
import EntityProps.Proofs.Results

/-!
# Texts and numbers in JSON

What is written for a text or an integer is read as this text or integer, whatever
follows it: `readText_quote`, `readNumber_integer`.

A text is closed by its own quote, so anything may follow. A number ends where
no character can belong to it, so its lemma asks this of what follows (`Stops`).
-/

namespace EntityProps.Json

open Text (numeral numeralValue? digitChar)

/-! ## Texts -/

theorem numeralValue?_control : ∀ v < 32,
    numeralValue? 16 ['0', '0', digitChar (v / 16), digitChar (v % 16)] = some v := by
  decide

theorem scalar?_toNat (c : Char) : Text.scalar? c.toNat = some c := by
  have hvalid : c.toNat.isValidChar := c.valid
  rw [Text.scalar?, if_pos hvalid, Char.ofNat_toNat]

theorem readCodePoint_control {c : Char} (hc : c < ' ') (rest : List Char) :
    readCodePoint ('0' :: '0' :: digitChar (c.toNat / 16) :: digitChar (c.toNat % 16) :: rest) =
      some (c, rest) := by
  have hlt : c.toNat < 32 := hc
  have hsurrogate : ¬ (0xd800 ≤ c.toNat ∧ c.toNat < 0xdc00) := by omega
  simp [readCodePoint, readUnit, numeralValue?_control c.toNat hlt, hsurrogate, scalar?_toNat]

section Quoted

variable {c f : Char} {fuel text : List Char}

theorem readQuoted_plain (hquote : c ≠ '"') (hcontrol : ¬ c < ' ') (hbackslash : c ≠ '\\') :
    readQuoted (f :: fuel) (c :: text) =
      (readQuoted fuel text).map fun (cs, rest) => (c :: cs, rest) := by
  conv_lhs => unfold readQuoted
  rw [if_neg hquote, if_neg hcontrol, if_neg hbackslash]
  cases readQuoted fuel text <;> rfl

theorem readQuoted_letter {letter : Char} (h : unescape? letter = some c) :
    readQuoted (f :: fuel) ('\\' :: letter :: text) =
      (readQuoted fuel text).map fun (cs, rest) => (c :: cs, rest) := by
  conv_lhs => unfold readQuoted
  rw [if_neg (by decide), if_neg (by decide), if_pos rfl]
  split
  · next heq => cases heq
  · next rest heq =>
    cases heq
    cases h
  · next letter' rest _ heq =>
    cases heq
    rw [h]
    cases readQuoted fuel text <;> rfl

theorem readQuoted_code (hc : c < ' ') :
    readQuoted (f :: fuel)
        ('\\' :: 'u' :: '0' :: '0' :: digitChar (c.toNat / 16) :: digitChar (c.toNat % 16) :: text) =
      (readQuoted fuel text).map fun (cs, rest) => (c :: cs, rest) := by
  conv_lhs => unfold readQuoted
  rw [if_neg (by decide), if_neg (by decide), if_pos rfl]
  simp only [readCodePoint_control hc, Option.bind_eq_bind, Option.bind_some]
  cases readQuoted fuel text <;> rfl

/-- A character is read back from what is written for it inside quotes. -/
theorem readQuoted_escape :
    readQuoted (f :: fuel) (escape c ++ text) =
      (readQuoted fuel text).map fun (cs, rest) => (c :: cs, rest) := by
  have hletter : ∀ {letter d}, unescape? letter = some d → c = d →
      readQuoted (f :: fuel) (['\\', letter] ++ text) =
        (readQuoted fuel text).map fun (cs, rest) => (c :: cs, rest) := by
    rintro letter d hd rfl
    exact readQuoted_letter hd
  unfold escape
  split; · next h => exact hletter rfl h
  split; · next h => exact hletter rfl h
  split; · next h => exact hletter rfl h
  split; · next h => exact hletter rfl h
  split; · next h => exact hletter rfl h
  split; · next h => exact hletter rfl h
  split; · next h => exact hletter rfl h
  split
  · next h => exact readQuoted_code h
  · next hquote hbackslash _ _ _ _ _ hcontrol =>
    exact readQuoted_plain hquote hcontrol hbackslash

end Quoted

/-- Every character takes one step, so as many characters are fuel enough, and one for the
quote. -/
theorem readQuoted_escapes (cs rest : List Char) : ∀ fuel : List Char, cs.length < fuel.length →
    readQuoted fuel (cs.flatMap escape ++ '"' :: rest) = some (cs, rest) := by
  induction cs with
  | nil =>
    intro fuel hfuel
    obtain ⟨f, fuel, rfl⟩ := List.exists_cons_of_ne_nil (List.ne_nil_of_length_pos hfuel)
    simp [readQuoted]
  | cons c cs ih =>
    intro fuel hfuel
    obtain ⟨f, fuel, rfl⟩ := List.exists_cons_of_ne_nil
      (List.ne_nil_of_length_pos (Nat.zero_lt_of_lt hfuel))
    rw [List.flatMap_cons, List.append_assoc, readQuoted_escape,
      ih fuel (Nat.lt_of_succ_lt_succ hfuel)]
    rfl

theorem escape_ne_nil (c : Char) : escape c ≠ [] := by
  unfold escape
  split_ifs <;> simp

theorem length_le_length_escapes (cs : List Char) : cs.length ≤ (cs.flatMap escape).length := by
  induction cs with
  | nil => exact Nat.le_refl _
  | cons c cs ih =>
    have hpos := List.length_pos_iff.mpr (escape_ne_nil c)
    rw [List.flatMap_cons, List.length_append, List.length_cons]
    omega

/-- A text is read back from what is written for it, behind its first quote. -/
theorem readText_escapes (s : String) (rest : List Char) :
    readText (s.toList.flatMap escape ++ '"' :: rest) = some (s, rest) := by
  have hfuel : s.toList.length < (s.toList.flatMap escape ++ '"' :: rest).length := by
    have := length_le_length_escapes s.toList
    rw [List.length_append, List.length_cons]
    omega
  rw [readText, readQuoted_escapes s.toList rest _ hfuel]
  simp

/-! ## Numbers -/

/-- The text does not go on with a character of a number. -/
def Stops (rest : List Char) : Prop :=
  ∀ c ∈ rest.head?, c.isDigit = false ∧ c ≠ '.' ∧ c ≠ 'e' ∧ c ≠ 'E'

variable {rest : List Char}

theorem isDigit_of_mem_numeral {n : Nat} {c : Char} (hc : c ∈ numeral 10 n) : c.isDigit = true := by
  have hdigit : ∀ v < 10, (digitChar v).isDigit = true := by decide
  obtain ⟨v, hv, rfl⟩ := Text.exists_digit_of_mem_numeral (by decide) hc
  exact hdigit v hv

theorem readDigits_numeral (h : Stops rest) (n : Nat) :
    readDigits (numeral 10 n ++ rest) = some (numeral 10 n, rest) := by
  obtain ⟨d, ds, hd⟩ := List.exists_cons_of_ne_nil (Text.numeral_ne_nil 10 n)
  by_cases hzero : d = '0'
  · have hhead : (numeral 10 n).head? = some '0' := by rw [hd, hzero, List.head?_cons]
    obtain rfl := Text.eq_zero_of_head?_numeral (by decide) (by decide) hhead
    simp [numeral, digitChar, readDigits]
  · have hspan : (numeral 10 n ++ rest).span Char.isDigit = (numeral 10 n, rest) :=
      span_append_of_head? (fun c hc => isDigit_of_mem_numeral hc) fun c hc => (h c hc).1
    rw [hd, List.cons_append] at hspan ⊢
    unfold readDigits
    split
    · next heq => exact absurd (List.cons.inj heq).1 hzero
    · next text _ => rw [hspan]

theorem Stops.readFraction_eq (h : Stops rest) : readFraction rest = some ([], rest) := by
  unfold readFraction
  split
  · exact absurd rfl (h '.' rfl).2.1
  · rfl

theorem Stops.readExponent_eq (h : Stops rest) : readExponent rest = some ([], rest) := by
  unfold readExponent
  split
  · next c _ =>
    have hc := h c rfl
    exact if_neg (not_or.mpr ⟨hc.2.2.1, hc.2.2.2⟩)
  · rfl

theorem number_numeral (negative : Bool) (n : Nat) (h : negative = true → n ≠ 0) :
    number negative (numeral 10 n) [] = .int (if negative then -n else n) := by
  have hvalue : (numeralValue? 10 (numeral 10 n)).getD 0 = n := by
    rw [Text.numeralValue?_numeral (by decide) (by decide), Option.getD_some]
  rw [number, hvalue, if_neg]
  simpa using h

/-- An integer is read back from its digits. -/
theorem readNumber_integer (h : Stops rest) (n : Int) :
    readNumber (Text.integer n ++ rest) = some (.int n, rest) := by
  rw [Text.integer]
  split
  · next hneg =>
    have hnumber := number_numeral true n.natAbs (by omega)
    have hn : -(n.natAbs : Int) = n := by omega
    simp only [if_true, hn] at hnumber
    simp only [readNumber, List.cons_append, readDigits_numeral h, h.readFraction_eq,
      h.readExponent_eq, Option.bind_eq_bind, Option.bind_some, List.append_nil, hnumber]
  · next hneg =>
    have hnumber := number_numeral false n.natAbs (by simp)
    have hn : (n.natAbs : Int) = n := by omega
    -- The numeral starts with a digit, so no sign is taken off.
    have hsign : ∀ more, numeral 10 n.natAbs ++ rest ≠ '-' :: more := by
      intro more heq
      obtain ⟨d, ds, hd⟩ := List.exists_cons_of_ne_nil (Text.numeral_ne_nil 10 n.natAbs)
      have hdigit : d.isDigit = true := isDigit_of_mem_numeral (n := n.natAbs) (by simp [hd])
      rw [hd, List.cons_append, List.cons.injEq] at heq
      rw [heq.1] at hdigit
      cases hdigit
    unfold readNumber
    split
    next negative text heq =>
    split at heq
    · next more hmore => exact absurd hmore (hsign more)
    · cases heq
      simp [readDigits_numeral h, h.readFraction_eq, h.readExponent_eq, hnumber, hn]

end EntityProps.Json
