import EntityProps.Pattern.Node
import EntityProps.Text.Numeral
import EntityProps.Text.PropertyName

/-!
# Flags, blanks and escapes in patterns

The small readers below take the text at a place of a pattern and give what
they read with the text that follows, or nothing when the pattern is malformed
there. In the spaced style, white space and comments between the parts of a
pattern do not count.
-/

namespace EntityProps.Pattern

structure Flags where
  ignoreCase : Bool := false
  multiLine : Bool := false
  dotAll : Bool := false
  unicode : Bool := true
  carriage : Bool := false
  spaced : Bool := false
deriving DecidableEq

/-- Sets the flag that a letter names. The flag `U` changes which match is preferred, which
leaves no trace here. -/
def Flags.set? (flags : Flags) (letter : Char) (value : Bool) : Option Flags :=
  match letter with
  | 'i' => some { flags with ignoreCase := value }
  | 'm' => some { flags with multiLine := value }
  | 's' => some { flags with dotAll := value }
  | 'u' => some { flags with unicode := value }
  | 'R' => some { flags with carriage := value }
  | 'x' => some { flags with spaced := value }
  | 'U' => some flags
  | _ => none

/-- Drops white space and comments. The first argument tells whether the text starts inside
a comment, which lasts to the end of its line. -/
def dropSpace : Bool → List Char → List Char
  | _, [] => []
  | true, c :: rest => dropSpace (c != '\n') rest
  | false, c :: rest =>
    if Text.isBlank c then dropSpace false rest
    else if c = '#' then dropSpace true rest
    else c :: rest

/-- In the spaced style, the text without the white space and comments it starts with. -/
def skipSpace (spaced : Bool) (text : List Char) : List Char :=
  if spaced then dropSpace false text else text

theorem dropSpace_length_le (inComment : Bool) (text : List Char) :
    (dropSpace inComment text).length ≤ text.length := by
  fun_induction dropSpace inComment text <;> simp_all <;> omega

theorem skipSpace_length_le (spaced : Bool) (text : List Char) :
    (skipSpace spaced text).length ≤ text.length := by
  unfold skipSpace
  split
  · exact dropSpace_length_le false text
  · exact Nat.le_refl _

def readHexDigits (spaced : Bool) (count acc : Nat) (text : List Char) : Option (Nat × List Char) :=
  match count with
  | 0 => some (acc, text)
  | count + 1 =>
    match skipSpace spaced text with
    | [] => none
    | c :: rest => (Text.hexValue? c).bind fun v => readHexDigits spaced count (acc * 16 + v) rest

/-- Reads hexadecimal digits up to a closing brace. At least one is needed; `some` stands for
a number read so far. -/
def readHexBraced (spaced : Bool) (acc : Option Nat) (text : List Char) :
    Option (Nat × List Char) :=
  match _h : skipSpace spaced text with
  | [] => none
  | c :: rest =>
    if c = '\x7d' then acc.map fun n => (n, rest)
    else match Text.hexValue? c with
      | none => none
      | some v => readHexBraced spaced (some (acc.getD 0 * 16 + v)) rest
termination_by text.length
decreasing_by
  have := skipSpace_length_le spaced text
  rw [_h] at this
  simp at this
  omega

inductive Escape where
  /-- One character. `byte` says that it was written as two hexadecimal digits. -/
  | literal (c : Char) (byte : Bool)
  | cls (cls : NamedClass) (negated : Bool)
  /-- The characters that have a property, or those that have it not. -/
  | property (members : Text.Ranges) (negated : Bool)
  | look (condition : Look)

/-- Reads a character written by number, after the letter that says so. -/
def readNumbered (spaced : Bool) (letter : Char) (text : List Char) :
    Option (Escape × List Char) :=
  let digits := if letter = 'x' then 2 else if letter = 'u' then 4 else 8
  match skipSpace spaced text with
  | '\x7b' :: rest => do
    let (n, rest) ← readHexBraced spaced none rest
    let c ← Text.scalar? n
    some (.literal c false, rest)
  | text => do
    let (n, rest) ← readHexDigits spaced digits 0 text
    let c ← Text.scalar? n
    some (.literal c (letter = 'x'), rest)

/-- The letters and hyphens at the start of a text, and what follows. -/
def takeBoundaryName (spaced : Bool) (text : List Char) : List Char × List Char :=
  match _h : skipSpace spaced text with
  | [] => ([], [])
  | c :: rest =>
    if c.isAlpha || c = '-' then
      let (name, rest) := takeBoundaryName spaced rest
      (c :: name, rest)
    else ([], c :: rest)
termination_by text.length
decreasing_by
  have := skipSpace_length_le spaced text
  rw [_h] at this
  simp at this
  omega

/-- Reads what may follow the escape for a word boundary: the name of a special boundary in
braces. Braces that open with anything but a letter or hyphen are left for a repetition. -/
def readBoundary (flags : Flags) (text : List Char) : Option (Escape × List Char) :=
  match text with
  | '\x7b' :: inner =>
    match skipSpace flags.spaced inner with
    | [] => none
    | c :: _ =>
      if c.isAlpha || c = '-' then
        match takeBoundaryName flags.spaced inner with
        | (name, '\x7d' :: rest) =>
          match String.ofList name with
          | "start" => some (.look (.wordStart flags.unicode), rest)
          | "end" => some (.look (.wordEnd flags.unicode), rest)
          | "start-half" => some (.look (.wordStartHalf flags.unicode), rest)
          | "end-half" => some (.look (.wordEndHalf flags.unicode), rest)
          | _ => none
        | _ => none
      else some (.look (.wordBoundary flags.unicode), text)
  | _ => some (.look (.wordBoundary flags.unicode), text)

def takeBraced (spaced : Bool) (text : List Char) : Option (List Char × List Char) :=
  match _h : skipSpace spaced text with
  | [] => none
  | c :: rest =>
    if c = '\x7d' then some ([], rest)
    else (takeBraced spaced rest).map fun (name, rest) => (c :: name, rest)
termination_by text.length
decreasing_by
  have := skipSpace_length_le spaced text
  rw [_h] at this
  simp at this
  omega

/-- What comes before the first `!=`, and what comes after it. -/
def splitUnequal? : List Char → Option (List Char × List Char)
  | [] => none
  | '!' :: '=' :: rest => some ([], rest)
  | c :: rest => (splitUnequal? rest).map fun (before, after) => (c :: before, after)

/-- What comes before the first `mark`, and what comes after it. -/
def splitAt? (mark : Char) (text : List Char) : Option (List Char × List Char) :=
  match text.dropWhile (· != mark) with
  | [] => none
  | _ :: rest => some (text.takeWhile (· != mark), rest)

/-- The characters that a description in braces stands for: a name, or a property and its value. Whether
`!=`, `:` or `=` stands between those makes no difference. -/
def described? (text : List Char) : Option Text.Ranges :=
  match (splitUnequal? text).or ((splitAt? ':' text).or (splitAt? '=' text)) with
  | some (property, value) => Text.setValued? property value
  | none => Text.setNamed? text

/-- Reads the description of a property, which is one letter or stands in braces. -/
def readProperty (spaced negated : Bool) (text : List Char) : Option (Escape × List Char) :=
  match skipSpace spaced text with
  | [] => none
  | c :: rest =>
    if c = '\\' then none
    else if c = '\x7b' then do
      let (description, rest) ← takeBraced spaced rest
      let members ← described? description
      some (.property members negated, rest)
    else (Text.setNamed? [c]).map fun members => (.property members negated, rest)

/-- Characters other than ASCII letters, digits and angle brackets may be escaped for
themselves, as long as they are ASCII. -/
def isEscapable (c : Char) : Bool :=
  c.toNat < 128 && !c.isAlphanum && c != '<' && c != '>'

/-- Reads an escape, after its backslash. References to groups are not part of the language. -/
def readEscape (flags : Flags) : List Char → Option (Escape × List Char)
  | [] => none
  | c :: rest =>
    match c with
    | 'x' | 'u' | 'U' => readNumbered flags.spaced c rest
    | 'd' => some (.cls .digit false, rest)
    | 'D' => some (.cls .digit true, rest)
    | 's' => some (.cls .blank false, rest)
    | 'S' => some (.cls .blank true, rest)
    | 'w' => some (.cls .word false, rest)
    | 'W' => some (.cls .word true, rest)
    | 'p' => readProperty flags.spaced false rest
    | 'P' => readProperty flags.spaced true rest
    | 'a' => some (.literal '\x07' false, rest)
    | 'f' => some (.literal '\x0c' false, rest)
    | 't' => some (.literal '\t' false, rest)
    | 'n' => some (.literal '\n' false, rest)
    | 'r' => some (.literal '\r' false, rest)
    | 'v' => some (.literal '\x0b' false, rest)
    | 'A' => some (.look .textStart, rest)
    | 'z' => some (.look .textEnd, rest)
    | 'b' => readBoundary flags rest
    | 'B' => some (.look (.noWordBoundary flags.unicode), rest)
    | '<' => some (.look (.wordStart flags.unicode), rest)
    | '>' => some (.look (.wordEnd flags.unicode), rest)
    | _ => if isEscapable c then some (.literal c false, rest) else none

/-! ## What is read is taken from the text -/

theorem readHexDigits_length_le {spaced : Bool} {count acc n : Nat} {text rest : List Char}
    (h : readHexDigits spaced count acc text = some (n, rest)) : rest.length ≤ text.length := by
  induction count generalizing acc text with
  | zero => cases h; exact Nat.le_refl _
  | succ count ih =>
    unfold readHexDigits at h
    have hs := skipSpace_length_le spaced text
    split at h
    · cases h
    · rename_i c cs hc
      obtain ⟨v, -, h⟩ := Option.bind_eq_some_iff.1 h
      have := ih h
      rw [hc] at hs
      simp at hs
      omega

theorem readHexBraced_length_le {spaced : Bool} {acc : Option Nat} {n : Nat}
    {text rest : List Char} (h : readHexBraced spaced acc text = some (n, rest)) :
    rest.length ≤ text.length := by
  fun_induction readHexBraced spaced acc text with
  | case1 => cases h
  | case2 acc text cs hs =>
    have hle := skipSpace_length_le spaced text
    rw [hs] at hle
    obtain ⟨m, -, hm⟩ := Option.map_eq_some_iff.1 h
    cases hm
    simp at hle
    omega
  | case3 => cases h
  | case4 acc text c cs hs _ v _ ih =>
    have hle := skipSpace_length_le spaced text
    rw [hs] at hle
    have := ih h
    simp at hle
    omega

theorem readNumbered_length_le {spaced : Bool} {letter : Char} {text rest : List Char} {e : Escape}
    (h : readNumbered spaced letter text = some (e, rest)) : rest.length ≤ text.length := by
  have hs := skipSpace_length_le spaced text
  simp only [readNumbered] at h
  split at h
  · rename_i cs hc
    obtain ⟨⟨n, r⟩, hn, h⟩ := Option.bind_eq_some_iff.1 h
    obtain ⟨c, -, h⟩ := Option.bind_eq_some_iff.1 h
    cases h
    have := readHexBraced_length_le hn
    rw [hc] at hs
    simp at hs this ⊢
    omega
  · obtain ⟨⟨n, r⟩, hn, h⟩ := Option.bind_eq_some_iff.1 h
    obtain ⟨c, -, h⟩ := Option.bind_eq_some_iff.1 h
    cases h
    exact Nat.le_trans (readHexDigits_length_le hn) hs

theorem takeBoundaryName_length_le (spaced : Bool) (text : List Char) :
    (takeBoundaryName spaced text).2.length ≤ text.length := by
  fun_induction takeBoundaryName spaced text with
  | case1 => simp
  | case2 text c rest hs _ name rest' hn ih =>
    have hle := skipSpace_length_le spaced text
    rw [hs] at hle
    rw [hn] at ih
    simp at hle ih ⊢
    omega
  | case3 text c rest hs _ =>
    have hle := skipSpace_length_le spaced text
    rw [hs] at hle
    exact hle

theorem readBoundary_length_le {flags : Flags} {text rest : List Char} {e : Escape}
    (h : readBoundary flags text = some (e, rest)) : rest.length ≤ text.length := by
  unfold readBoundary at h
  split at h
  · rename_i inner
    split at h
    · cases h
    · split at h
      · have hle := takeBoundaryName_length_le flags.spaced inner
        split at h
        · rename_i name r hn
          rw [hn] at hle
          simp at hle
          split at h <;> simp_all <;> omega
        · cases h
      · cases h; exact Nat.le_refl _
  · cases h; exact Nat.le_refl _

theorem takeBraced_length_le {spaced : Bool} {text name rest : List Char}
    (h : takeBraced spaced text = some (name, rest)) : rest.length ≤ text.length := by
  fun_induction takeBraced spaced text generalizing name with
  | case1 => cases h
  | case2 text cs hs =>
    have hle := skipSpace_length_le spaced text
    rw [hs] at hle
    cases h
    simp at hle
    omega
  | case3 text c cs hs _ ih =>
    have hle := skipSpace_length_le spaced text
    rw [hs] at hle
    obtain ⟨⟨inner, r⟩, hi, hm⟩ := Option.map_eq_some_iff.1 h
    cases hm
    have := ih hi
    simp at hle
    omega

theorem readProperty_length_le {spaced negated : Bool} {text rest : List Char} {e : Escape}
    (h : readProperty spaced negated text = some (e, rest)) : rest.length ≤ text.length := by
  have hs := skipSpace_length_le spaced text
  unfold readProperty at h
  split at h
  · cases h
  · rename_i c cs hc
    rw [hc] at hs
    simp at hs
    split at h
    · cases h
    · split at h
      · obtain ⟨⟨d, r⟩, hd, h⟩ := Option.bind_eq_some_iff.1 h
        obtain ⟨_, -, h⟩ := Option.bind_eq_some_iff.1 h
        cases h
        have := takeBraced_length_le hd
        omega
      · obtain ⟨_, -, h⟩ := Option.map_eq_some_iff.1 h
        cases h
        omega

theorem readEscape_length_lt {flags : Flags} {text rest : List Char} {e : Escape}
    (h : readEscape flags text = some (e, rest)) : rest.length < text.length := by
  cases text with
  | nil => cases h
  | cons c cs =>
    simp only [readEscape] at h
    simp only [List.length_cons, Nat.lt_succ_iff]
    split at h
    all_goals first
      | exact readNumbered_length_le h
      | exact readBoundary_length_le h
      | exact readProperty_length_le h
      | (cases h; exact Nat.le_refl _)
      | (split at h <;> simp_all)

end EntityProps.Pattern
