import EntityProps.Pattern.Escape

/-!
# Bracket expressions

A bracket expression is read one part at a time: a character, a range, a named
class, a nested bracket expression, or one of the operations `&&`, `--` and
`~~`, which bind alike and to the left. A frame is kept for every bracket that
is open and for the left side of an operation.
-/

namespace EntityProps.Pattern

/-- A part of a bracket expression, with the depth to which it nests others. -/
structure SetPart where
  set : CharSet
  depth : Nat

/-- What waits while an inner part of a bracket expression is read. -/
inductive SetFrame where
  /-- A bracket was opened among the parts `outer`, newest first. -/
  | opened (outer : List SetPart) (negated : Bool)
  /-- The left side of an operation. -/
  | operand (op : SetOp) (left : SetPart)

/-- A bracket expression that is being read: the parts of the innermost bracket, newest
first, and the frames around them, innermost first. -/
structure Bracket where
  parts : List SetPart
  frames : List SetFrame

/-- Closes a set under case if case is ignored. -/
def Flags.foldSet (flags : Flags) (s : CharSet) : CharSet :=
  if !flags.ignoreCase then s
  else if flags.unicode then .caseClosed s
  else .asciiCaseClosed s

/-- Without Unicode, only sets of ASCII characters are possible. -/
def Flags.permit (flags : Flags) (s : CharSet) : Option CharSet :=
  if flags.unicode || s.isAscii then some s else none

def Flags.namedSet (flags : Flags) (cls : NamedClass) (negated : Bool) : Option CharSet :=
  flags.permit <| .negateIf negated <|
    if flags.unicode then ⟨cls.ranges⟩ else .asciiNamed cls

/-- The set that a property stands for. Without Unicode there are no properties. -/
def Flags.propertySet (flags : Flags) (members : Text.Ranges) (negated : Bool) : Option CharSet :=
  if flags.unicode then some (.negateIf negated (flags.foldSet ⟨members⟩)) else none

def SetPart.join (newestFirst : List SetPart) : SetPart :=
  match newestFirst with
  | [] => ⟨.empty, 0⟩
  | [p] => p
  | ps => ⟨.unions (ps.reverse.map (·.set)), 1 + (ps.map (·.depth)).foldl max 0⟩

namespace Bracket

/-- Ends the operation whose right side is complete, if there is one. -/
def endOperation (flags : Flags) (right : SetPart) :
    List SetFrame → SetPart × List SetFrame
  | .operand op left :: frames =>
    (⟨.combine op (flags.foldSet left.set) (flags.foldSet right.set),
      1 + max left.depth right.depth⟩, frames)
  | frames => (right, frames)

/-- Reads hyphens, which stand for themselves at the start of a bracket. -/
def readHyphens (spaced : Bool) (parts : List SetPart) (text : List Char) :
    List SetPart × List Char :=
  match _h : skipSpace spaced text with
  | [] => (parts, [])
  | c :: rest =>
    if c = '-' then readHyphens spaced (⟨.single '-', 0⟩ :: parts) rest
    else (parts, c :: rest)
termination_by text.length
decreasing_by
  have := skipSpace_length_le spaced text
  rw [_h] at this
  simp at this
  omega

def readNegation : List Char → Bool × List Char
  | '^' :: rest => (true, rest)
  | text => (false, text)

/-- Reads what may only stand right after an open bracket: a negation, hyphens, and a close
bracket that stands for itself. -/
def readStart (spaced : Bool) (text : List Char) : Bool × List SetPart × List Char :=
  let (negated, text) := readNegation (skipSpace spaced text)
  match readHyphens spaced [] text with
  | ([], ']' :: rest) => (negated, [⟨.single ']', 0⟩], rest)
  | (parts, rest) => (negated, parts, rest)

def start (spaced : Bool) (outer : List SetPart) (frames : List SetFrame) (text : List Char) :
    Bracket × List Char :=
  let (negated, parts, rest) := readStart spaced text
  (⟨parts, .opened outer negated :: frames⟩, rest)

/-- Reads a class between colons, after the `[` that opens it. -/
def readColonClass (text : List Char) : Option (CharSet × Bool × List Char) :=
  match text with
  | ':' :: rest =>
    let (negated, rest) := readNegation rest
    match rest.dropWhile (· != ':') with
    | ':' :: ']' :: after =>
      (CharSet.ofColonName? (String.ofList (rest.takeWhile (· != ':')))).map
        fun s => (s, negated, after)
    | _ => none
  | _ => none

def readItem (flags : Flags) (c : Char) (rest : List Char) : Option (Escape × List Char) :=
  if c = '\\' then readEscape flags rest else some (.literal c false, rest)

def literal? (flags : Flags) : Escape → Option Char
  | .literal c _ => if flags.unicode || c.toNat < 128 then some c else none
  | _ => none

def itemSet? (flags : Flags) : Escape → Option CharSet
  | .cls cls negated => flags.namedSet cls negated
  | .property members negated => flags.propertySet members negated
  | e => (literal? flags e).map .single

/-- The character that follows a hyphen, as far as it decides whether the hyphen makes a range. -/
def afterHyphen (spaced : Bool) (rest : List Char) : Option Char :=
  if !spaced then rest.head?
  else match rest.dropWhile Text.isBlank with
    | '#' :: more => (more.dropWhile Text.isBlank).head?.or rest.head?
    | c :: _ => some c
    | [] => rest.head?

/-- Reads a character, a range or a class that starts with `c`. -/
def readRange (flags : Flags) (c : Char) (rest : List Char) : Option (CharSet × List Char) := do
  let (first, rest) ← readItem flags c rest
  match skipSpace flags.spaced rest with
  | '-' :: more =>
    let next := afterHyphen flags.spaced more
    if next = some ']' ∨ next = some '-' then
      let s ← itemSet? flags first
      some (s, '-' :: more)
    else match skipSpace flags.spaced more with
      | [] => none
      | d :: more => do
        let (last, rest) ← readItem flags d more
        let a ← literal? flags first
        let b ← literal? flags last
        if a ≤ b then some (.range a b, rest) else none
  | rest => do
    let s ← itemSet? flags first
    some (s, rest)

inductive Progress where
  | more (bracket : Bracket)
  | done (part : SetPart)

def add (b : Bracket) (s : CharSet) : Bracket :=
  { b with parts := { set := s, depth := 0 } :: b.parts }

/-- Turns to the right side of an operation. -/
def operation (flags : Flags) (b : Bracket) (op : SetOp) : Bracket :=
  let (left, frames) := endOperation flags (.join b.parts) b.frames
  ⟨[], .operand op left :: frames⟩

def close (flags : Flags) (b : Bracket) : Option Progress :=
  let (part, frames) := endOperation flags (.join b.parts) b.frames
  match frames with
  | .opened outer negated :: frames => do
    let s ← flags.permit (.negateIf negated (flags.foldSet part.set))
    let part : SetPart := ⟨s, part.depth + 1⟩
    match frames with
    | [] => some (.done part)
    | frames => some (.more ⟨part :: outer, frames⟩)
  | _ => none

def step (flags : Flags) (b : Bracket) (c : Char) (rest : List Char) :
    Option (Progress × List Char) :=
  let item : Option (Progress × List Char) := (readRange flags c rest).map fun (s, rest) =>
    (.more (b.add s), rest)
  match c, rest with
  | '[', rest =>
    match readColonClass rest with
    | some (s, negated, rest) =>
      (flags.permit (.negateIf negated (flags.foldSet s))).map fun s =>
        (.more (b.add s), rest)
    | none =>
      let (b, rest) := start flags.spaced b.parts b.frames rest
      some (.more b, rest)
  | ']', rest => (b.close flags).map (·, rest)
  | '&', '&' :: rest => some (.more (b.operation flags .intersection), rest)
  | '-', '-' :: rest => some (.more (b.operation flags .difference), rest)
  | '~', '~' :: rest => some (.more (b.operation flags .symmetricDifference), rest)
  | _, _ => item

/-! ## What is read is taken from the text -/

theorem readHyphens_length_le (spaced : Bool) (parts : List SetPart) (text : List Char) :
    (readHyphens spaced parts text).2.length ≤ text.length := by
  fun_induction readHyphens spaced parts text with
  | case1 => simp
  | case2 parts text rest hs ih =>
    have hle := skipSpace_length_le spaced text
    rw [hs] at hle
    simp at hle
    omega
  | case3 parts text c rest hs _ =>
    have hle := skipSpace_length_le spaced text
    rw [hs] at hle
    exact hle

theorem readNegation_length_le (text : List Char) :
    (readNegation text).2.length ≤ text.length := by
  unfold readNegation
  split <;> simp

theorem readStart_length_le (spaced : Bool) (text : List Char) :
    (readStart spaced text).2.2.length ≤ text.length := by
  have h₁ := skipSpace_length_le spaced text
  have h₂ := readNegation_length_le (skipSpace spaced text)
  have h₃ := readHyphens_length_le spaced [] (readNegation (skipSpace spaced text)).2
  simp only [readStart]
  split
  · rename_i hr
    rw [hr] at h₃
    simp at h₃ ⊢
    omega
  · rename_i heq
    rw [heq] at h₃
    exact Nat.le_trans h₃ (Nat.le_trans h₂ h₁)

theorem start_length_le (spaced : Bool) (outer : List SetPart) (frames : List SetFrame)
    (text : List Char) : (start spaced outer frames text).2.length ≤ text.length :=
  readStart_length_le spaced text

theorem readColonClass_length_le {text rest : List Char} {s : CharSet} {negated : Bool}
    (h : readColonClass text = some (s, negated, rest)) : rest.length ≤ text.length := by
  unfold readColonClass at h
  split at h
  · rename_i cs
    have hn := readNegation_length_le cs
    simp only at h
    split at h
    · rename_i after hd
      obtain ⟨_, -, h⟩ := Option.map_eq_some_iff.1 h
      cases h
      have := (List.dropWhile_suffix (l := (readNegation cs).2) (· != ':')).length_le
      rw [hd] at this
      simp at this ⊢
      omega
    · cases h
  · cases h

theorem readItem_length_le {flags : Flags} {c : Char} {rest rest' : List Char} {e : Escape}
    (h : readItem flags c rest = some (e, rest')) : rest'.length ≤ rest.length := by
  unfold readItem at h
  split at h
  · exact Nat.le_of_lt (readEscape_length_lt h)
  · cases h; exact Nat.le_refl _

theorem readRange_length_le {flags : Flags} {c : Char} {rest rest' : List Char} {s : CharSet}
    (h : readRange flags c rest = some (s, rest')) : rest'.length ≤ rest.length := by
  obtain ⟨⟨first, r₁⟩, h₁, h⟩ := Option.bind_eq_some_iff.1 h
  have l₁ := readItem_length_le h₁
  have l₂ := skipSpace_length_le flags.spaced r₁
  simp only at h
  split at h
  · rename_i more hs
    rw [hs] at l₂
    simp at l₂
    split at h
    · obtain ⟨s, -, h⟩ := Option.bind_eq_some_iff.1 h
      cases h
      simp
      omega
    · have l₃ := skipSpace_length_le flags.spaced more
      split at h
      · cases h
      · rename_i d more' hm
        rw [hm] at l₃
        simp at l₃
        obtain ⟨⟨last, r₂⟩, h₂, h⟩ := Option.bind_eq_some_iff.1 h
        obtain ⟨a, -, h⟩ := Option.bind_eq_some_iff.1 h
        obtain ⟨b, -, h⟩ := Option.bind_eq_some_iff.1 h
        have l₄ := readItem_length_le h₂
        split at h
        · cases h; simp only at *; omega
        · cases h
  · obtain ⟨s, -, h⟩ := Option.bind_eq_some_iff.1 h
    cases h
    omega

theorem step_length_le {flags : Flags} {b : Bracket} {c : Char} {rest rest' : List Char}
    {p : Progress} (h : b.step flags c rest = some (p, rest')) : rest'.length ≤ rest.length := by
  unfold step at h
  simp only at h
  split at h
  · split at h
    · rename_i hc
      obtain ⟨s, -, h⟩ := Option.map_eq_some_iff.1 h
      cases h
      exact readColonClass_length_le hc
    · cases h
      exact start_length_le _ _ _ _
  · obtain ⟨_, -, h⟩ := Option.map_eq_some_iff.1 h
    cases h
    exact Nat.le_refl _
  · cases h; simp
  · cases h; simp
  · cases h; simp
  · obtain ⟨⟨s, r⟩, hr, h⟩ := Option.map_eq_some_iff.1 h
    cases h
    exact readRange_length_le hr

end Bracket

end EntityProps.Pattern
