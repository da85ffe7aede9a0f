import EntityProps.Pattern.Bracket
import EntityProps.Text.Later

/-!
# Reading patterns

A pattern is read from left to right. The reader keeps the group that is being
read, the groups around it, and the flags in force; flags that are set inside a
group last until the group ends.
-/

namespace EntityProps.Pattern

inductive Piece where
  /-- A pattern, with the depth to which it nests others. -/
  | node (node : Node) (depth : Nat)
  /-- A place at which flags were set. It counts as a part and cannot be repeated. -/
  | flags

/-- A group that is being read: its finished alternatives and the parts of the last one, both
newest first. -/
structure Level where
  alternatives : List (Node × Nat)
  pieces : List Piece

namespace Level

def empty : Level := ⟨[], []⟩

def add (l : Level) (node : Node) (depth : Nat) : Level :=
  { l with pieces := .node node depth :: l.pieces }

def concat (l : Level) : Node × Nat :=
  let parts := l.pieces.reverse.filterMap fun
    | .node n d => some (n, d)
    | .flags => none
  let depth := (parts.map (·.2)).foldl max 0
  (.inOrder (parts.map (·.1)), if l.pieces.length ≤ 1 then depth else depth + 1)

def alternate (l : Level) : Level :=
  ⟨l.concat :: l.alternatives, []⟩

def close (l : Level) : Node × Nat :=
  match l.alternatives with
  | [] => l.concat
  | alternatives =>
    let parts := (l.concat :: alternatives).reverse
    (.alt (parts.map (·.1)), (parts.map (·.2)).foldl max 0 + 1)

def repeatLast (l : Level) (least : Nat) (most : Option Nat) : Option Level :=
  match l.pieces with
  | .node n d :: pieces => some { l with pieces := .node (.rep n least most) (d + 1) :: pieces }
  | _ => none

end Level

structure Outer where
  level : Level
  /-- The flags that hold again after the inner group. -/
  flags : Flags
  /-- The inner group captures what it matches. -/
  captures : Bool

structure Reader where
  flags : Flags
  /-- Names of the groups so far. -/
  names : List (List Char)
  level : Level
  /-- The groups around, innermost first. -/
  groups : List Outer
  /-- The bracket expression that is being read, if any. -/
  bracket : Option Bracket

/-! ## Repetitions -/

def skipLazy : List Char → List Char
  | '?' :: rest => rest
  | text => text

def takeDigits (spaced : Bool) (text : List Char) : List Char × List Char :=
  match text with
  | [] => ([], [])
  | c :: rest =>
    if c.isDigit then
      let (digits, rest) := takeDigits spaced (skipSpace spaced rest)
      (c :: digits, rest)
    else ([], c :: rest)
termination_by text.length
decreasing_by
  have := skipSpace_length_le spaced rest
  simp
  omega

/-- The text after white space; in the spaced style also after comments that follow it. -/
def skipBlank (spaced : Bool) (text : List Char) : List Char :=
  match text with
  | [] => []
  | c :: rest => if Text.isBlank c then skipBlank spaced (skipSpace spaced rest) else c :: rest
termination_by text.length
decreasing_by
  have := skipSpace_length_le spaced rest
  simp
  omega

def readCount (spaced : Bool) (text : List Char) : Option (Nat × List Char) :=
  let (digits, rest) := takeDigits spaced (text.dropWhile Text.isBlank)
  if digits.isEmpty then none
  else
    let n := digits.foldl (fun n d => n * 10 + (d.toNat - '0'.toNat)) 0
    if n < 0x100000000 then some (n, skipBlank spaced rest) else none

/-- Reads the upper bound of a repetition after the lower one `least`. There is none after a
bare comma, and without a comma it is the lower bound itself. -/
def readMost (spaced : Bool) (least : Nat) (text : List Char) : Option (Option Nat × List Char) :=
  match text with
  | ',' :: rest =>
    match skipSpace spaced rest with
    | '\x7d' :: rest => some (none, '\x7d' :: rest)
    | rest => (readCount spaced rest).map fun (most, rest) => (some most, rest)
  | text => some (some least, text)

/-- Reads the bounds of a repetition, after its `{`. -/
def readBounds (spaced : Bool) (text : List Char) : Option (Nat × Option Nat × List Char) := do
  let (least, rest) ← readCount spaced (skipSpace spaced text)
  let (most, rest) ← readMost spaced least rest
  match rest with
  | '\x7d' :: rest =>
    if most.all (least ≤ ·) then some (least, most, skipLazy (skipSpace spaced rest)) else none
  | _ => none

/-! ## Groups -/

/-- Reads the flags of a group, up to the `:` or `)` that ends them: the flags after them,
whether there were any, whether a group starts here, and the rest. -/
def readFlags (flags : Flags) (seen : List Char) (afterMinus negative : Bool) :
    List Char → Option (Flags × Bool × List Char)
  | [] => none
  | c :: rest =>
    if c = ':' then
      if afterMinus then none else some (flags, true, rest)
    else if c = ')' then
      if afterMinus || seen.isEmpty then none else some (flags, false, rest)
    else if c = '-' then
      if negative then none else readFlags flags seen true true rest
    else if c ∈ seen then none
    else match flags.set? c (!negative) with
      | some flags => readFlags flags (c :: seen) false negative rest
      | none => none

def isNameStart (c : Char) : Bool :=
  c == '_' || Text.isAlphabetic c

def isNameRest (c : Char) : Bool :=
  c == '_' || c == '.' || c == '[' || c == ']' || Text.isAlphanumeric c

def readName (names : List (List Char)) (text : List Char) : Option (List Char × List Char) :=
  match text.takeWhile (· != '>'), text.dropWhile (· != '>') with
  | c :: name, _ :: rest =>
    if isNameStart c && name.all isNameRest && !names.contains (c :: name) then
      some (c :: name, rest)
    else none
  | _, _ => none

namespace Reader

def initial : Reader :=
  ⟨{}, [], .empty, [], none⟩

def openGroup (r : Reader) (captures : Bool) (flags : Flags) (names : List (List Char)) : Reader :=
  { r with flags, names, level := .empty, groups := ⟨r.level, r.flags, captures⟩ :: r.groups }

def closeGroup (r : Reader) : Option Reader :=
  match r.groups with
  | [] => none
  | outer :: groups =>
    let (node, depth) := r.level.close
    let item := if outer.captures then .capture node else node
    some { r with flags := outer.flags, groups, level := outer.level.add item (depth + 1) }

/-- Reads what opens a group, after its `(`. Groups that look ahead or behind are not part of
the language. -/
def stepGroup (r : Reader) (text : List Char) : Option (Reader × List Char) :=
  match skipSpace r.flags.spaced text with
  | '?' :: 'P' :: '<' :: rest => named rest
  | '?' :: '<' :: rest => named rest
  | '?' :: rest =>
    (readFlags r.flags [] false false rest).map fun (flags, isGroup, rest) =>
      -- Flags without a group of their own hold up to the end of the group around them.
      if isGroup then (r.openGroup false flags r.names, rest)
      else ({ r with flags, level := { r.level with pieces := .flags :: r.level.pieces } }, rest)
  | rest => some (r.openGroup true r.flags r.names, rest)
where
  named (rest : List Char) : Option (Reader × List Char) :=
    (readName r.names rest).map fun (name, rest) =>
      (r.openGroup true r.flags (name :: r.names), rest)

def literal (flags : Flags) (c : Char) : Node :=
  .one (flags.foldSet (.single c))

def dot (flags : Flags) : Option Node :=
  -- Without Unicode a dot would match a single byte, maybe inside a character.
  if !flags.unicode then none
  else if flags.dotAll then some (.one .all)
  else if flags.carriage then some (.one (CharSet.ofChars [('\r', '\r'), ('\n', '\n')]).complement)
  else some (.one (CharSet.single '\n').complement)

def escaped (flags : Flags) : Escape → Option Node
  | .literal c byte => if !flags.unicode && byte && 128 ≤ c.toNat then none else some (literal flags c)
  | .cls cls negated => (flags.namedSet cls negated).map .one
  | .property members negated => (flags.propertySet members negated).map .one
  | .look condition => some (.look condition)

def add (r : Reader) (node : Node) (depth : Nat) : Reader :=
  { r with level := r.level.add node depth }

def repeatLast (r : Reader) (least : Nat) (most : Option Nat) : Option Reader :=
  (r.level.repeatLast least most).map fun level => { r with level }

/-- Reads the next part outside brackets, which starts with `c`. -/
def stepOutside (r : Reader) (c : Char) (rest : List Char) : Option (Reader × List Char) :=
  let flags := r.flags
  match c with
  | '(' => r.stepGroup rest
  | ')' => r.closeGroup.map (·, rest)
  | '|' => some ({ r with level := r.level.alternate }, rest)
  | '[' =>
    let (bracket, rest) := Bracket.start flags.spaced [] [] rest
    some ({ r with bracket := some bracket }, rest)
  | '?' => (r.repeatLast 0 (some 1)).map (·, skipLazy rest)
  | '*' => (r.repeatLast 0 none).map (·, skipLazy rest)
  | '+' => (r.repeatLast 1 none).map (·, skipLazy rest)
  | '\x7b' => do
    let (least, most, rest) ← readBounds flags.spaced rest
    (r.repeatLast least most).map (·, rest)
  | '\\' => do
    let (e, rest) ← readEscape flags rest
    (escaped flags e).map fun node => (r.add node 0, rest)
  | '.' => (dot flags).map fun node => (r.add node 0, rest)
  | '^' =>
    let condition := if flags.multiLine then .lineStart flags.carriage else .textStart
    some (r.add (.look condition) 0, rest)
  | '$' =>
    let condition := if flags.multiLine then .lineEnd flags.carriage else .textEnd
    some (r.add (.look condition) 0, rest)
  | c => some (r.add (literal flags c) 0, rest)

def step (r : Reader) (c : Char) (rest : List Char) : Option (Reader × List Char) :=
  match r.bracket with
  | none => r.stepOutside c rest
  | some b => (b.step r.flags c rest).map fun
    | (.more b, rest) => ({ r with bracket := some b }, rest)
    | (.done part, rest) => ({ r with bracket := none }.add (.one part.set) part.depth, rest)

end Reader

/-! ## What is read is taken from the text -/

theorem skipLazy_length_le (text : List Char) : (skipLazy text).length ≤ text.length := by
  unfold skipLazy
  split <;> simp

theorem takeDigits_length_le (spaced : Bool) (text : List Char) :
    (takeDigits spaced text).2.length ≤ text.length := by
  fun_induction takeDigits spaced text with
  | case1 => simp
  | case2 c rest _ digits rest' hd ih =>
    have := skipSpace_length_le spaced rest
    rw [hd] at ih
    simp at ih ⊢
    omega
  | case3 => simp

theorem skipBlank_length_le (spaced : Bool) (text : List Char) :
    (skipBlank spaced text).length ≤ text.length := by
  fun_induction skipBlank spaced text with
  | case1 => simp
  | case2 c rest _ ih =>
    have := skipSpace_length_le spaced rest
    simp
    omega
  | case3 => simp

theorem readCount_length_le {spaced : Bool} {text rest : List Char} {n : Nat}
    (h : readCount spaced text = some (n, rest)) : rest.length ≤ text.length := by
  have h₁ := (List.dropWhile_suffix (l := text) Text.isBlank).length_le
  have h₂ := takeDigits_length_le spaced (text.dropWhile Text.isBlank)
  have h₃ := skipBlank_length_le spaced (takeDigits spaced (text.dropWhile Text.isBlank)).2
  simp only [readCount] at h
  split at h
  · cases h
  · split at h
    · cases h
      omega
    · cases h

theorem readMost_length_le {spaced : Bool} {least : Nat} {most : Option Nat}
    {text rest : List Char} (h : readMost spaced least text = some (most, rest)) :
    rest.length ≤ text.length := by
  unfold readMost at h
  split at h
  · rename_i more
    have l := skipSpace_length_le spaced more
    split at h
    · rename_i hs
      cases h
      rw [hs] at l
      simp at l ⊢
      omega
    · obtain ⟨⟨k, r⟩, hk, h⟩ := Option.map_eq_some_iff.1 h
      cases h
      have := readCount_length_le hk
      simp
      omega
  · cases h
    exact Nat.le_refl _

theorem readBounds_length_le {spaced : Bool} {text rest : List Char} {least : Nat}
    {most : Option Nat} (h : readBounds spaced text = some (least, most, rest)) :
    rest.length ≤ text.length := by
  obtain ⟨⟨n, r₁⟩, h₁, h⟩ := Option.bind_eq_some_iff.1 h
  obtain ⟨⟨m, r₂⟩, h₂, h⟩ := Option.bind_eq_some_iff.1 h
  have l₀ := skipSpace_length_le spaced text
  have l₁ := readCount_length_le h₁
  have l₂ := readMost_length_le h₂
  simp only at h
  split at h
  · rename_i more
    have l₃ := skipSpace_length_le spaced more
    have l₄ := skipLazy_length_le (skipSpace spaced more)
    split at h
    · cases h
      simp at l₂
      omega
    · cases h
  · cases h

theorem readFlags_length_le {flags flags' : Flags} {seen : List Char} {afterMinus negative group : Bool}
    {text rest : List Char}
    (h : readFlags flags seen afterMinus negative text = some (flags', group, rest)) :
    rest.length ≤ text.length := by
  fun_induction readFlags flags seen afterMinus negative text <;> simp_all <;> omega

theorem readName_length_le {names : List (List Char)} {text name rest : List Char}
    (h : readName names text = some (name, rest)) : rest.length ≤ text.length := by
  have := (List.dropWhile_suffix (l := text) (· != '>')).length_le
  unfold readName at h
  split at h
  · rename_i heq
    rw [heq] at this
    split at h
    · cases h
      simp at this
      omega
    · cases h
  · cases h

namespace Reader

theorem stepGroup_length_le {r r' : Reader} {text rest : List Char}
    (h : r.stepGroup text = some (r', rest)) : rest.length ≤ text.length := by
  have named : ∀ {t : List Char}, stepGroup.named r t = some (r', rest) →
      rest.length ≤ t.length := by
    intro t ht
    obtain ⟨⟨name, rest'⟩, hn, ht⟩ := Option.map_eq_some_iff.1 ht
    cases ht
    exact readName_length_le hn
  have l := skipSpace_length_le r.flags.spaced text
  unfold stepGroup at h
  split at h
  · rename_i hs
    rw [hs] at l
    have := named h
    simp at l
    omega
  · rename_i hs
    rw [hs] at l
    have := named h
    simp at l
    omega
  · rename_i hs
    rw [hs] at l
    obtain ⟨⟨flags, group, rest'⟩, hf, h⟩ := Option.map_eq_some_iff.1 h
    have := readFlags_length_le hf
    simp only at h
    simp at l
    split at h <;> simp at h <;> obtain ⟨-, rfl⟩ := h <;> omega
  · cases h
    exact l

theorem stepOutside_length_le {r r' : Reader} {c : Char} {rest rest' : List Char}
    (h : r.stepOutside c rest = some (r', rest')) : rest'.length ≤ rest.length := by
  unfold stepOutside at h
  simp only at h
  split at h
  · exact stepGroup_length_le h
  · obtain ⟨_, -, h⟩ := Option.map_eq_some_iff.1 h
    cases h
    exact Nat.le_refl _
  · cases h
    exact Nat.le_refl _
  · cases h
    exact Bracket.start_length_le _ _ _ _
  · obtain ⟨_, -, h⟩ := Option.map_eq_some_iff.1 h
    cases h
    exact skipLazy_length_le _
  · obtain ⟨_, -, h⟩ := Option.map_eq_some_iff.1 h
    cases h
    exact skipLazy_length_le _
  · obtain ⟨_, -, h⟩ := Option.map_eq_some_iff.1 h
    cases h
    exact skipLazy_length_le _
  · obtain ⟨⟨least, most, rest₁⟩, hb, h⟩ := Option.bind_eq_some_iff.1 h
    obtain ⟨_, -, h⟩ := Option.map_eq_some_iff.1 h
    cases h
    exact readBounds_length_le hb
  · obtain ⟨⟨e, rest₁⟩, he, h⟩ := Option.bind_eq_some_iff.1 h
    obtain ⟨_, -, h⟩ := Option.map_eq_some_iff.1 h
    cases h
    exact Nat.le_of_lt (readEscape_length_lt he)
  · obtain ⟨_, -, h⟩ := Option.map_eq_some_iff.1 h
    cases h
    exact Nat.le_refl _
  all_goals
    cases h
    exact Nat.le_refl _

theorem step_length_le {r r' : Reader} {c : Char} {rest rest' : List Char}
    (h : r.step c rest = some (r', rest')) : rest'.length ≤ rest.length := by
  unfold step at h
  split at h
  · exact stepOutside_length_le h
  · obtain ⟨⟨p, rest₁⟩, hp, h⟩ := Option.map_eq_some_iff.1 h
    have := Bracket.step_length_le hp
    split at h <;> simp_all

def run (r : Reader) (text : List Char) : Option Reader :=
  match _h : skipSpace r.flags.spaced text with
  | [] => some r
  | c :: rest =>
    match _hs : r.step c rest with
    | none => none
    | some (next, rest) => next.run rest
termination_by text.length
decreasing_by
  have h₁ := skipSpace_length_le r.flags.spaced text
  have h₂ := step_length_le _hs
  rw [_h] at h₁
  simp at h₁
  omega

/-- The pattern that has been read, with the depth to which it nests others, unless a group or
a bracket expression is still open. -/
def result? (r : Reader) : Option (Node × Nat) :=
  if r.groups.isEmpty && r.bracket.isNone then some r.level.close else none

end Reader

end EntityProps.Pattern
