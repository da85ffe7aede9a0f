import EntityProps.Proofs.Offsets
import Mathlib.Logic.Relation

/-!
# Reading with a cursor

Token groups can be read by a loop that keeps what is left of the text and cuts it at
offsets in bytes. The loop stops where a cut is at no boundary (`Halt.panic`), and a
collected group could be asked for its main token although it has no tokens.

Neither happens, whatever the characters of the grammar and of the text are
(`Grammar.cursor_safe`): every iteration cuts at boundaries and leaves a shorter text
(`Grammar.safe`), every collected group has a token (`Grammar.Reaches.hasTokens`), and
the loop ends with the groups, or the error, that reading gives (`Grammar.run_start`).

An iteration takes one of five ways (`Grammar.Moves`). They are those of reading, each
with the equation for the text that it is about.
-/

namespace EntityProps

open Offset

/-! ## The loop -/

/-- What the loop keeps between its iterations. A group is the list of its tokens. -/
structure Cursor where
  groups : List (List String)
  /-- The group whose sub-tokens are being read. -/
  pending : Option (List String)
  rest : String

/-- No collected group is without tokens. -/
structure Cursor.HasTokens (s : Cursor) : Prop where
  groups : ∀ tokens ∈ s.groups, tokens ≠ []
  pending : ∀ tokens ∈ s.pending, tokens ≠ []

/-- Why the loop ends without groups. -/
inductive Halt where
  /-- A text is cut at an offset that is no boundary. -/
  | panic
  | error (e : ParseError)
deriving DecidableEq

def Halt.orPanic : Option String → Except Halt String
  | some text => .ok text
  | none => .error .panic

/-- The main token of a collected group. -/
def Cursor.main? (tokens : List String) : Option String :=
  tokens[0]?

/-- The sub-tokens of a collected group. -/
def Cursor.subs? (tokens : List String) : Option (List String) :=
  if 1 ≤ tokens.length then some (tokens.drop 1) else none

namespace Grammar

/-- The next delimiter that matters, with its offset. -/
def delimiter? (g : Grammar) (s : Cursor) : Option (Nat × Char) :=
  match s.pending with
  | none => findFirstOf s.rest g.separator g.opening
  | some _ => findFirstOf s.rest g.subSeparator g.closing

/-- The text after the property separator that has to follow a closed group, if any text does. -/
def skipSeparator (g : Grammar) (after : String) : Except Halt String :=
  match after.toList.head? with
  | none => .ok after
  | some next =>
    if next = g.separator then Halt.orPanic (after? after next.utf8Size)
    else .error (.error .separatorMissing)

/-- An iteration. -/
def step (g : Grammar) (s : Cursor) : Except Halt Cursor :=
  match s.pending, g.delimiter? s with
  | none, none => .ok ⟨s.groups ++ [[s.rest]], none, ""⟩
  | none, some (i, found) => do
    let main ← Halt.orPanic (before? s.rest i)
    let rest ← Halt.orPanic (after? s.rest (i + found.utf8Size))
    if found = g.separator then .ok ⟨s.groups ++ [[main]], none, rest⟩
    else .ok ⟨s.groups, some [main], rest⟩
  | some _, none => .error (.error .unclosed)
  | some tokens, some (i, found) =>
    if found = g.subSeparator then do
      let sub ← Halt.orPanic (before? s.rest i)
      let rest ← Halt.orPanic (after? s.rest (i + found.utf8Size))
      .ok ⟨s.groups, some (tokens ++ [sub]), rest⟩
    else do
      let after ← Halt.orPanic (after? s.rest (i + found.utf8Size))
      let rest ← g.skipSeparator after
      let sub ← Halt.orPanic (before? s.rest i)
      .ok ⟨s.groups ++ [tokens ++ [sub]], none, rest⟩

/-! ## The ways of an iteration -/

variable {g : Grammar} {groups : List (List String)} {tokens : List String} {s s' : Cursor}

theorem skipSeparator_ofList (after : List Char) :
    g.skipSeparator (.ofList after) =
      ((g.afterGroup after).map String.ofList).mapError Halt.error := by
  cases after with
  | nil => rfl
  | cons c cs =>
    have hafter : after? (.ofList (c :: cs)) c.utf8Size = some (.ofList cs) := by
      simpa using after?_behind [] cs c
    rw [skipSeparator, String.toList_ofList, List.head?_cons, afterGroup]
    by_cases hc : c = g.separator
    · simp only [if_pos hc, hafter]
      rfl
    · simp only [if_neg hc]
      rfl

theorem step_last {text : String} (h : ∀ c ∈ text.toList, c ≠ g.separator ∧ c ≠ g.opening) :
    g.step ⟨groups, none, text⟩ = .ok ⟨groups ++ [[text]], none, ""⟩ := by
  have hfind : g.delimiter? ⟨groups, none, text⟩ = none := findFirstOf_eq_none_iff.mpr h
  simp only [step, hfind]

theorem step_separator {main : List Char} (h : ∀ c ∈ main, c ≠ g.separator ∧ c ≠ g.opening)
    (rest : List Char) :
    g.step ⟨groups, none, .ofList (main ++ g.separator :: rest)⟩ =
      .ok ⟨groups ++ [[.ofList main]], none, .ofList rest⟩ := by
  have hfind := findFirstOf_ofList h (Or.inl rfl) rest
  simp only [step, delimiter?, hfind, before?_character, after?_behind, ↓reduceIte]
  rfl

theorem step_opening {main : List Char} (h : ∀ c ∈ main, c ≠ g.separator ∧ c ≠ g.opening)
    (rest : List Char) :
    g.step ⟨groups, none, .ofList (main ++ g.opening :: rest)⟩ =
      .ok ⟨groups, some [.ofList main], .ofList rest⟩ := by
  have hfind := findFirstOf_ofList h (Or.inr rfl) rest
  have hne : g.opening ≠ g.separator := fun e => g.valid.separator_ne_opening e.symm
  simp only [step, delimiter?, hfind, before?_character, after?_behind, if_neg hne]
  rfl

theorem step_unclosed {text : String}
    (h : ∀ c ∈ text.toList, c ≠ g.subSeparator ∧ c ≠ g.closing) :
    g.step ⟨groups, some tokens, text⟩ = .error (.error .unclosed) := by
  have hfind : g.delimiter? ⟨groups, some tokens, text⟩ = none := findFirstOf_eq_none_iff.mpr h
  simp only [step, hfind]

theorem step_subSeparator {sub : List Char}
    (h : ∀ c ∈ sub, c ≠ g.subSeparator ∧ c ≠ g.closing) (rest : List Char) :
    g.step ⟨groups, some tokens, .ofList (sub ++ g.subSeparator :: rest)⟩ =
      .ok ⟨groups, some (tokens ++ [.ofList sub]), .ofList rest⟩ := by
  have hfind := findFirstOf_ofList h (Or.inl rfl) rest
  simp only [step, delimiter?, hfind, before?_character, after?_behind, ↓reduceIte]
  rfl

theorem step_closing {sub : List Char} (h : ∀ c ∈ sub, c ≠ g.subSeparator ∧ c ≠ g.closing)
    (after : List Char) :
    g.step ⟨groups, some tokens, .ofList (sub ++ g.closing :: after)⟩ =
      ((g.afterGroup after).map fun rest =>
        ⟨groups ++ [tokens ++ [.ofList sub]], none, .ofList rest⟩).mapError Halt.error := by
  have hfind := findFirstOf_ofList h (Or.inr rfl) after
  have hne : g.closing ≠ g.subSeparator := fun e => g.valid.subSeparator_ne_closing e.symm
  simp only [step, delimiter?, hfind, if_neg hne, before?_character, after?_behind]
  show (g.skipSeparator (.ofList after) >>= fun rest =>
    Except.ok (⟨groups ++ [tokens ++ [.ofList sub]], none, rest⟩ : Cursor)) = _
  rw [skipSeparator_ofList]
  cases g.afterGroup after <;> rfl

/-- What an iteration does to the cursor. -/
inductive Moves (g : Grammar) : Cursor → Cursor → Prop
  /-- There is no delimiter any more: the rest is the last group. -/
  | last {groups : List (List String)} {text : String}
      (h : ∀ c ∈ text.toList, c ≠ g.separator ∧ c ≠ g.opening) :
      Moves g ⟨groups, none, text⟩ ⟨groups ++ [[text]], none, ""⟩
  | separated {groups : List (List String)} {main rest : List Char}
      (h : ∀ c ∈ main, c ≠ g.separator ∧ c ≠ g.opening) :
      Moves g ⟨groups, none, .ofList (main ++ g.separator :: rest)⟩
        ⟨groups ++ [[.ofList main]], none, .ofList rest⟩
  | opened {groups : List (List String)} {main rest : List Char}
      (h : ∀ c ∈ main, c ≠ g.separator ∧ c ≠ g.opening) :
      Moves g ⟨groups, none, .ofList (main ++ g.opening :: rest)⟩
        ⟨groups, some [.ofList main], .ofList rest⟩
  | continued {groups : List (List String)} {tokens : List String} {sub rest : List Char}
      (h : ∀ c ∈ sub, c ≠ g.subSeparator ∧ c ≠ g.closing) :
      Moves g ⟨groups, some tokens, .ofList (sub ++ g.subSeparator :: rest)⟩
        ⟨groups, some (tokens ++ [.ofList sub]), .ofList rest⟩
  | closed {groups : List (List String)} {tokens : List String} {sub after rest : List Char}
      (h : ∀ c ∈ sub, c ≠ g.subSeparator ∧ c ≠ g.closing) (hafter : g.afterGroup after = .ok rest) :
      Moves g ⟨groups, some tokens, .ofList (sub ++ g.closing :: after)⟩
        ⟨groups ++ [tokens ++ [.ofList sub]], none, .ofList rest⟩

/-- Every iteration goes one of these ways or ends with an error of reading. -/
theorem step_cases (g : Grammar) (s : Cursor) :
    (∃ s', g.step s = .ok s' ∧ g.Moves s s') ∨ ∃ e, g.step s = .error (.error e) := by
  obtain ⟨groups, pending, rest⟩ := s
  obtain ⟨text, rfl⟩ : ∃ text, rest = String.ofList text :=
    ⟨rest.toList, String.ofList_toList.symm⟩
  cases pending with
  | none =>
    left
    rcases free_or_cut g.separator g.opening text with hfree | ⟨main, rest, hfree, rfl | rfl⟩
    · have htext : ∀ c ∈ (String.ofList text).toList, c ≠ g.separator ∧ c ≠ g.opening := by
        rwa [String.toList_ofList]
      exact ⟨_, step_last htext, .last htext⟩
    · exact ⟨_, step_separator hfree rest, .separated hfree⟩
    · exact ⟨_, step_opening hfree rest, .opened hfree⟩
  | some tokens =>
    rcases free_or_cut g.subSeparator g.closing text with hfree | ⟨sub, after, hfree, rfl | rfl⟩
    · exact Or.inr ⟨.unclosed, step_unclosed (by rwa [String.toList_ofList])⟩
    · exact Or.inl ⟨_, step_subSeparator hfree after, .continued hfree⟩
    · have hstep : g.step ⟨groups, some tokens, .ofList (sub ++ g.closing :: after)⟩ = _ :=
        step_closing hfree after
      cases hafter : g.afterGroup after with
      | error e =>
        rw [hafter] at hstep
        exact Or.inr ⟨e, hstep⟩
      | ok rest =>
        rw [hafter] at hstep
        exact Or.inl ⟨_, hstep, .closed hfree hafter⟩

theorem step_ne_panic (g : Grammar) (s : Cursor) : g.step s ≠ .error .panic := by
  rcases g.step_cases s with ⟨s', h, -⟩ | ⟨e, h⟩
  · rw [h]
    exact nofun
  · rw [h]
    exact nofun

theorem moves_of_step (h : g.step s = .ok s') : g.Moves s s' := by
  rcases g.step_cases s with ⟨t, ht, hmoves⟩ | ⟨e, he⟩
  · rw [ht] at h
    cases h
    exact hmoves
  · rw [he] at h
    cases h

/-- Every iteration takes bytes away, if there are any. -/
theorem Moves.rest_lt (h : g.Moves s s') (hrest : s.rest ≠ "") :
    s'.rest.utf8ByteSize < s.rest.utf8ByteSize := by
  cases h with
  | last h => exact Nat.pos_of_ne_zero fun hzero => hrest (String.utf8ByteSize_eq_zero_iff.mp hzero)
  | separated h => exact utf8ByteSize_lt_behind _ _ _
  | opened h => exact utf8ByteSize_lt_behind _ _ _
  | continued h => exact utf8ByteSize_lt_behind _ _ _
  | @closed groups tokens sub after rest h hafter =>
    have hclosing : (String.ofList after).utf8ByteSize <
        (String.ofList (sub ++ g.closing :: after)).utf8ByteSize := utf8ByteSize_lt_behind _ _ _
    rcases afterGroup_eq_ok_iff.mp hafter with ⟨rfl, rfl⟩ | rfl
    · exact hclosing
    · have hseparator : (String.ofList rest).utf8ByteSize <
          (String.ofList (g.separator :: rest)).utf8ByteSize := utf8ByteSize_lt_behind [] _ _
      exact Nat.lt_trans hseparator hclosing

/-! ## Runs -/

def run (g : Grammar) (s : Cursor) : Except Halt (List (List String)) :=
  if _hrest : s.rest = "" then
    match s.pending with
    | none => .ok s.groups
    | some _ => .error (.error .unclosed)
  else
    match _hstep : g.step s with
    | .error halt => .error halt
    | .ok s' => g.run s'
termination_by s.rest.utf8ByteSize
decreasing_by exact (moves_of_step _hstep).rest_lt _hrest

/-- The cursor before the first iteration. -/
def start (g : Grammar) (body : List Char) : Cursor :=
  ⟨[], none, .ofList (g.strip body)⟩

/-- The loop goes on, from one cursor to another. -/
def Advances (g : Grammar) (s s' : Cursor) : Prop :=
  s.rest ≠ "" ∧ g.step s = .ok s'

/-- The cursor is one of those that the loop has for this body. -/
def Reaches (g : Grammar) (body : List Char) : Cursor → Prop :=
  Relation.ReflTransGen g.Advances (g.start body)

theorem Moves.hasTokens (h : g.Moves s s') (hs : s.HasTokens) : s'.HasTokens := by
  have hpush : ∀ {groups : List (List String)} {tokens : List String},
      (∀ x ∈ groups, x ≠ []) → tokens ≠ [] → ∀ x ∈ groups ++ [tokens], x ≠ [] := by
    intro groups tokens hgroups htokens x hx
    rcases List.mem_append.mp hx with hx | hx
    · exact hgroups x hx
    · rw [List.mem_singleton.mp hx]
      exact htokens
  cases h with
  | last h => exact ⟨hpush hs.groups (List.cons_ne_nil _ _), nofun⟩
  | separated h => exact ⟨hpush hs.groups (List.cons_ne_nil _ _), nofun⟩
  | opened h =>
    refine ⟨hs.groups, ?_⟩
    rintro tokens ⟨⟩
    exact List.cons_ne_nil _ _
  | continued h =>
    refine ⟨hs.groups, ?_⟩
    rintro tokens ⟨⟩
    exact List.concat_ne_nil _ _
  | closed h hafter => exact ⟨hpush hs.groups (List.concat_ne_nil _ _), nofun⟩

/-- A run keeps what every iteration keeps. -/
theorem Reaches.hasTokens {body : List Char} (h : g.Reaches body s) : s.HasTokens := by
  induction h with
  | refl => exact ⟨nofun, nofun⟩
  | tail _ hstep ih => exact (moves_of_step hstep.2).hasTokens ih

/-! ## The outcome of a run -/

/-- The groups, collected behind others, or the error. -/
def collected (groups : List (List String)) :
    Except ParseError (List TokenGroup) → Except Halt (List (List String))
  | .ok ts => .ok (groups ++ ts.map TokenGroup.tokens)
  | .error e => .error (.error e)

theorem collected_map_cons (groups : List (List String)) (t : TokenGroup)
    (x : Except ParseError (List TokenGroup)) :
    collected groups (x.map (t :: ·)) = collected (groups ++ [t.tokens]) x := by
  cases x with
  | error e => rfl
  | ok ts => simp [collected, Except.map]

theorem run_empty (groups : List (List String)) (pending : Option (List String)) :
    g.run ⟨groups, pending, ""⟩ =
      match pending with
      | none => .ok groups
      | some _ => .error (.error .unclosed) := by
  rw [run, dif_pos rfl]

theorem run_of_step (hrest : s.rest ≠ "") (h : g.step s = .ok s') : g.run s = g.run s' := by
  rw [run, dif_neg hrest]
  split
  · next hstep =>
    rw [h] at hstep
    cases hstep
  · next t hstep =>
    rw [h] at hstep
    cases hstep
    rfl

theorem run_of_error {halt : Halt} (hrest : s.rest ≠ "") (h : g.step s = .error halt) :
    g.run s = .error halt := by
  rw [run, dif_neg hrest]
  split
  · next halt' hstep =>
    rw [h] at hstep
    cases hstep
    rfl
  · next hstep =>
    rw [h] at hstep
    cases hstep

theorem ofList_append_cons_ne_empty (before : List Char) (c : Char) (after : List Char) :
    String.ofList (before ++ c :: after) ≠ "" := by
  simp

/-- From inside of a group the loop goes on with the group that reading gives. -/
theorem run_pending (groups : List (List String)) (tokens : List String) (text : List Char) :
    g.run ⟨groups, some tokens, .ofList text⟩ =
      match g.readSubs text with
      | .ok (subs, rest) => g.run ⟨groups ++ [tokens ++ subs], none, .ofList rest⟩
      | .error e => .error (.error e) := by
  induction text using cut_induction g.subSeparator g.closing generalizing tokens with
  | free text hfree =>
    rw [readSubs_unclosed hfree]
    by_cases hempty : String.ofList text = ""
    · rw [hempty, run_empty]
    · have htext : ∀ c ∈ (String.ofList text).toList, c ≠ g.subSeparator ∧ c ≠ g.closing := by
        rwa [String.toList_ofList]
      exact run_of_error hempty (step_unclosed htext)
  | first sub after hfree ih =>
    rw [run_of_step (ofList_append_cons_ne_empty _ _ _) (step_subSeparator hfree after),
      ih after (Nat.le_refl _), readSubs_separator after hfree]
    cases g.readSubs after with
    | error e => rfl
    | ok read =>
      obtain ⟨subs, rest⟩ := read
      simp [Except.map]
  | second sub after hfree _ =>
    have hstep : g.step ⟨groups, some tokens, .ofList (sub ++ g.closing :: after)⟩ = _ :=
      step_closing hfree after
    have hrest : String.ofList (sub ++ g.closing :: after) ≠ "" :=
      ofList_append_cons_ne_empty _ _ _
    rw [readSubs_closing after hfree]
    cases hafter : g.afterGroup after with
    | error e =>
      rw [hafter] at hstep
      exact run_of_error hrest hstep
    | ok rest =>
      rw [hafter] at hstep
      exact run_of_step hrest hstep

theorem run_between (groups : List (List String)) (text : List Char) :
    g.run ⟨groups, none, .ofList text⟩ = collected groups (g.readGroups text) := by
  induction text using cut_induction g.separator g.opening generalizing groups with
  | free text hfree =>
    rw [readGroups_plain hfree]
    cases text with
    | nil => simp [run_empty, collected]
    | cons c cs =>
      have htext : ∀ d ∈ (String.ofList (c :: cs)).toList, d ≠ g.separator ∧ d ≠ g.opening := by
        rwa [String.toList_ofList]
      have hrest : String.ofList (c :: cs) ≠ "" := ofList_append_cons_ne_empty [] c cs
      rw [run_of_step hrest (step_last htext), run_empty]
      rfl
  | first main after hfree ih =>
    rw [run_of_step (ofList_append_cons_ne_empty _ _ _) (step_separator hfree after),
      ih after (Nat.le_refl _), readGroups_separator after hfree, collected_map_cons]
    rfl
  | second main after hfree ih =>
    rw [run_of_step (ofList_append_cons_ne_empty _ _ _) (step_opening hfree after), run_pending,
      readGroups_opening after hfree]
    cases hsubs : g.readSubs after with
    | error e => rfl
    | ok read =>
      obtain ⟨subs, rest⟩ := read
      have hlength : rest.length ≤ after.length := Nat.le_of_lt (readSubs_length_lt hsubs)
      show g.run ⟨groups ++ [.ofList main :: subs], none, .ofList rest⟩ =
        collected groups ((g.readGroups rest).map (⟨String.ofList main, subs⟩ :: ·))
      rw [ih rest hlength, collected_map_cons]
      rfl

/-- The loop ends with the token groups of the body, or with the error of reading them. -/
theorem run_start (g : Grammar) (body : List Char) :
    g.run (g.start body) =
      ((g.tokenGroups body).map (·.map TokenGroup.tokens)).mapError Halt.error := by
  rw [start, run_between, tokenGroups]
  cases g.readGroups (g.strip body) <;> rfl

/-! ## Safety -/

/-- All offsets of an iteration are boundaries, and the text gets shorter. -/
structure Safe (g : Grammar) (s : Cursor) : Prop where
  /-- The offset of the delimiter and the one behind it. -/
  found : ∀ i c, g.delimiter? s = some (i, c) →
    isBoundary s.rest i = true ∧ isBoundary s.rest (i + c.utf8Size) = true
  /-- The offset behind the character that follows the delimiter. -/
  following : ∀ i c after, g.delimiter? s = some (i, c) →
    after? s.rest (i + c.utf8Size) = some after →
    ∀ next ∈ after.toList.head?, isBoundary after next.utf8Size = true
  step_ne_panic : g.step s ≠ .error .panic
  shorter : ∀ s', g.step s = .ok s' → s'.rest.utf8ByteSize < s.rest.utf8ByteSize

theorem exists_ofList_of_delimiter? {i : Nat} {c : Char} (h : g.delimiter? s = some (i, c)) :
    ∃ before after, s.rest = .ofList (before ++ c :: after) ∧
      i = (String.ofList before).utf8ByteSize := by
  obtain ⟨groups, pending, rest⟩ := s
  have hfind : ∃ a b, findFirstOf rest a b = some (i, c) := by
    cases pending with
    | none => exact ⟨g.separator, g.opening, h⟩
    | some tokens => exact ⟨g.subSeparator, g.closing, h⟩
  obtain ⟨a, b, hfind⟩ := hfind
  obtain ⟨before, after, hrest, hi, -⟩ := exists_ofList_of_findFirstOf hfind
  exact ⟨before, after, hrest, hi⟩

theorem safe (hrest : s.rest ≠ "") : g.Safe s where
  found := by
    intro i c h
    obtain ⟨before, after, hrest, rfl⟩ := exists_ofList_of_delimiter? h
    rw [hrest]
    exact ⟨isBoundary_character before after c, isBoundary_behind before after c⟩
  following := by
    intro i c after h hafter next hnext
    obtain ⟨before, more, hrest, rfl⟩ := exists_ofList_of_delimiter? h
    rw [hrest, after?_behind, Option.some.injEq] at hafter
    subst hafter
    cases more with
    | nil => cases hnext
    | cons d ds =>
      rw [String.toList_ofList] at hnext
      cases hnext
      simpa using isBoundary_behind [] ds next
  step_ne_panic := g.step_ne_panic s
  shorter := fun _ hstep => (moves_of_step hstep).rest_lt hrest

/-- **The cursor never cuts a character.** The offset that is looked up is the size of the longest
prefix without the two characters, and the character found is the one behind it. In every
iteration, for all grammars and bodies, the text is cut at boundaries only and gets shorter. Every
collected group has a main token and sub-tokens, and the run ends with what reading gives. -/
theorem cursor_safe :
    (∀ (text : String) (a b : Char), ∃ before after,
      text = before ++ after ∧ LongestFree a b text before ∧
        findFirstOf text a b = after.toList.head?.map fun c => (before.utf8ByteSize, c)) ∧
    ∀ (g : Grammar) (body : List Char),
      (∀ s, g.Reaches body s → s.rest ≠ "" → g.Safe s) ∧
      (∀ s, g.Reaches body s → ∀ tokens ∈ s.groups ++ s.pending.toList, ∃ t : TokenGroup,
        Cursor.main? tokens = some t.main ∧ Cursor.subs? tokens = some t.subs) ∧
      g.run (g.start body) =
        ((g.tokenGroups body).map (·.map TokenGroup.tokens)).mapError Halt.error := by
  refine ⟨exists_findFirstOf_eq, fun g body => ⟨fun s _ => safe, ?_, run_start g body⟩⟩
  intro s hs tokens htokens
  have hne : tokens ≠ [] := by
    rcases List.mem_append.mp htokens with hgroup | hpending
    · exact hs.hasTokens.groups tokens hgroup
    · exact hs.hasTokens.pending tokens (Option.mem_toList.mp hpending)
  obtain ⟨main, subs, rfl⟩ := List.exists_cons_of_ne_nil hne
  exact ⟨⟨main, subs⟩, rfl, rfl⟩

end Grammar

end EntityProps
