import EntityProps.Grammar
import EntityProps.ParseError

/-!
# Token groups

The body of an annotation is a list of token groups. A simple group is its
main token alone. A complex group has its sub-tokens between enclosers, at
least one of them, each of which may be empty. A property separator follows
every group; after the last one it may be left out.

The reader works on stripped text and cuts it at the first delimiter that
matters where it stands: a property separator or an open encloser between
groups, a sub-property separator or a close encloser inside one. Other
delimiters are ordinary text.
-/

namespace EntityProps

/-- One written property: its main token, and its sub-tokens in source order. -/
structure TokenGroup where
  main : String
  subs : List String
deriving DecidableEq

namespace TokenGroup

/-- The group was written without enclosers. -/
def isSimple (t : TokenGroup) : Bool :=
  t.subs.isEmpty

def tokens (t : TokenGroup) : List String :=
  t.main :: t.subs

end TokenGroup

/-- A text cut at a delimiter. -/
structure Cut where
  before : List Char
  found : Char
  after : List Char

/-- The cut at the first occurrence of either character. -/
def cut? (a b : Char) : List Char → Option Cut
  | [] => none
  | c :: rest =>
    if c = a ∨ c = b then some ⟨[], c, rest⟩
    else (cut? a b rest).map fun k => { k with before := c :: k.before }

/-- A cut takes nothing away but the delimiter that it reports, and finds it where it
first stands. -/
theorem cut?_eq_some_iff {a b : Char} {text : List Char} {k : Cut} :
    cut? a b text = some k ↔
      text = k.before ++ k.found :: k.after ∧ (k.found = a ∨ k.found = b) ∧
        ∀ c ∈ k.before, c ≠ a ∧ c ≠ b := by
  induction text generalizing k with
  | nil => simp [cut?]
  | cons c rest ih =>
    unfold cut?
    split
    · rename_i hc
      constructor
      · rintro ⟨⟩
        exact ⟨rfl, hc, by simp⟩
      · rintro ⟨ht, _, hb⟩
        obtain ⟨before, found, after⟩ := k
        cases before with
        | nil => simp_all
        | cons d ds =>
          obtain ⟨rfl, -⟩ := List.cons.inj ht
          have := hb c (by simp)
          simp_all
    · rename_i hc
      rw [not_or] at hc
      constructor
      · intro h
        obtain ⟨k', hk', rfl⟩ := Option.map_eq_some_iff.1 h
        obtain ⟨ht, hf, hb⟩ := ih.1 hk'
        refine ⟨by simp [ht], hf, ?_⟩
        intro d hd
        cases hd with
        | head => exact hc
        | tail _ hd => exact hb d hd
      · rintro ⟨ht, hf, hb⟩
        obtain ⟨before, found, after⟩ := k
        cases before with
        | nil => simp_all
        | cons d ds =>
          obtain ⟨rfl, ht⟩ := List.cons.inj ht
          exact Option.map_eq_some_iff.2
            ⟨⟨ds, found, after⟩, ih.2 ⟨ht, hf, fun e he => hb e (by simp [he])⟩, rfl⟩

/-- There is no cut exactly where neither character stands. -/
theorem cut?_eq_none_iff {a b : Char} {text : List Char} :
    cut? a b text = none ↔ ∀ c ∈ text, c ≠ a ∧ c ≠ b := by
  induction text with
  | nil => simp [cut?]
  | cons c rest ih =>
    unfold cut?
    split
    · rename_i hc
      simp only [reduceCtorEq, List.mem_cons, forall_eq_or_imp, false_iff, not_and]
      exact fun h => absurd hc (not_or.2 h)
    · rename_i hc
      simp [ih, not_or.1 hc]

theorem cut?_length_lt {a b : Char} {text : List Char} {k : Cut} (h : cut? a b text = some k) :
    k.after.length < text.length := by
  rw [(cut?_eq_some_iff.1 h).1]
  simp
  omega

namespace Grammar

/-- The text after a closed group: what follows the property separator, or nothing. -/
def afterGroup (g : Grammar) : List Char → Except ParseError (List Char)
  | [] => .ok []
  | c :: rest => if c = g.separator then .ok rest else .error .separatorMissing

/-- Reads the sub-tokens up to the close encloser. Gives them and the text of the next group. -/
def readSubs (g : Grammar) (text : List Char) : Except ParseError (List String × List Char) :=
  match _hk : cut? g.subSeparator g.closing text with
  | none => .error .unclosed
  | some k =>
    if k.found = g.subSeparator then
      (g.readSubs k.after).map fun (subs, rest) => (String.ofList k.before :: subs, rest)
    else
      (g.afterGroup k.after).map fun rest => ([String.ofList k.before], rest)
termination_by text.length
decreasing_by exact cut?_length_lt _hk

theorem afterGroup_length_le {g : Grammar} {text rest : List Char}
    (h : g.afterGroup text = .ok rest) : rest.length ≤ text.length := by
  cases text with
  | nil => cases h; simp
  | cons c cs =>
    simp only [afterGroup] at h
    split at h <;> simp_all

theorem readSubs_length_lt {g : Grammar} {text rest : List Char} {subs : List String}
    (h : g.readSubs text = .ok (subs, rest)) : rest.length < text.length := by
  fun_induction readSubs g text generalizing subs with
  | case1 => cases h
  | case2 text k hk _ ih =>
    cases hr : g.readSubs k.after with
    | error e => simp [hr, Except.map] at h
    | ok p =>
      simp only [hr, Except.map, Except.ok.injEq, Prod.mk.injEq] at h
      obtain ⟨-, rfl⟩ := h
      exact Nat.lt_trans (ih hr) (cut?_length_lt hk)
  | case3 text k hk _ =>
    cases hr : g.afterGroup k.after with
    | error e => simp [hr, Except.map] at h
    | ok p =>
      simp only [hr, Except.map, Except.ok.injEq, Prod.mk.injEq] at h
      obtain ⟨-, rfl⟩ := h
      exact Nat.lt_of_le_of_lt (afterGroup_length_le hr) (cut?_length_lt hk)

def readGroups (g : Grammar) (text : List Char) : Except ParseError (List TokenGroup) :=
  match _hk : cut? g.separator g.opening text with
  -- There is no group behind the last separator unless something is written there.
  | none => .ok (if text.isEmpty then [] else [⟨String.ofList text, []⟩])
  | some k =>
    if k.found = g.separator then
      (g.readGroups k.after).map (⟨String.ofList k.before, []⟩ :: ·)
    else
      match _hs : g.readSubs k.after with
      | .error e => .error e
      | .ok (subs, rest) => (g.readGroups rest).map (⟨String.ofList k.before, subs⟩ :: ·)
termination_by text.length
decreasing_by
  · exact cut?_length_lt _hk
  · exact Nat.lt_trans (readSubs_length_lt _hs) (cut?_length_lt _hk)

def tokenGroups (g : Grammar) (body : List Char) : Except ParseError (List TokenGroup) :=
  g.readGroups (g.strip body)

end Grammar

end EntityProps
