import EntityProps.Declaration
import EntityProps.Proofs.Pattern.Matches

/-!
# Patterns between anchors

The pattern of a declared rule is put into a group between two anchors, as text,
and the whole is read as one pattern. The rule accepts a text if that whole is
found in it.

If the group is closed by the bracket that was put after the pattern
(`ClosesLast`), what was read is the pattern between the two anchors, so each of
its matches spans the whole text. The bracket that closes the group may also stand
in the pattern. Then the anchors can come apart, and a part of the text may be
enough.

- `step_groups`: what a step of reading does to the groups that are open.
- `level_of_untilClosed`: when the group of the anchors is closed, what has been
  read is the first anchor and the group.
- `acceptsSub_iff_spans`: the result for declared rules. `not_forall_accepted_spans`
  is a rule whose pattern closes the group itself.
-/

namespace EntityProps

namespace Pattern

namespace Reader

/-- The group between the anchors, as it stands around the pattern. -/
def anchors : Outer where
  level := ⟨[], [.node (.look .textStart) 0]⟩
  flags := {}
  captures := false

/-- The state in which the pattern between the anchors is read. -/
def betweenAnchors : Reader :=
  ⟨{}, [], .empty, [anchors], none⟩

/-- Reads until no group is open. Gives the state there and the text that is left. -/
def untilClosed (r : Reader) (text : List Char) : Option (Reader × List Char) :=
  if r.groups.isEmpty then some (r, text)
  else
    match _h : skipSpace r.flags.spaced text with
    | [] => none
    | c :: rest =>
      match _hs : r.step c rest with
      | none => none
      | some (next, rest) => next.untilClosed rest
termination_by text.length
decreasing_by
  have h₁ := skipSpace_length_le r.flags.spaced text
  have h₂ := step_length_le _hs
  rw [_h] at h₁
  simp at h₁
  omega

end Reader

/-- The group between the anchors is closed by the bracket that was put after the pattern. -/
def ClosesLast (text : String) : Prop :=
  (Reader.betweenAnchors.untilClosed (text.toList ++ [')', '$'])).map (·.2) = some ['$']

instance (text : String) : Decidable (ClosesLast text) :=
  inferInstanceAs (Decidable (_ = _))

/-! ## Steps and groups -/

namespace Reader

variable {r r' : Reader} {c : Char} {text rest rest' : List Char}

theorem stepGroup_groups (h : r.stepGroup text = some (r', rest)) :
    r'.groups = r.groups ∨ ∃ outer, r'.groups = outer :: r.groups := by
  have named : ∀ {t}, stepGroup.named r t = some (r', rest) →
      ∃ outer, r'.groups = outer :: r.groups := by
    intro t ht
    obtain ⟨_, -, ht⟩ := Option.map_eq_some_iff.mp ht
    cases ht
    exact ⟨_, rfl⟩
  unfold stepGroup at h
  split at h
  · exact Or.inr (named h)
  · exact Or.inr (named h)
  · obtain ⟨⟨flags, isGroup, _⟩, -, h⟩ := Option.map_eq_some_iff.mp h
    cases isGroup with
    | true => cases h; exact Or.inr ⟨_, rfl⟩
    | false => cases h; exact Or.inl rfl
  · cases h
    exact Or.inr ⟨_, rfl⟩

theorem repeatLast_groups {least : Nat} {most : Option Nat}
    (h : r.repeatLast least most = some r') : r'.groups = r.groups := by
  obtain ⟨_, -, rfl⟩ := Option.map_eq_some_iff.mp h
  rfl

theorem stepOutside_groups (h : r.stepOutside c rest = some (r', rest')) :
    r'.groups = r.groups ∨ (∃ outer, r'.groups = outer :: r.groups) ∨ r.closeGroup = some r' := by
  unfold stepOutside at h
  simp only at h
  split at h
  · exact (stepGroup_groups h).imp_right Or.inl
  · obtain ⟨_, hclose, h⟩ := Option.map_eq_some_iff.mp h
    cases h
    exact Or.inr (Or.inr hclose)
  · cases h
    exact Or.inl rfl
  · cases h
    exact Or.inl rfl
  · obtain ⟨_, hrepeat, h⟩ := Option.map_eq_some_iff.mp h
    cases h
    exact Or.inl (repeatLast_groups hrepeat)
  · obtain ⟨_, hrepeat, h⟩ := Option.map_eq_some_iff.mp h
    cases h
    exact Or.inl (repeatLast_groups hrepeat)
  · obtain ⟨_, hrepeat, h⟩ := Option.map_eq_some_iff.mp h
    cases h
    exact Or.inl (repeatLast_groups hrepeat)
  · obtain ⟨_, -, h⟩ := Option.bind_eq_some_iff.mp h
    obtain ⟨_, hrepeat, h⟩ := Option.map_eq_some_iff.mp h
    cases h
    exact Or.inl (repeatLast_groups hrepeat)
  · obtain ⟨_, -, h⟩ := Option.bind_eq_some_iff.mp h
    obtain ⟨_, -, h⟩ := Option.map_eq_some_iff.mp h
    cases h
    exact Or.inl rfl
  · obtain ⟨_, -, h⟩ := Option.map_eq_some_iff.mp h
    cases h
    exact Or.inl rfl
  all_goals
    cases h
    exact Or.inl rfl

/-- A step leaves the groups as they are, opens one, or closes the innermost. -/
theorem step_groups (h : r.step c rest = some (r', rest')) :
    r'.groups = r.groups ∨ (∃ outer, r'.groups = outer :: r.groups) ∨
      r.bracket = none ∧ r.closeGroup = some r' := by
  unfold step at h
  split at h
  · next hbracket =>
    rcases stepOutside_groups h with h | h | h
    · exact Or.inl h
    · exact Or.inr (Or.inl h)
    · exact Or.inr (Or.inr ⟨hbracket, h⟩)
  · obtain ⟨⟨progress, _⟩, -, h⟩ := Option.map_eq_some_iff.mp h
    cases progress <;> cases h <;> exact Or.inl rfl

theorem run_of_cons (htext : skipSpace r.flags.spaced text = c :: rest) :
    r.run text = (r.step c rest).bind fun (next, rest) => next.run rest := by
  rw [run]
  split
  · next h => rw [htext] at h; cases h
  · next h =>
    rw [htext] at h
    cases h
    split
    · next hs => rw [hs]; rfl
    · next hs => rw [hs]; rfl

theorem run_of_step {next : Reader} (htext : skipSpace r.flags.spaced text = c :: rest)
    (hstep : r.step c rest = some (next, rest')) : r.run text = next.run rest' := by
  rw [run_of_cons htext, hstep]
  rfl

theorem run_of_skipSpace (htext : skipSpace r.flags.spaced text = []) : r.run text = some r := by
  rw [run]
  split
  · rfl
  · next h => rw [htext] at h; cases h

/-! ## Up to the bracket that closes the group -/

theorem untilClosed_of_groups_eq_nil (h : r.groups = []) (text : List Char) :
    r.untilClosed text = some (r, text) := by
  rw [untilClosed, if_pos (by rw [h]; rfl)]

/-- A reading that ends without open groups has come to a state without open groups first. -/
theorem exists_untilClosed_of_run (h : r.run text = some r') (hclosed : r'.groups = []) :
    ∃ r₁ rest, r.untilClosed text = some (r₁, rest) ∧ r₁.run rest = some r' := by
  fun_induction untilClosed r text with
  | case1 r text => exact ⟨r, text, rfl, h⟩
  | case2 r text hopen htext =>
    rw [run_of_skipSpace htext] at h
    cases h
    exact absurd hclosed (by simpa using hopen)
  | case3 r text hopen c rest htext hstep =>
    rw [run_of_cons htext, hstep] at h
    cases h
  | case4 r text hopen c rest htext next rest' hstep ih =>
    rw [run_of_step htext hstep] at h
    exact ih h

/-- When the outermost group is closed, it stands as one part behind what was before it, and the
flags from before it hold again. -/
theorem level_of_untilClosed {outer : Outer} {inner : List Outer}
    (hgroups : r.groups = inner ++ [outer]) (h : r.untilClosed text = some (r', rest)) :
    ∃ node depth, r'.level =
        outer.level.add (if outer.captures then .capture node else node) depth ∧
      r'.flags = outer.flags ∧ r'.groups = [] ∧ r'.bracket = none := by
  fun_induction untilClosed r text generalizing inner with
  | case1 r text hclosed =>
    rw [hgroups] at hclosed
    simp at hclosed
  | case2 => cases h
  | case3 => cases h
  | case4 r text hopen c rest htext next rest' hstep ih =>
    rcases step_groups hstep with heq | ⟨o, heq⟩ | ⟨hbracket, hclose⟩
    · exact ih (heq.trans hgroups) h
    · have hnext : next.groups = (o :: inner) ++ [outer] := heq.trans (congrArg (o :: ·) hgroups)
      exact ih hnext h
    · rw [closeGroup, hgroups] at hclose
      cases inner with
      | nil =>
        cases hclose
        rw [untilClosed_of_groups_eq_nil rfl] at h
        cases h
        exact ⟨_, _, rfl, rfl, rfl, hbracket⟩
      | cons o inner =>
        cases hclose
        exact ih rfl h

theorem run_anchored (text : String) :
    initial.run (anchored text).toList = betweenAnchors.run (text.toList ++ [')', '$']) := by
  have htext : (anchored text).toList =
      '^' :: '(' :: '?' :: ':' :: (text.toList ++ [')', '$']) := by
    simp [anchored]
  rw [htext]
  calc initial.run ('^' :: '(' :: '?' :: ':' :: (text.toList ++ [')', '$']))
      = (initial.add (.look .textStart) 0).run
          ('(' :: '?' :: ':' :: (text.toList ++ [')', '$'])) := run_of_step rfl rfl
    _ = betweenAnchors.run (text.toList ++ [')', '$']) := run_of_step rfl rfl

theorem run_dollar (hflags : r.flags = {}) (hbracket : r.bracket = none) :
    r.run ['$'] = some (r.add (.look .textEnd) 0) := by
  have htext : skipSpace r.flags.spaced ['$'] = ['$'] := by
    rw [hflags]
    rfl
  have hstep : r.step '$' [] = some (r.add (.look .textEnd) 0, []) := by
    rw [step, hbracket]
    simp [stepOutside, hflags]
  have hend : skipSpace (r.add (.look .textEnd) 0).flags.spaced [] = [] := by
    change skipSpace r.flags.spaced [] = []
    rw [hflags]
    rfl
  rw [run_of_step htext hstep, run_of_skipSpace hend]

end Reader

theorem tree?_of_compile {text : String} {pattern : Pattern} (h : compile text = .ok pattern) :
    tree? text.toList = some pattern.node := by
  rw [compile] at h
  split at h
  · cases h
  · next node htree =>
    split at h
    · cases h
      exact htree
    · cases h

theorem eq_some_of_tree? {text : List Char} {node : Node} (h : tree? text = some node) :
    ∃ r, Reader.initial.run text = some r ∧ r.groups = [] ∧ r.bracket = none ∧
      r.level.close.1 = node := by
  obtain ⟨r, hrun, h⟩ := Option.bind_eq_some_iff.mp h
  obtain ⟨⟨node', depth⟩, hresult, h⟩ := Option.bind_eq_some_iff.mp h
  rw [Reader.result?] at hresult
  split at hresult
  · next hclosed =>
    simp at hclosed hresult h
    exact ⟨r, hrun, hclosed.1, hclosed.2, by rw [hresult, h.2]⟩
  · cases hresult

/-- If the group is closed last, the pattern stands between the two anchors. -/
theorem exists_body_of_tree? {text : String} {node : Node}
    (h : tree? (anchored text).toList = some node) (hlast : ClosesLast text) :
    ∃ body, node = .seq [.look .textStart, body, .look .textEnd] := by
  obtain ⟨r, hrun, hgroups, -, hnode⟩ := eq_some_of_tree? h
  rw [Reader.run_anchored] at hrun
  obtain ⟨r₁, rest, huntil, hrest⟩ := Reader.exists_untilClosed_of_run hrun hgroups
  obtain rfl : rest = ['$'] := by simpa [ClosesLast, huntil] using hlast
  obtain ⟨body, depth, hlevel, hflags, -, hbracket⟩ :=
    Reader.level_of_untilClosed (List.nil_append [Reader.anchors]).symm huntil
  rw [Reader.run_dollar hflags hbracket] at hrest
  cases hrest
  refine ⟨body, ?_⟩
  rw [← hnode, Reader.add, hlevel]
  rfl

/-! ## Matches between the anchors -/

section Matches

variable {text : Array Char} {i j : Nat}

theorem holds_textStart_iff (hi : i ≤ text.size) :
    Look.textStart.holds (Node.before? text i) text[i]? = true ↔ i = 0 := by
  rw [Look.holds, Option.isNone_iff_eq_none, Node.before?]
  by_cases h : i = 0
  · simp [h]
  · simp [h]
    omega

theorem holds_textEnd_iff :
    Look.textEnd.holds (Node.before? text i) text[i]? = true ↔ text.size ≤ i := by
  rw [Look.holds, Option.isNone_iff_eq_none, Array.getElem?_eq_none_iff]

/-- Between anchors, the whole text is matched or nothing. -/
theorem matches_between_iff {body : Node} (hi : i ≤ text.size) :
    Matches text (.seq [.look .textStart, body, .look .textEnd]) i j ↔
      i = 0 ∧ j = text.size ∧ Matches text body 0 text.size := by
  simp only [matches_cons_iff, matches_look_iff, matches_nil_iff]
  constructor
  · rintro ⟨_, ⟨rfl, hstart⟩, k, hbody, _, ⟨rfl, hend⟩, rfl⟩
    obtain rfl := (holds_textStart_iff hi).mp hstart
    have hsize := holds_textEnd_iff.mp hend
    have hk : j = text.size := by
      rcases hbody.advances with rfl | ⟨-, h⟩ <;> omega
    subst hk
    exact ⟨rfl, rfl, hbody⟩
  · rintro ⟨rfl, rfl, hbody⟩
    exact ⟨0, ⟨rfl, (holds_textStart_iff hi).mpr rfl⟩, text.size, hbody, text.size,
      ⟨rfl, holds_textEnd_iff.mpr (Nat.le_refl _)⟩, rfl⟩

/-- A match between anchors is found exactly if one spans the whole text. -/
theorem exists_matches_between_iff {body : Node} :
    (∃ i ≤ text.size, ∃ j, Matches text (.seq [.look .textStart, body, .look .textEnd]) i j) ↔
      Matches text body 0 text.size := by
  constructor
  · rintro ⟨i, hi, j, h⟩
    obtain ⟨-, -, hbody⟩ := (matches_between_iff hi).mp h
    exact hbody
  · intro hbody
    exact ⟨0, Nat.zero_le _, _, (matches_between_iff (Nat.zero_le _)).mpr ⟨rfl, rfl, hbody⟩⟩

end Matches

theorem size_toArray_toList (text : String) : text.toList.toArray.size = text.length := by
  rw [List.size_toArray, String.length_toList]

end Pattern

/-! ## Declared rules -/

namespace DeclaredComplex

open Pattern

variable {r : DeclaredComplex} {pattern : Pattern} {text : String}

theorem tree?_of_pattern (hpattern : r.pattern = some pattern)
    (htext : r.decl.subPattern = some text) :
    tree? (anchored text).toList = some pattern.node := by
  have hcompiled := r.compiled
  rw [hpattern, htext] at hcompiled
  exact tree?_of_compile (Option.some.inj hcompiled)

/-- A sub-property is accepted if the pattern is found in it. -/
theorem acceptsSub_iff_exists_matches (hpattern : r.pattern = some pattern) {sub : String}
    {index : Nat} :
    r.acceptsSub sub index = true ↔
      (∀ most, r.decl.maxSubs = some most → index < most) ∧
        ∃ i ≤ sub.length, ∃ j, Matches sub.toList.toArray pattern.node i j := by
  rw [acceptsSub, hpattern, Bool.and_eq_true]
  simp only [Pattern.isMatch, matchesIn_iff, String.length_toList, Option.all_eq_true,
    decide_eq_true_eq]

/-- **A pattern between anchors matches in full.** A rule accepts the texts in which its pattern is
found. If the group between the anchors is closed last, all that is found there is the whole text,
so these are the texts that the pattern matches in full. -/
theorem acceptsSub_iff_spans (hpattern : r.pattern = some pattern)
    (htext : r.decl.subPattern = some text) (hlast : ClosesLast text) (sub : String) (index : Nat) :
    (r.acceptsSub sub index = true ↔
      (∀ most, r.decl.maxSubs = some most → index < most) ∧
        Matches sub.toList.toArray pattern.node 0 sub.length) ∧
    ∀ i ≤ sub.length, ∀ j, Matches sub.toList.toArray pattern.node i j →
      i = 0 ∧ j = sub.length := by
  obtain ⟨body, hnode⟩ := exists_body_of_tree? (tree?_of_pattern hpattern htext) hlast
  have hsize := size_toArray_toList sub
  have hspans : ∀ i ≤ sub.length, ∀ j, Matches sub.toList.toArray pattern.node i j →
      i = 0 ∧ j = sub.length := by
    intro i hi j h
    rw [hnode, matches_between_iff (by rw [hsize]; exact hi)] at h
    exact ⟨h.1, h.2.1.trans hsize⟩
  refine ⟨?_, hspans⟩
  rw [acceptsSub_iff_exists_matches hpattern]
  refine and_congr_right fun _ => ⟨?_, fun h => ⟨0, Nat.zero_le _, _, h⟩⟩
  rintro ⟨i, hi, j, h⟩
  obtain ⟨rfl, rfl⟩ := hspans i hi j h
  exact h

/-! ### Two patterns -/

theorem compiled_of_isOk {text : String} (h : (compile (anchored text)).isOk = true) :
    (some text).map (fun text => compile (anchored text)) =
      (compile (anchored text)).toOption.map .ok := by
  rw [Option.map_some]
  cases hc : compile (anchored text) with
  | ok pattern => rfl
  | error fault =>
    rw [hc] at h
    cases h

namespace Sample

def tight : DeclaredComplex where
  decl := { name := "Tight", subPattern := some "a+" }
  pattern := (compile (anchored "a+")).toOption
  named := by decide
  bounded := nofun
  compiled := compiled_of_isOk (by decide +kernel)

/-- A rule whose pattern closes the group between the anchors and opens another. Each
alternative has one anchor only. -/
def loose : DeclaredComplex where
  decl := { name := "Loose", subPattern := some "a)|(?:b" }
  pattern := (compile (anchored "a)|(?:b")).toOption
  named := by decide
  bounded := nofun
  compiled := compiled_of_isOk (by decide +kernel)

end Sample

/-- The rule `Tight` accepts `aa`, which its pattern matches in full, and it refuses `ax`. -/
theorem tight_spans :
    ClosesLast "a+" ∧ Sample.tight.acceptsSub "ax" 0 = false ∧
      Sample.tight.acceptsSub "aa" 0 = true ∧
      ∃ pattern, Sample.tight.pattern = some pattern ∧
        Matches "aa".toList.toArray pattern.node 0 2 := by
  have hlast : ClosesLast "a+" := by decide +kernel
  have haccepted : Sample.tight.acceptsSub "aa" 0 = true := by decide +kernel
  have hsome : Sample.tight.pattern.isSome = true := by decide +kernel
  obtain ⟨pattern, hpattern⟩ := Option.isSome_iff_exists.mp hsome
  have hspans := (acceptsSub_iff_spans hpattern rfl hlast "aa" 0).1.mp haccepted
  exact ⟨hlast, by decide +kernel, haccepted, pattern, hpattern, hspans.2⟩

/-- The rule `Loose` accepts `ax`, of which its pattern matches the `a` only. -/
theorem not_forall_accepted_spans :
    ¬ ∀ (r : DeclaredComplex) (pattern : Pattern) (sub : String) (index : Nat),
      r.pattern = some pattern → r.acceptsSub sub index = true →
        Matches sub.toList.toArray pattern.node 0 sub.length := by
  intro h
  have haccepted : Sample.loose.acceptsSub "ax" 0 = true := by decide +kernel
  have hsome : Sample.loose.pattern.isSome = true := by decide +kernel
  obtain ⟨pattern, hpattern⟩ := Option.isSome_iff_exists.mp hsome
  have hspans := h Sample.loose pattern "ax" 0 hpattern haccepted
  have hends := (mem_ends_iff _ _ [0] _).mpr ⟨0, List.mem_singleton.mpr rfl, hspans⟩
  -- From the first place, the pattern leads no further than behind the `a`.
  have hno : ∀ p ∈ Sample.loose.pattern, 2 ∉ p.node.ends "ax".toList.toArray [0] := by
    decide +kernel
  exact hno pattern hpattern hends

end DeclaredComplex

end EntityProps
