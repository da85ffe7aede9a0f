import EntityProps.Proofs.Configured
import EntityProps.Proofs.Pattern.Anchored
import EntityProps.Proofs.Pattern.Steps

/-!
# Patterns that are patterns by themselves

The pattern of a declared rule is put between anchors as text. If it is a pattern by itself,
the whole is read as its tree between the two anchors, whatever the pattern holds. Its
alternatives and its flags stay in the group, and the anchors are those of the text even if
the pattern turns to lines. So the rule accepts what the pattern matches in full.

Reading the whole goes through the same steps as reading the pattern, up to the closer. A
comment at the end of the pattern can take the closer. Then the group is never closed, and
the whole is no pattern.

- `Reader.run_continued`: reading the pattern with the closer behind it.
- `node_of_tree?_anchored`: the tree of the whole.
- `DeclaredComplex.acceptsSub_iff_matches`: the result for declared rules.
-/

namespace EntityProps

namespace Pattern

namespace Reader

variable {r r' : Reader} {text text' : List Char}

/-- Let a pattern be read to its end. With the closer behind it and further groups around,
the same state is reached. The closer is read then, unless a comment took it. -/
theorem run_continued (outer : List Outer) (h : Continued text text')
    (hrun : r.run text = some r') :
    (r.within outer).run text' = (r'.within outer).run closer ∨
      (r.within outer).run text' = some (r'.within outer) := by
  fun_induction run r text generalizing text' with
  | case1 r text hend =>
    obtain rfl : r = r' := Option.some.inj hrun
    have hskip := h.skipSpace r.flags.spaced
    rw [hend] at hskip
    rcases hskip.of_nil with hend' | hend'
    · have hcloser := Continued.skipSpace_closer r.flags.spaced
      refine Or.inl ?_
      rw [run_of_cons (r := r.within outer) hend', run_of_cons (r := r.within outer) hcloser]
    · exact Or.inr (run_of_skipSpace hend')
  | case2 => cases hrun
  | case3 r text c cs hs next rest hstep ih =>
    obtain ⟨cs', hs', hcs⟩ := h.skipSpace_cons hs
    obtain ⟨rest', hstep', hrest⟩ := step_continued hcs hstep
    rw [run_of_step (r := r.within outer) hs' (within_step hstep')]
    exact ih hrest hrun

/-- The closer ends the group between the anchors, and the last anchor is read. -/
theorem run_closer (hgroups : r.groups = []) (hbracket : r.bracket = none) :
    ∃ level, (r.within [anchors]).run closer = some ⟨{}, r.names, level, [], none⟩ ∧
      level.close.1 = .seq [.look .textStart, r.level.close.1, .look .textEnd] := by
  have hcloser := Continued.skipSpace_closer r.flags.spaced
  let level := anchors.level.add r.level.close.1 (r.level.close.2 + 1)
  have hclose : (r.within [anchors]).closeGroup = some ⟨{}, r.names, level, [], none⟩ := by
    rw [closeGroup, within, hgroups, hbracket]
    rfl
  have hstep : (r.within [anchors]).step ')' ['$'] =
      some (⟨{}, r.names, level, [], none⟩, ['$']) := by
    rw [step, within_bracket, hbracket]
    simp only [stepOutside, hclose]
    rfl
  rw [run_of_step (r := r.within [anchors]) hcloser hstep, run_dollar rfl rfl]
  exact ⟨_, rfl, rfl⟩

end Reader

/-- **A pattern stays between its anchors.** If a text is a pattern by itself, and it is one
between the anchors, then it stands there as the same pattern, between the start and the end
of the text. -/
theorem node_of_tree?_anchored {text : String} {bare node : Node}
    (hbare : tree? text.toList = some bare) (h : tree? (anchored text).toList = some node) :
    node = .seq [.look .textStart, bare, .look .textEnd] := by
  obtain ⟨r, hrun, hgroups, hbracket, hnode⟩ := eq_some_of_tree? hbare
  obtain ⟨r', hrun', hgroups', -, hnode'⟩ := eq_some_of_tree? h
  rw [Reader.run_anchored] at hrun'
  have hcont : Continued text.toList (text.toList ++ [')', '$']) := .behind text.toList
  have hbetween : Reader.betweenAnchors = Reader.initial.within [Reader.anchors] := rfl
  rcases Reader.run_continued [Reader.anchors] hcont hrun with hread | hread
  · obtain ⟨level, hclosed, hlevel⟩ := Reader.run_closer hgroups hbracket
    rw [hbetween, hread, hclosed] at hrun'
    cases hrun'
    rw [← hnode', hlevel, hnode]
  · -- The closer was taken by a comment, so the group is open at the end.
    rw [hbetween, hread] at hrun'
    cases hrun'
    rw [Reader.within, hgroups] at hgroups'
    cases hgroups'

end Pattern

/-! ## Declared rules -/

namespace DeclaredComplex

open Pattern

/-- **Full matching.** Let the pattern of a declaration be a pattern by itself, and let there
be a rule for the declaration. The pattern of the rule is the one of the declaration between
the start and the end of the text. The rule accepts a text at a place if there is room for a
sub-property there and a match of the pattern spans the whole text. -/
theorem acceptsSub_iff_matches {d : ComplexDecl} {r : DeclaredComplex} (hr : ofDecl d = .ok r)
    {text : String} (htext : d.subPattern = some text) {bare : Pattern}
    (hbare : compile text = .ok bare) :
    (∃ pattern, r.pattern = some pattern ∧
      pattern.node = .seq [.look .textStart, bare.node, .look .textEnd]) ∧
    ∀ sub index, r.acceptsSub sub index = true ↔
      (∀ most, d.maxSubs = some most → index < most) ∧
        Matches sub.toList.toArray bare.node 0 sub.length := by
  obtain rfl := ofDecl_eq_ok_iff.mp hr
  have hcompiled := r.compiled
  rw [htext, Option.map_some] at hcompiled
  obtain ⟨pattern, hpattern, -⟩ := Option.map_eq_some_iff.mp hcompiled.symm
  have hnode : pattern.node = .seq [.look .textStart, bare.node, .look .textEnd] :=
    node_of_tree?_anchored (tree?_of_compile hbare) (tree?_of_pattern hpattern htext)
  refine ⟨⟨pattern, hpattern, hnode⟩, ?_⟩
  intro sub index
  rw [acceptsSub_iff_exists_matches hpattern, hnode, ← size_toArray_toList,
    exists_matches_between_iff]

namespace Sample

/-- A rule whose pattern turns to lines and has two alternatives, with an anchor in one. -/
def lines : DeclaredComplex where
  decl := { name := "Lines", maxSubs := some 2, subPattern := some "(?m)^a$|b+?" }
  pattern := (compile (anchored "(?m)^a$|b+?")).toOption
  named := by decide
  bounded := by simp
  compiled := compiled_of_isOk (by decide +kernel)

end Sample

/-- The rule `Lines` accepts `bb`, although its pattern is content with one `b`. It refuses
two lines, although one of them is an `a`. -/
theorem lines_matches : ∃ bare, compile "(?m)^a$|b+?" = .ok bare ∧
    Sample.lines.acceptsSub "bb" 1 = true ∧ Matches "bb".toList.toArray bare.node 0 2 ∧
    Sample.lines.acceptsSub "x\na" 0 = false ∧
      ¬ Matches "x\na".toList.toArray bare.node 0 3 := by
  have hok : (compile "(?m)^a$|b+?").isOk = true := by decide +kernel
  have hrule : ofDecl Sample.lines.decl = .ok Sample.lines := ofDecl_eq_ok_iff.mpr rfl
  have htwo : Sample.lines.acceptsSub "bb" 1 = true := by decide +kernel
  have hlines : Sample.lines.acceptsSub "x\na" 0 = false := by decide +kernel
  cases hbare : compile "(?m)^a$|b+?" with
  | error fault =>
    rw [hbare] at hok
    cases hok
  | ok bare =>
    obtain ⟨-, haccepts⟩ := acceptsSub_iff_matches hrule rfl hbare
    refine ⟨bare, rfl, htwo, ((haccepts "bb" 1).mp htwo).2, hlines, ?_⟩
    intro hmatch
    have hroom : ∀ most, Sample.lines.decl.maxSubs = some most → 0 < most := by
      simp [Sample.lines]
    have haccepted := (haccepts "x\na" 0).mpr ⟨hroom, hmatch⟩
    rw [hlines] at haccepted
    cases haccepted

end DeclaredComplex

end EntityProps
