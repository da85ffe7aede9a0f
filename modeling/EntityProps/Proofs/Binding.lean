import EntityProps.Parser
import EntityProps.Proofs.Results

/-!
# Bound groups

What binding and validation do, said without the order in which they work.

- `Registry.Binds`: the properties of a group are the token groups of their
  sort, one by one, each with the rule that is found for its name. `Registry.Fails`:
  a token group has an error of its own. `bind_eq_ok_iff` and `bind_eq_error_iff`
  tie both to binding: it fails exactly where some token group does, with the
  error of the first one.
- `PropertyGroup.Allowed` and `PropertyGroup.Refused`: every rule allows its
  property, or a rule is the first that does not (`validated_eq_ok_iff`,
  `validated_eq_error_iff`).
-/

namespace EntityProps

/-! ## Token groups -/

namespace Registry

variable {r : Registry} {kind : Kind}

/-- A simple property is bound to the rule that takes the token group. -/
structure BindsSimple (r : Registry) (kind : Kind) (t : TokenGroup)
    (p : SimpleProperty SimpleRule) : Prop where
  name_eq : p.name = t.main
  found : r.simpleRule? t.main kind = some p.rule

/-- A complex property is bound to the rule that takes the token group. It keeps
the sub-tokens, all of which the rule accepts. A sole empty sub-token that the
rule refuses stands for none. -/
structure BindsComplex (r : Registry) (kind : Kind) (t : TokenGroup)
    (p : ComplexProperty ComplexRule) : Prop where
  name_eq : p.name = t.main
  found : r.complexRule? t.main kind = some p.rule
  subs_eq : p.subs = if t.subs = [""] ∧ p.rule.acceptsSub "" 0 = false then [] else t.subs
  accepted : AllAt p.rule.acceptsSub p.subs

/-- The properties of a group are the token groups of their sort, in their order. -/
structure Binds (r : Registry) (kind : Kind) (ts : List TokenGroup) (g : BoundGroup) :
    Prop where
  simple : List.Forall₂ (r.BindsSimple kind) (ts.filter (·.isSimple)) g.simple
  complex : List.Forall₂ (r.BindsComplex kind) (ts.filter (!·.isSimple)) g.complex

/-- No rule for simple properties takes the name, whatever its tier. -/
def NoSimple (r : Registry) (name : String) (kind : Kind) : Prop :=
  ∀ rule ∈ r.nativeSimple ++ r.userSimple, rule.accepts name kind = false

/-- No rule for complex properties takes the name, whatever its tier. -/
def NoComplex (r : Registry) (name : String) (kind : Kind) : Prop :=
  ∀ rule ∈ r.nativeComplex ++ r.userComplex, rule.accepts name kind = false

theorem simpleRule?_eq_none_iff {name : String} :
    r.simpleRule? name kind = none ↔ r.NoSimple name kind := by
  simp [simpleRule?, simpleByPrecedence, NoSimple, or_imp, forall_and]

theorem complexRule?_eq_none_iff {name : String} :
    r.complexRule? name kind = none ↔ r.NoComplex name kind := by
  simp [complexRule?, complexByPrecedence, NoComplex, or_imp, forall_and]

/-- The error that a token group has on its own: no rule takes it, or the rule
that does refuses a sub-token, of which the first counts. -/
inductive Fails (r : Registry) (kind : Kind) (t : TokenGroup) : ParseError → Prop
  | simple (hsimple : t.isSimple = true) (hnone : r.NoSimple t.main kind) :
      Fails r kind t (.invalidSimple t.main)
  | complex (hcomplex : t.isSimple = false) (hnone : r.NoComplex t.main kind) :
      Fails r kind t (.invalidComplex t.main)
  | sub {rule : ComplexRule} {sub : String} {index : Nat} (hcomplex : t.isSimple = false)
      (hfound : r.complexRule? t.main kind = some rule)
      (hfirst : FirstFailsAt rule.acceptsSub t.subs sub index) (hne : t.subs ≠ [""]) :
      Fails r kind t (.invalidSub t.main index sub)

theorem fails_iff_of_simple {t : TokenGroup} {e : ParseError} (hsimple : t.isSimple = true) :
    r.Fails kind t e ↔ r.simpleRule? t.main kind = none ∧ e = .invalidSimple t.main := by
  rw [simpleRule?_eq_none_iff]
  constructor
  · intro h
    cases h with
    | simple _ hnone => exact ⟨hnone, rfl⟩
    | complex hcomplex => rw [hsimple] at hcomplex; cases hcomplex
    | sub hcomplex => rw [hsimple] at hcomplex; cases hcomplex
  · rintro ⟨hnone, rfl⟩
    exact .simple hsimple hnone

theorem fails_iff_of_complex {t : TokenGroup} {e : ParseError} (hcomplex : t.isSimple = false) :
    r.Fails kind t e ↔
      r.complexRule? t.main kind = none ∧ e = .invalidComplex t.main ∨
        ∃ rule, r.complexRule? t.main kind = some rule ∧ t.subs ≠ [""] ∧
          ∃ sub index, FirstFailsAt rule.acceptsSub t.subs sub index ∧
            e = .invalidSub t.main index sub := by
  rw [complexRule?_eq_none_iff]
  constructor
  · intro h
    cases h with
    | simple hsimple => rw [hcomplex] at hsimple; cases hsimple
    | complex _ hnone => exact Or.inl ⟨hnone, rfl⟩
    | sub _ hfound hfirst hne => exact Or.inr ⟨_, hfound, hne, _, _, hfirst, rfl⟩
  · rintro (⟨hnone, rfl⟩ | ⟨rule, hfound, hne, sub, index, hfirst, rfl⟩)
    · exact .complex hcomplex hnone
    · exact .sub hcomplex hfound hfirst hne

/-- The error is that of the first token group that has one. -/
def FirstFails (r : Registry) (kind : Kind) (ts : List TokenGroup) (e : ParseError) : Prop :=
  ∃ before t after, ts = before ++ t :: after ∧ (∀ u ∈ before, ∀ e', ¬ r.Fails kind u e') ∧
    r.Fails kind t e

theorem not_firstFails_nil {e : ParseError} : ¬ r.FirstFails kind [] e := by
  rintro ⟨before, t, after, h, -⟩
  simp at h

theorem firstFails_cons {t : TokenGroup} {ts : List TokenGroup} {e : ParseError} :
    r.FirstFails kind (t :: ts) e ↔
      r.Fails kind t e ∨ (∀ e', ¬ r.Fails kind t e') ∧ r.FirstFails kind ts e := by
  constructor
  · rintro ⟨before, u, after, h, hbefore, hu⟩
    cases before with
    | nil =>
      obtain ⟨rfl, rfl⟩ := List.cons.inj h
      exact Or.inl hu
    | cons v before =>
      obtain ⟨rfl, rfl⟩ := List.cons.inj h
      exact Or.inr ⟨hbefore t List.mem_cons_self, before, u, after, rfl,
        fun w hw => hbefore w (List.mem_cons_of_mem _ hw), hu⟩
  · rintro (ht | ⟨ht, before, u, after, rfl, hbefore, hu⟩)
    · exact ⟨[], t, ts, rfl, fun _ hw => absurd hw List.not_mem_nil, ht⟩
    · refine ⟨t :: before, u, after, rfl, ?_, hu⟩
      rintro w (_ | ⟨_, hw⟩)
      · exact ht
      · exact hbefore w hw

/-! ## Binding one token group -/

theorem bindSimple_eq_ok_iff {t : TokenGroup} {p : SimpleProperty SimpleRule} :
    r.bindSimple kind t.main = .ok p ↔ r.BindsSimple kind t p := by
  obtain ⟨name, rule⟩ := p
  rw [bindSimple]
  cases hrule : r.simpleRule? t.main kind with
  | none =>
    simp only [reduceCtorEq, false_iff]
    rintro ⟨-, hfound⟩
    rw [hrule] at hfound
    cases hfound
  | some rule' =>
    simp only [Except.ok.injEq, SimpleProperty.mk.injEq]
    constructor
    · rintro ⟨rfl, rfl⟩
      exact ⟨rfl, hrule⟩
    · rintro ⟨hname, hfound⟩
      exact ⟨hname.symm, Option.some.inj (hrule.symm.trans hfound)⟩

theorem bindSimple_eq_error_iff {t : TokenGroup} {e : ParseError}
    (hsimple : t.isSimple = true) :
    r.bindSimple kind t.main = .error e ↔ r.Fails kind t e := by
  rw [fails_iff_of_simple hsimple, bindSimple]
  cases hrule : r.simpleRule? t.main kind with
  | none => simp [eq_comm]
  | some rule => simp

theorem keptSubs_of_allAt {rule : ComplexRule} {subs : List String} (name : String)
    (h : AllAt rule.acceptsSub subs) : keptSubs rule name subs = .ok subs := by
  rw [keptSubs, find?_not_eq_none_iff.mpr h]

theorem keptSubs_of_firstFailsAt {rule : ComplexRule} {subs : List String} {sub : String}
    {index : Nat} (name : String) (h : FirstFailsAt rule.acceptsSub subs sub index) :
    keptSubs rule name subs =
      if subs = [""] then .ok [] else .error (.invalidSub name index sub) := by
  rw [keptSubs, find?_not_eq_some_iff.mpr h]

/-- The sub-tokens are kept, if the rule accepts them. -/
theorem keptSubs_eq_ok_iff {rule : ComplexRule} {name : String} {subs kept : List String} :
    keptSubs rule name subs = .ok kept ↔
      kept = (if subs = [""] ∧ rule.acceptsSub "" 0 = false then [] else subs) ∧
        AllAt rule.acceptsSub kept := by
  rcases allAt_or_firstFailsAt rule.acceptsSub subs with hall | ⟨sub, index, hfirst⟩
  · have hno : ¬ (subs = [""] ∧ rule.acceptsSub "" 0 = false) := by
      rintro ⟨rfl, hrefused⟩
      rw [allAt_singleton.mp hall] at hrefused
      cases hrefused
    rw [keptSubs_of_allAt name hall, if_neg hno]
    constructor
    · rintro ⟨⟩
      exact ⟨rfl, hall⟩
    · rintro ⟨rfl, -⟩
      rfl
  · rw [keptSubs_of_firstFailsAt name hfirst]
    by_cases hsole : subs = [""]
    · -- The sole sub-token is empty and refused, so no sub-property is kept.
      subst hsole
      have hrefused : rule.acceptsSub "" 0 = false := by
        cases hacc : rule.acceptsSub "" 0 with
        | false => rfl
        | true => exact absurd (allAt_singleton.mpr hacc) hfirst.not_allAt
      rw [if_pos rfl, if_pos ⟨rfl, hrefused⟩]
      constructor
      · rintro ⟨⟩
        exact ⟨rfl, fun i a ha => by simp at ha⟩
      · rintro ⟨rfl, -⟩
        rfl
    · rw [if_neg hsole, if_neg fun h => hsole h.1]
      simp only [reduceCtorEq, false_iff]
      rintro ⟨rfl, hall⟩
      exact hfirst.not_allAt hall

/-- The first sub-token that the rule refuses is the error, unless it is the sole
one and empty. -/
theorem keptSubs_eq_error_iff {rule : ComplexRule} {name : String} {subs : List String}
    {e : ParseError} :
    keptSubs rule name subs = .error e ↔
      subs ≠ [""] ∧ ∃ sub index, FirstFailsAt rule.acceptsSub subs sub index ∧
        e = .invalidSub name index sub := by
  constructor
  · intro h
    rcases allAt_or_firstFailsAt rule.acceptsSub subs with hall | ⟨sub, index, hfirst⟩
    · rw [keptSubs_of_allAt name hall] at h
      cases h
    · rw [keptSubs_of_firstFailsAt name hfirst] at h
      by_cases hsole : subs = [""]
      · rw [if_pos hsole] at h
        cases h
      · rw [if_neg hsole] at h
        cases h
        exact ⟨hsole, sub, index, hfirst, rfl⟩
  · rintro ⟨hne, sub, index, hfirst, rfl⟩
    rw [keptSubs_of_firstFailsAt name hfirst, if_neg hne]

theorem bindComplex_eq_ok_iff {t : TokenGroup} {p : ComplexProperty ComplexRule} :
    r.bindComplex kind t.main t.subs = .ok p ↔ r.BindsComplex kind t p := by
  obtain ⟨name, subs, rule⟩ := p
  rw [bindComplex]
  cases hrule : r.complexRule? t.main kind with
  | none =>
    simp only [reduceCtorEq, false_iff]
    rintro ⟨-, hfound, -, -⟩
    rw [hrule] at hfound
    cases hfound
  | some rule' =>
    simp only [map_eq_ok_iff_exists, keptSubs_eq_ok_iff, ComplexProperty.mk.injEq]
    constructor
    · rintro ⟨kept, ⟨hsubs, hall⟩, rfl, rfl, rfl⟩
      exact ⟨rfl, hrule, hsubs, hall⟩
    · rintro ⟨hname, hfound, hsubs, hall⟩
      obtain rfl : rule' = rule := Option.some.inj (hrule.symm.trans hfound)
      exact ⟨subs, ⟨hsubs, hall⟩, hname.symm, rfl, rfl⟩

theorem bindComplex_eq_error_iff {t : TokenGroup} {e : ParseError}
    (hcomplex : t.isSimple = false) :
    r.bindComplex kind t.main t.subs = .error e ↔ r.Fails kind t e := by
  rw [fails_iff_of_complex hcomplex, bindComplex]
  cases hrule : r.complexRule? t.main kind with
  | none => simp [eq_comm]
  | some rule => simp [map_eq_error_iff, keptSubs_eq_error_iff]

/-! ## Binding all token groups -/

theorem bind_nil : r.bind kind [] = .ok .empty := rfl

theorem bind_cons_of_simple {t : TokenGroup} (ts : List TokenGroup)
    (h : t.isSimple = true) :
    r.bind kind (t :: ts) = (do
      let p ← r.bindSimple kind t.main
      let g ← r.bind kind ts
      return g.consSimple p) := by
  rw [bind, if_pos h]

theorem bind_cons_of_complex {t : TokenGroup} (ts : List TokenGroup)
    (h : t.isSimple = false) :
    r.bind kind (t :: ts) = (do
      let p ← r.bindComplex kind t.main t.subs
      let g ← r.bind kind ts
      return g.consComplex p) := by
  rw [bind, if_neg (by simp [h])]

theorem binds_nil {g : BoundGroup} : r.Binds kind [] g ↔ g = .empty := by
  obtain ⟨simple, complex⟩ := g
  constructor
  · rintro ⟨hs, hc⟩
    cases hs
    cases hc
    rfl
  · rintro ⟨⟩
    exact ⟨.nil, .nil⟩

theorem binds_cons_of_simple {t : TokenGroup} {ts : List TokenGroup} {g : BoundGroup}
    (h : t.isSimple = true) :
    r.Binds kind (t :: ts) g ↔
      ∃ p g', r.BindsSimple kind t p ∧ r.Binds kind ts g' ∧ g'.consSimple p = g := by
  constructor
  · rintro ⟨hs, hc⟩
    rw [List.filter_cons_of_pos h] at hs
    rw [List.filter_cons_of_neg (by simp [h])] at hc
    obtain ⟨simple, complex⟩ := g
    cases hs with
    | @cons _ p _ simple hp hs => exact ⟨p, ⟨simple, complex⟩, hp, ⟨hs, hc⟩, rfl⟩
  · rintro ⟨p, g', hp, ⟨hs, hc⟩, rfl⟩
    constructor
    · rw [List.filter_cons_of_pos h]
      exact .cons hp hs
    · rw [List.filter_cons_of_neg (by simp [h])]
      exact hc

theorem binds_cons_of_complex {t : TokenGroup} {ts : List TokenGroup} {g : BoundGroup}
    (h : t.isSimple = false) :
    r.Binds kind (t :: ts) g ↔
      ∃ p g', r.BindsComplex kind t p ∧ r.Binds kind ts g' ∧ g'.consComplex p = g := by
  constructor
  · rintro ⟨hs, hc⟩
    rw [List.filter_cons_of_neg (by simp [h])] at hs
    rw [List.filter_cons_of_pos (by simp [h])] at hc
    obtain ⟨simple, complex⟩ := g
    cases hc with
    | @cons _ p _ complex hp hc => exact ⟨p, ⟨simple, complex⟩, hp, ⟨hs, hc⟩, rfl⟩
  · rintro ⟨p, g', hp, ⟨hs, hc⟩, rfl⟩
    constructor
    · rw [List.filter_cons_of_neg (by simp [h])]
      exact hs
    · rw [List.filter_cons_of_pos (by simp [h])]
      exact .cons hp hc

/-- Binding succeeds with exactly the group whose properties are the token
groups. -/
theorem bind_eq_ok_iff {ts : List TokenGroup} {g : BoundGroup} :
    r.bind kind ts = .ok g ↔ r.Binds kind ts g := by
  induction ts generalizing g with
  | nil => rw [bind_nil, binds_nil, Except.ok.injEq, eq_comm]
  | cons t ts ih =>
    cases h : t.isSimple with
    | true =>
      rw [bind_cons_of_simple ts h, binds_cons_of_simple h]
      simp only [bind_eq_ok_iff_exists, bindSimple_eq_ok_iff, ih, pure, Except.pure,
        Except.ok.injEq, exists_and_left]
    | false =>
      rw [bind_cons_of_complex ts h, binds_cons_of_complex h]
      simp only [bind_eq_ok_iff_exists, bindComplex_eq_ok_iff, ih, pure, Except.pure,
        Except.ok.injEq, exists_and_left]

theorem Binds.exists_simple {ts : List TokenGroup} {g : BoundGroup} (h : r.Binds kind ts g)
    {p : SimpleProperty SimpleRule} (hp : p ∈ g.simple) :
    ∃ t ∈ ts, t.isSimple = true ∧ r.BindsSimple kind t p := by
  obtain ⟨t, ht, hbinds⟩ := exists_of_mem_forall₂ h.simple hp
  obtain ⟨hmem, hsimple⟩ := List.mem_filter.mp ht
  exact ⟨t, hmem, hsimple, hbinds⟩

theorem Binds.exists_complex {ts : List TokenGroup} {g : BoundGroup} (h : r.Binds kind ts g)
    {p : ComplexProperty ComplexRule} (hp : p ∈ g.complex) :
    ∃ t ∈ ts, t.isSimple = false ∧ r.BindsComplex kind t p := by
  obtain ⟨t, ht, hbinds⟩ := exists_of_mem_forall₂ h.complex hp
  obtain ⟨hmem, hcomplex⟩ := List.mem_filter.mp ht
  exact ⟨t, hmem, by simpa using hcomplex, hbinds⟩

/-- Simple properties with equal names are bound to the same rule: the one that
is found for the name. -/
theorem Binds.simpleRule?_eq {ts : List TokenGroup} {g : BoundGroup} (h : r.Binds kind ts g)
    {p : SimpleProperty SimpleRule} (hp : p ∈ g.simple) :
    r.simpleRule? p.name kind = some p.rule := by
  obtain ⟨t, -, -, hbinds⟩ := h.exists_simple hp
  rw [hbinds.name_eq, hbinds.found]

theorem Binds.complexRule?_eq {ts : List TokenGroup} {g : BoundGroup} (h : r.Binds kind ts g)
    {p : ComplexProperty ComplexRule} (hp : p ∈ g.complex) :
    r.complexRule? p.name kind = some p.rule := by
  obtain ⟨t, -, -, hbinds⟩ := h.exists_complex hp
  rw [hbinds.name_eq, hbinds.found]

/-- Binding fails with exactly the error of the first token group that has one. -/
theorem bind_eq_error_iff {ts : List TokenGroup} {e : ParseError} :
    r.bind kind ts = .error e ↔ r.FirstFails kind ts e := by
  induction ts generalizing e with
  | nil =>
    rw [bind_nil]
    simpa using not_firstFails_nil
  | cons t ts ih =>
    rw [firstFails_cons]
    cases h : t.isSimple with
    | true =>
      rw [bind_cons_of_simple ts h]
      simp only [bind_eq_error_iff_or, pure, Except.pure, reduceCtorEq, and_false,
        exists_false, or_false, exists_and_right, exists_ok_iff_forall_ne_error, ne_eq,
        bindSimple_eq_error_iff h, ih]
    | false =>
      rw [bind_cons_of_complex ts h]
      simp only [bind_eq_error_iff_or, pure, Except.pure, reduceCtorEq, and_false,
        exists_false, or_false, exists_and_right, exists_ok_iff_forall_ne_error, ne_eq,
        bindComplex_eq_error_iff h, ih]

end Registry

/-! ## Validity of a group -/

namespace PropertyGroup

variable {g : BoundGroup}

/-- Every rule allows its property. -/
structure Allowed (g : BoundGroup) : Prop where
  simple : AllAt (fun p i => p.rule.allows g.outline i) g.simple
  complex : AllAt (fun p i => p.rule.allows g.outline i) g.complex

/-- The error of the first property that its rule does not allow. Simple
properties come first. -/
inductive Refused (g : BoundGroup) : ParseError → Prop
  | simple {p : SimpleProperty SimpleRule} {i : Nat}
      (hfirst : FirstFailsAt (fun p i => p.rule.allows g.outline i) g.simple p i) :
      Refused g (.invalidSimple p.name)
  | complex {p : ComplexProperty ComplexRule} {i : Nat}
      (hsimple : AllAt (fun p i => p.rule.allows g.outline i) g.simple)
      (hfirst : FirstFailsAt (fun p i => p.rule.allows g.outline i) g.complex p i) :
      Refused g (.invalidComplex p.name)

theorem Allowed.not_refused (h : g.Allowed) (e : ParseError) : ¬ g.Refused e := by
  intro href
  cases href with
  | simple hfirst => exact hfirst.not_allAt h.simple
  | complex _ hfirst => exact hfirst.not_allAt h.complex

theorem fault?_of_allowed (h : g.Allowed) : g.fault? = none := by
  rw [fault?, find?_not_eq_none_iff.mpr h.simple, find?_not_eq_none_iff.mpr h.complex]
  rfl

theorem fault?_of_refused {e : ParseError} (h : g.Refused e) : g.fault? = some e := by
  cases h with
  | simple hfirst =>
    rw [fault?, find?_not_eq_some_iff.mpr hfirst]
    rfl
  | complex hsimple hfirst =>
    rw [fault?, find?_not_eq_none_iff.mpr hsimple, find?_not_eq_some_iff.mpr hfirst]
    rfl

theorem allowed_or_refused (g : BoundGroup) : g.Allowed ∨ ∃ e, g.Refused e := by
  rcases allAt_or_firstFailsAt (fun p i => p.rule.allows g.outline i) g.simple with
    hsimple | ⟨p, i, hfirst⟩
  · rcases allAt_or_firstFailsAt (fun p i => p.rule.allows g.outline i) g.complex with
      hcomplex | ⟨p, i, hfirst⟩
    · exact Or.inl ⟨hsimple, hcomplex⟩
    · exact Or.inr ⟨_, .complex hsimple hfirst⟩
  · exact Or.inr ⟨_, .simple hfirst⟩

theorem validated_eq_ok_iff {g' : BoundGroup} : g.validated = .ok g' ↔ g = g' ∧ g.Allowed := by
  rcases allowed_or_refused g with h | ⟨e, h⟩
  · simp [validated, fault?_of_allowed h, h]
  · have hno : ¬ g.Allowed := fun hall => hall.not_refused e h
    simp [validated, fault?_of_refused h, hno]

theorem validated_eq_error_iff {e : ParseError} : g.validated = .error e ↔ g.Refused e := by
  rcases allowed_or_refused g with h | ⟨e', h⟩
  · simp [validated, fault?_of_allowed h, h.not_refused]
  · have hfault := fault?_of_refused h
    rw [validated, hfault, Except.error.injEq]
    constructor
    · rintro rfl
      exact h
    · intro he
      exact Option.some.inj (hfault.symm.trans (fault?_of_refused he))

end PropertyGroup

end EntityProps
