import EntityProps.Command.Run
import EntityProps.Proofs.Display
import EntityProps.Proofs.Loading
import EntityProps.Proofs.Manifests
import EntityProps.Proofs.Marker
import EntityProps.Proofs.Outcome

/-!
# Exit codes

Every command but the one that writes a configuration works in a session, and it
ends in one of three ways. It is refused with exit code 2 if it has nothing to
work on: no configuration, no registry, no kind or no manifest, in this order
(`Invocation.Refused`). Otherwise it is rejected with exit code 1 if the
annotation is rejected, or that of some entity (`Invocation.Rejected`), and
accepted with exit code 0 if not (`Invocation.Accepted`).

Standard output is empty for a refused command and for a rejected annotation that
is parsed by itself. Otherwise it displays the group of the annotation, the outcomes
of all entities or the registered rules, in the format that is asked for, with
colours or without.

- `Invocation.exists_ends`: a command takes one of the ways, and its exit code
  says which.
- `code_eq_of_marker`: an annotation that shows its kind comes to the same exit
  code by itself and alone in a manifest.
- `exit_codes`: both together.
-/

namespace EntityProps.Command

open Output (DisplaysGroup DisplaysManifest DisplaysRules)

/-! ## Sessions -/

section Sessions

variable {files : Files} {config : Option String}

/-- A command works in this session: with the grammar and the registry of its configuration. -/
inductive Opens (files : Files) (config : Option String) : Session → Prop
  | intro {c : Config} {r : Registry} (hc : Config.Chosen files config c)
      (hr : c.registry = .ok r) : Opens files config { grammar := c.grammar, registry := r }

/-- Why there is no session to work in. -/
inductive OpenFails (files : Files) (config : Option String) : Refusal → Prop
  | config {fault : LoadFault} (h : Config.ChoiceFails files config fault) :
      OpenFails files config (.file fault)
  | registry {c : Config} {fault : RuleFault} (hc : Config.Chosen files config c)
      (hr : c.registry = .error fault) : OpenFails files config (.rule fault)

theorem openSession_eq_ok_iff {s : Session} :
    openSession files config = .ok s ↔ Opens files config s := by
  simp only [openSession, bind_eq_ok_iff_exists, mapError_eq_ok_iff, Config.loadChosen_eq_ok_iff,
    pure, Except.pure, Except.ok.injEq]
  constructor
  · rintro ⟨c, hc, r, hr, rfl⟩
    exact .intro hc hr
  · rintro ⟨hc, hr⟩
    exact ⟨_, hc, _, hr, rfl⟩

theorem openSession_eq_error_iff {refusal : Refusal} :
    openSession files config = .error refusal ↔ OpenFails files config refusal := by
  simp only [openSession, bind_eq_error_iff_or, mapError_eq_ok_iff, mapError_eq_error_iff,
    Config.loadChosen_eq_ok_iff, Config.loadChosen_eq_error_iff, pure, Except.pure, reduceCtorEq,
    and_false, exists_false, or_false]
  constructor
  · rintro (⟨fault, h, rfl⟩ | ⟨c, hc, fault, hr, rfl⟩)
    · exact .config h
    · exact .registry hc hr
  · intro h
    cases h with
    | config h => exact Or.inl ⟨_, h, rfl⟩
    | registry hc hr => exact Or.inr ⟨_, hc, _, hr, rfl⟩

end Sessions

/-! ## Kinds -/

/-- The kind for which an annotation is parsed: the one that is named, or else the one that the
marker shows. -/
inductive KindOf (text : String) : Option String → Kind → Prop
  | named {name : String} {kind : Kind} (h : Kind.ofText? name = some kind) :
      KindOf text (some name) kind
  | shown {kind : Kind} (h : Kind.ofMarker? text = some kind) : KindOf text none kind

/-- Why an annotation is not parsed for any kind. -/
inductive NoKind (text : String) : Option String → Refusal → Prop
  | unknown {name : String} (h : Kind.ofText? name = none) :
      NoKind text (some name) (.unknownKind name)
  | noMarker (h : Kind.ofMarker? text = none) : NoKind text none (.noMarker text)

theorem chooseKind_of_kindOf {text : String} {name? : Option String} {kind : Kind}
    (h : KindOf text name? kind) : chooseKind text name? = .ok kind := by
  cases h with
  | named h => rw [chooseKind, h]
  | shown h => rw [chooseKind, h]

theorem chooseKind_of_noKind {text : String} {name? : Option String} {refusal : Refusal}
    (h : NoKind text name? refusal) : chooseKind text name? = .error refusal := by
  cases h with
  | unknown h => rw [chooseKind, h]
  | noMarker h => rw [chooseKind, h]

theorem kindOf_or_noKind (text : String) (name? : Option String) :
    (∃ kind, KindOf text name? kind) ∨ ∃ refusal, NoKind text name? refusal := by
  cases name? with
  | some name =>
    cases h : Kind.ofText? name with
    | some kind => exact Or.inl ⟨kind, .named h⟩
    | none => exact Or.inr ⟨_, .unknown h⟩
  | none =>
    cases h : Kind.ofMarker? text with
    | some kind => exact Or.inl ⟨kind, .shown h⟩
    | none => exact Or.inr ⟨_, .noMarker h⟩

/-! ## What comes of an action in a session -/

/-- Why an action has nothing to work on. -/
inductive Refuses (files : Files) : Action → Refusal → Prop
  | parse {text : String} {name? : Option String} {format : Output.Format} {refusal : Refusal}
      (h : NoKind text name? refusal) : Refuses files (.parse text name? format) refusal
  | check {path : String} {format : Output.Format} {fault : LoadFault}
      (h : FileFails Manifest.ofToml files path fault) :
      Refuses files (.check path format) (.file fault)

/-- The annotation, or that of some entity, is rejected. A manifest is displayed completely all the
same. -/
inductive Rejects (colored : Bool) (files : Files) (s : Session) : Action → Outcome → Prop
  | parse {text : String} {name? : Option String} {format : Output.Format} {kind : Kind}
      {e : ParseError} (hkind : KindOf text name? kind)
      (hparse : EntityProps.parse s.grammar s.registry kind text = .error e) :
      Rejects colored files s (.parse text name? format)
        ⟨1, "", some ("Error: " ++ e.message ++ " (" ++ e.kind.code ++ ")")⟩
  | check {path : String} {format : Output.Format} {m : Manifest} {out : String}
      (hm : FileHolds Manifest.ofToml files path m)
      (hfails : ∃ x ∈ m.entities, ∃ e, x.outcome s.grammar s.registry = .error e)
      (hout : DisplaysManifest colored s.grammar s.registry m format out) :
      Rejects colored files s (.check path format) ⟨1, out ++ "\n", none⟩

/-- The annotation, or that of every entity, is accepted, and the result is displayed. -/
inductive Accepts (colored : Bool) (files : Files) (s : Session) : Action → Outcome → Prop
  | parse {text : String} {name? : Option String} {format : Output.Format} {kind : Kind}
      {g : BoundGroup} {out : String} (hkind : KindOf text name? kind)
      (hparse : EntityProps.parse s.grammar s.registry kind text = .ok g)
      (hout : DisplaysGroup colored g format out) :
      Accepts colored files s (.parse text name? format) ⟨0, out ++ "\n", none⟩
  | check {path : String} {format : Output.Format} {m : Manifest} {out : String}
      (hm : FileHolds Manifest.ofToml files path m)
      (hok : ∀ x ∈ m.entities, ∃ g, x.outcome s.grammar s.registry = .ok g)
      (hout : DisplaysManifest colored s.grammar s.registry m format out) :
      Accepts colored files s (.check path format) ⟨0, out ++ "\n", none⟩
  | rules {format : Output.Format} {out : String}
      (hout : DisplaysRules colored s.registry.listing format out) :
      Accepts colored files s (.rules format) ⟨0, out ++ "\n", none⟩

section Actions

variable {colored : Bool} {files : Files} {s : Session} {text path : String}
  {name? : Option String} {format : Output.Format} {a : Action} {o : Outcome}

theorem Rejects.code_eq (h : Rejects colored files s a o) : o.code = 1 := by
  cases h with
  | parse => rfl
  | check => rfl

/-- An annotation that is parsed by itself and rejected leaves nothing on standard output. -/
theorem Rejects.stdout_eq (h : Rejects colored files s (.parse text name? format) o) :
    o.stdout = "" := by
  cases h with
  | parse => rfl

theorem Accepts.code_eq (h : Accepts colored files s a o) : o.code = 0 := by
  cases h with
  | parse => rfl
  | check => rfl
  | rules => rfl

theorem parseText_of_noKind {refusal : Refusal} (h : NoKind text name? refusal) :
    parseText colored s text name? format = .error refusal := by
  rw [parseText, chooseKind_of_noKind h]
  rfl

theorem parseText_of_error {kind : Kind} {e : ParseError} (hkind : KindOf text name? kind)
    (h : EntityProps.parse s.grammar s.registry kind text = .error e) :
    ∃ o, parseText colored s text name? format = .ok o ∧
      Rejects colored files s (.parse text name? format) o := by
  refine ⟨_, ?_, .parse hkind h⟩
  rw [parseText, chooseKind_of_kindOf hkind]
  simp only [bind, Except.bind, Session.parse, h, errorKind?]
  rfl

theorem parseText_of_ok {kind : Kind} {g : BoundGroup} (hkind : KindOf text name? kind)
    (h : EntityProps.parse s.grammar s.registry kind text = .ok g) :
    ∃ o, parseText colored s text name? format = .ok o ∧
      Accepts colored files s (.parse text name? format) o := by
  refine ⟨_, ?_, .parse hkind h (Output.displaysGroup_formatGroup format colored g)⟩
  rw [parseText, chooseKind_of_kindOf hkind]
  simp only [bind, Except.bind, Session.parse, h]
  rfl

theorem checkManifest_of_fails {fault : LoadFault}
    (h : FileFails Manifest.ofToml files path fault) :
    checkManifest colored files s path format = .error (.file fault) := by
  rw [checkManifest, Manifest.load_eq_error_iff.mpr h]
  rfl

theorem checkManifest_of_holds {m : Manifest} (h : FileHolds Manifest.ofToml files path m) :
    checkManifest colored files s path format =
      .ok (.shown (if (s.checkManifest m).1.isOk then 0 else 1)
        (Output.formatReport format colored (s.checkManifest m).1)) := by
  rw [checkManifest, Manifest.load_eq_ok_iff.mpr h]
  rfl

theorem checkManifest_of_error {m : Manifest} (hm : FileHolds Manifest.ofToml files path m)
    (hfails : ∃ x ∈ m.entities, ∃ e, x.outcome s.grammar s.registry = .error e) :
    ∃ o, checkManifest colored files s path format = .ok o ∧
      Rejects colored files s (.check path format) o := by
  refine ⟨_, ?_, .check hm hfails (Output.displaysManifest_formatReport format colored s m)⟩
  rw [checkManifest_of_holds hm, if_neg ((Session.not_isOk_checkManifest_iff s m).mpr hfails)]
  rfl

theorem checkManifest_of_ok {m : Manifest} (hm : FileHolds Manifest.ofToml files path m)
    (hok : ∀ x ∈ m.entities, ∃ g, x.outcome s.grammar s.registry = .ok g) :
    ∃ o, checkManifest colored files s path format = .ok o ∧
      Accepts colored files s (.check path format) o := by
  refine ⟨_, ?_, .check hm hok (Output.displaysManifest_formatReport format colored s m)⟩
  rw [checkManifest_of_holds hm, if_pos ((Session.isOk_checkManifest_iff s m).mpr hok)]
  rfl

end Actions

/-- An action has one of the three ends in a session, unless it writes a configuration. -/
theorem refuses_or_rejects_or_accepts (colored : Bool) (files : Files) (s : Session) (a : Action)
    (hwork : ∀ path, a ≠ .init path) :
    (∃ refusal, Refuses files a refusal) ∨ (∃ o, Rejects colored files s a o) ∨
      ∃ o, Accepts colored files s a o := by
  cases a with
  | parse text name? format =>
    rcases kindOf_or_noKind text name? with ⟨kind, hkind⟩ | ⟨refusal, hno⟩
    · cases hparse : EntityProps.parse s.grammar s.registry kind text with
      | error e => exact Or.inr (Or.inl ⟨_, .parse hkind hparse⟩)
      | ok g =>
        have hout := Output.displaysGroup_formatGroup format colored g
        exact Or.inr (Or.inr ⟨_, .parse hkind hparse hout⟩)
    · exact Or.inl ⟨refusal, .parse hno⟩
  | check path format =>
    cases hload : Manifest.load files path with
    | error fault => exact Or.inl ⟨_, .check (Manifest.load_eq_error_iff.mp hload)⟩
    | ok m =>
      have hm := Manifest.load_eq_ok_iff.mp hload
      have hout := Output.displaysManifest_formatReport format colored s m
      by_cases hok : (s.checkManifest m).1.isOk = true
      · rw [Session.isOk_checkManifest_iff] at hok
        exact Or.inr (Or.inr ⟨_, .check hm hok hout⟩)
      · rw [Session.not_isOk_checkManifest_iff] at hok
        exact Or.inr (Or.inl ⟨_, .check hm hok hout⟩)
  | rules format =>
    exact Or.inr (Or.inr ⟨_, .rules (Output.displaysRules_formatRules format colored _)⟩)
  | init path => exact absurd rfl (hwork path)

/-! ## What comes of a command -/

namespace Invocation

/-- Why a command is refused. What its action lacks counts only in a session. -/
inductive Refused (files : Files) (i : Invocation) (refusal : Refusal) : Prop
  | session (h : OpenFails files i.config refusal)
  | action {s : Session} (hopen : Opens files i.config s) (h : Refuses files i.action refusal)

/-- A command is rejected in its session. -/
inductive Rejected (colored : Bool) (files : Files) (i : Invocation) (o : Outcome) : Prop
  | intro {s : Session} (hopen : Opens files i.config s) (h : Rejects colored files s i.action o)

/-- A command is accepted in its session. -/
inductive Accepted (colored : Bool) (files : Files) (i : Invocation) (o : Outcome) : Prop
  | intro {s : Session} (hopen : Opens files i.config s) (h : Accepts colored files s i.action o)

variable {colored : Bool} {files : Files} {i : Invocation} {o : Outcome}

theorem step_of_openFails (hwork : ∀ path, i.action ≠ .init path) {refusal : Refusal}
    (h : OpenFails files i.config refusal) : i.step colored files = .done (.refused refusal) := by
  have hopen := openSession_eq_error_iff.mpr h
  rw [step]
  split
  · next path ha => exact absurd ha (hwork path)
  all_goals
    rw [hopen]
    rfl

theorem step_parse {s : Session} {config : Option String} (h : Opens files config s)
    (text : String) (name? : Option String) (format : Output.Format) :
    (⟨config, .parse text name? format⟩ : Invocation).step colored files =
      step.settle (parseText colored s text name? format) := by
  rw [step, openSession_eq_ok_iff.mpr h]
  rfl

theorem step_check {s : Session} {config : Option String} (h : Opens files config s)
    (path : String) (format : Output.Format) :
    (⟨config, .check path format⟩ : Invocation).step colored files =
      step.settle (checkManifest colored files s path format) := by
  rw [step, openSession_eq_ok_iff.mpr h]
  rfl

theorem step_rules {s : Session} {config : Option String} (h : Opens files config s)
    (format : Output.Format) :
    (⟨config, .rules format⟩ : Invocation).step colored files =
      .done (listRules colored s format) := by
  rw [step, openSession_eq_ok_iff.mpr h]
  rfl

theorem step_of_refuses {s : Session} (h : Opens files i.config s) {refusal : Refusal}
    (ha : Refuses files i.action refusal) : i.step colored files = .done (.refused refusal) := by
  obtain ⟨config, action⟩ := i
  cases ha with
  | parse hno =>
    rw [step_parse h, parseText_of_noKind hno]
    rfl
  | check hfails =>
    rw [step_check h, checkManifest_of_fails hfails]
    rfl

/-- What an action is rejected with is what it leaves behind, up to the way in which the result is
laid out. -/
theorem exists_step_of_rejects {s : Session} (h : Opens files i.config s)
    (ha : Rejects colored files s i.action o) :
    ∃ o', i.step colored files = .done o' ∧ Rejects colored files s i.action o' := by
  obtain ⟨config, action⟩ := i
  cases ha with
  | parse hkind hparse =>
    obtain ⟨o', ho', hrejects⟩ := parseText_of_error hkind hparse
    exact ⟨o', by rw [step_parse h, ho']; rfl, hrejects⟩
  | check hm hfails =>
    obtain ⟨o', ho', hrejects⟩ := checkManifest_of_error hm hfails
    exact ⟨o', by rw [step_check h, ho']; rfl, hrejects⟩

theorem exists_step_of_accepts {s : Session} (h : Opens files i.config s)
    (ha : Accepts colored files s i.action o) :
    ∃ o', i.step colored files = .done o' ∧ Accepts colored files s i.action o' := by
  obtain ⟨config, action⟩ := i
  cases ha with
  | parse hkind hparse =>
    obtain ⟨o', ho', haccepts⟩ := parseText_of_ok hkind hparse
    exact ⟨o', by rw [step_parse h, ho']; rfl, haccepts⟩
  | check hm hok =>
    obtain ⟨o', ho', haccepts⟩ := checkManifest_of_ok hm hok
    exact ⟨o', by rw [step_check h, ho']; rfl, haccepts⟩
  | rules =>
    exact ⟨_, step_rules h _, .rules (Output.displaysRules_formatRules _ colored _)⟩

theorem step_of_refused (hwork : ∀ path, i.action ≠ .init path) {refusal : Refusal}
    (h : i.Refused files refusal) : i.step colored files = .done (.refused refusal) := by
  cases h with
  | session h => exact step_of_openFails hwork h
  | action hopen h => exact step_of_refuses hopen h

theorem Rejected.exists_step (h : i.Rejected colored files o) :
    ∃ o', i.step colored files = .done o' ∧ i.Rejected colored files o' := by
  obtain ⟨hopen, h⟩ := h
  obtain ⟨o', ho', h'⟩ := exists_step_of_rejects hopen h
  exact ⟨o', ho', .intro hopen h'⟩

theorem Rejected.code_eq (h : i.Rejected colored files o) : o.code = 1 := by
  obtain ⟨-, h⟩ := h
  exact h.code_eq

theorem Accepted.exists_step (h : i.Accepted colored files o) :
    ∃ o', i.step colored files = .done o' ∧ i.Accepted colored files o' := by
  obtain ⟨hopen, h⟩ := h
  obtain ⟨o', ho', h'⟩ := exists_step_of_accepts hopen h
  exact ⟨o', ho', .intro hopen h'⟩

theorem Accepted.code_eq (h : i.Accepted colored files o) : o.code = 0 := by
  obtain ⟨-, h⟩ := h
  exact h.code_eq

/-- A command has one of the three ends, unless it writes a configuration. -/
theorem refused_or_rejected_or_accepted (colored : Bool) (files : Files)
    (hwork : ∀ path, i.action ≠ .init path) :
    (∃ refusal, i.Refused files refusal) ∨ (∃ o, i.Rejected colored files o) ∨
      ∃ o, i.Accepted colored files o := by
  cases hopen : openSession files i.config with
  | error refusal => exact Or.inl ⟨refusal, .session (openSession_eq_error_iff.mp hopen)⟩
  | ok s =>
    have hs := openSession_eq_ok_iff.mp hopen
    rcases refuses_or_rejects_or_accepts colored files s i.action hwork with
      ⟨r, h⟩ | ⟨o, h⟩ | ⟨o, h⟩
    · exact Or.inl ⟨r, .action hs h⟩
    · exact Or.inr (Or.inl ⟨o, .intro hs h⟩)
    · exact Or.inr (Or.inr ⟨o, .intro hs h⟩)

/-- A command ends with this outcome: the exit code tells which of the three ends it is, and
standard output and the line of error output are what belongs to this end. -/
structure Ends (colored : Bool) (files : Files) (i : Invocation) (o : Outcome) : Prop where
  step_eq : i.step colored files = .done o
  code_le : o.code ≤ 2
  refused_iff : o.code = 2 ↔ ∃ refusal, i.Refused files refusal
  rejected_iff : o.code = 1 ↔ ∃ o', i.Rejected colored files o'
  accepted_iff : o.code = 0 ↔ ∃ o', i.Accepted colored files o'
  refused_eq : ∀ refusal, i.Refused files refusal →
    o = ⟨2, "", some ("Error: " ++ refusal.message)⟩
  rejected : o.code = 1 → i.Rejected colored files o
  rejected_silent : o.code = 1 → ∀ text name? format, i.action = .parse text name? format →
    o.stdout = ""
  accepted : o.code = 0 → i.Accepted colored files o

/-- If one of three things is the case and each has a code of its own, the code tells which. -/
theorem code_iff_of_or {code : Nat} {p q r : Prop} (hp : p → code = 2) (hq : q → code = 1)
    (hr : r → code = 0) (h : p ∨ q ∨ r) :
    code ≤ 2 ∧ (code = 2 ↔ p) ∧ (code = 1 ↔ q) ∧ (code = 0 ↔ r) := by
  rcases h with h | h | h
  · have hcode := hp h
    exact ⟨by omega, ⟨fun _ => h, hp⟩, ⟨fun _ => by omega, hq⟩, ⟨fun _ => by omega, hr⟩⟩
  · have hcode := hq h
    exact ⟨by omega, ⟨fun _ => by omega, hp⟩, ⟨fun _ => h, hq⟩, ⟨fun _ => by omega, hr⟩⟩
  · have hcode := hr h
    exact ⟨by omega, ⟨fun _ => by omega, hp⟩, ⟨fun _ => by omega, hq⟩, ⟨fun _ => h, hr⟩⟩

theorem ends_of_step (hwork : ∀ path, i.action ≠ .init path)
    (hstep : i.step colored files = .done o) : i.Ends colored files o := by
  have hrefused : ∀ refusal, i.Refused files refusal → o = .refused refusal := fun _ h =>
    Step.done.inj (hstep.symm.trans (step_of_refused hwork h))
  have hrejected : (∃ o', i.Rejected colored files o') → i.Rejected colored files o := by
    rintro ⟨o', h⟩
    obtain ⟨o'', hstep', h⟩ := h.exists_step
    rwa [Step.done.inj (hstep.symm.trans hstep')]
  have haccepted : (∃ o', i.Accepted colored files o') → i.Accepted colored files o := by
    rintro ⟨o', h⟩
    obtain ⟨o'', hstep', h⟩ := h.exists_step
    rwa [Step.done.inj (hstep.symm.trans hstep')]
  have htwo : (∃ refusal, i.Refused files refusal) → o.code = 2 := by
    rintro ⟨refusal, h⟩
    rw [hrefused refusal h]
    rfl
  have hone : (∃ o', i.Rejected colored files o') → o.code = 1 := fun h => (hrejected h).code_eq
  have hzero : (∃ o', i.Accepted colored files o') → o.code = 0 := fun h => (haccepted h).code_eq
  obtain ⟨hle, htwo, hone, hzero⟩ :=
    code_iff_of_or htwo hone hzero (refused_or_rejected_or_accepted colored files hwork)
  refine ⟨hstep, hle, htwo, hone, hzero, hrefused, fun h => hrejected (hone.mp h), ?_,
    fun h => haccepted (hzero.mp h)⟩
  intro hcode text name? format ha
  obtain ⟨-, h⟩ := hrejected (hone.mp hcode)
  rw [ha] at h
  exact h.stdout_eq

/-- A command that does not write a configuration comes to an end. -/
theorem exists_ends (colored : Bool) (files : Files) (hwork : ∀ path, i.action ≠ .init path) :
    ∃ o, i.Ends colored files o := by
  rcases refused_or_rejected_or_accepted colored files hwork with ⟨refusal, h⟩ | ⟨_, h⟩ | ⟨_, h⟩
  · exact ⟨_, ends_of_step hwork (step_of_refused hwork h)⟩
  · obtain ⟨o, hstep, -⟩ := h.exists_step
    exact ⟨o, ends_of_step hwork hstep⟩
  · obtain ⟨o, hstep, -⟩ := h.exists_step
    exact ⟨o, ends_of_step hwork hstep⟩

end Invocation

theorem run_of_step {d : Directory} {args : List String} {colored : Bool} {i : Invocation}
    {o : Outcome} (hargs : Invocation.ofArgs? args = some i)
    (hstep : i.step colored d.look = .done o) : run d args colored = (o, d) := by
  rw [run, hargs]
  simp only [hstep]

/-! ## One annotation, by itself and in a manifest -/

section Alone

variable {name text : String}

theorem outcome_of_marker (g : Grammar) (r : Registry) (name : String) {kind : Kind}
    (h : Kind.ofMarker? text = some kind) :
    ({ name, text } : Entity).outcome g r = EntityProps.parse g r kind text := by
  rw [Entity.outcome, Entity.kind?, h]
  rfl

theorem outcome_of_noMarker (g : Grammar) (r : Registry) (name : String)
    (h : Kind.ofMarker? text = none) :
    ({ name, text } : Entity).outcome g r = .error (.wrongMarker Session.anyMarker) := by
  rw [Entity.outcome, Entity.kind?, h]
  rfl

variable {colored : Bool} {files : Files} {config : Option String} {path : String}
  {format format' : Output.Format} {o o' : Outcome}

/-- If an annotation shows its kind, it comes to the same whether it is parsed by itself or as the
only one of a manifest. -/
theorem code_eq_of_marker {kind : Kind} (hmarker : Kind.ofMarker? text = some kind)
    (hm : FileHolds Manifest.ofToml files path ⟨[{ name, text }]⟩)
    (ho : Invocation.Ends colored files ⟨config, .parse text none format⟩ o)
    (ho' : Invocation.Ends colored files ⟨config, .check path format'⟩ o') : o.code = o'.code := by
  cases hopen : openSession files config with
  | error refusal =>
    have hfails := openSession_eq_error_iff.mp hopen
    rw [ho.refused_iff.mpr ⟨refusal, .session hfails⟩,
      ho'.refused_iff.mpr ⟨refusal, .session hfails⟩]
  | ok s =>
    have hs := openSession_eq_ok_iff.mp hopen
    have houtcome := outcome_of_marker s.grammar s.registry name hmarker
    have hout := Output.displaysManifest_formatReport format' colored s ⟨[{ name, text }]⟩
    cases hparse : EntityProps.parse s.grammar s.registry kind text with
    | error e =>
      rw [hparse] at houtcome
      have hrejects : Rejects colored files s (.check path format') _ :=
        .check hm ⟨_, List.mem_singleton_self _, e, houtcome⟩ hout
      rw [ho.rejected_iff.mpr ⟨_, .intro hs (.parse (.shown hmarker) hparse)⟩,
        ho'.rejected_iff.mpr ⟨_, .intro hs hrejects⟩]
    | ok group =>
      rw [hparse] at houtcome
      have haccepts : Accepts colored files s (.check path format') _ :=
        .check hm (by simp [houtcome]) hout
      have hgroup := Output.displaysGroup_formatGroup format colored group
      rw [ho.accepted_iff.mpr ⟨_, .intro hs (.parse (.shown hmarker) hparse hgroup)⟩,
        ho'.accepted_iff.mpr ⟨_, .intro hs haccepts⟩]

/-- If an annotation does not show its kind, it is refused by itself. In a manifest it is
rejected. -/
theorem codes_of_noMarker (hmarker : Kind.ofMarker? text = none)
    (hm : FileHolds Manifest.ofToml files path ⟨[{ name, text }]⟩)
    (ho : Invocation.Ends colored files ⟨config, .parse text none format⟩ o)
    (ho' : Invocation.Ends colored files ⟨config, .check path format'⟩ o') :
    o.code = 2 ∧ (o'.code = 1 ↔ ∃ s, Opens files config s) := by
  cases hopen : openSession files config with
  | error refusal =>
    have hfails := openSession_eq_error_iff.mp hopen
    have hno : ¬ ∃ s, Opens files config s := by
      rintro ⟨s, hs⟩
      rw [openSession_eq_ok_iff.mpr hs] at hopen
      cases hopen
    have htwo := ho'.refused_iff.mpr ⟨refusal, .session hfails⟩
    exact ⟨ho.refused_iff.mpr ⟨refusal, .session hfails⟩, by simp [htwo, hno]⟩
  | ok s =>
    have hs := openSession_eq_ok_iff.mp hopen
    have houtcome := outcome_of_noMarker s.grammar s.registry name hmarker
    have hout := Output.displaysManifest_formatReport format' colored s ⟨[{ name, text }]⟩
    have hrejects : Rejects colored files s (.check path format') _ :=
      .check hm ⟨_, List.mem_singleton_self _, _, houtcome⟩ hout
    have hone := ho'.rejected_iff.mpr ⟨_, .intro hs hrejects⟩
    exact ⟨ho.refused_iff.mpr ⟨_, .action hs (.parse (.noMarker hmarker))⟩,
      iff_of_true hone ⟨s, hs⟩⟩

end Alone

/-- **Exit codes.** A command that does not write a configuration ends, and its exit code is 2
exactly if it is refused, 1 exactly if it is rejected and 0 exactly if it is accepted. Standard
output is empty if it is refused, and if it is rejected for its only annotation. Otherwise all
entities, or else the result, are displayed there. This is so with colours and without, and the
directory stays as it is.

Every annotation has a manifest with nothing else in it. If the annotation starts with a marker, it
comes to the same exit code by itself and in this manifest. If not, it is refused by itself, and in
the manifest it is rejected, unless there is no session to parse it in. -/
theorem exit_codes (files : Files) (colored : Bool) :
    (∀ i : Invocation, (∀ path, i.action ≠ .init path) →
      ∃ o, i.Ends colored files o ∧
        ∀ d args, Directory.look d = files → Invocation.ofArgs? args = some i →
          run d args colored = (o, d)) ∧
    ∀ name text : String, (∃ content, Manifest.ofToml content = .ok ⟨[{ name, text }]⟩) ∧
      ∀ config path format format', FileHolds Manifest.ofToml files path ⟨[{ name, text }]⟩ →
        ∃ o o', Invocation.Ends colored files ⟨config, .parse text none format⟩ o ∧
          Invocation.Ends colored files ⟨config, .check path format'⟩ o' ∧
          (∀ kind : Kind, kind.marker.toList <+: text.toList → o.code = o'.code) ∧
          ((∀ kind : Kind, ¬ kind.marker.toList <+: text.toList) →
            o.code = 2 ∧ (o'.code = 1 ↔ ∃ s, Opens files config s)) := by
  constructor
  · intro i hwork
    obtain ⟨o, ho⟩ := Invocation.exists_ends colored files hwork
    refine ⟨o, ho, ?_⟩
    rintro d args rfl hargs
    exact run_of_step hargs ho.step_eq
  · intro name text
    refine ⟨Manifest.exists_ofToml _, ?_⟩
    intro config path format format' hm
    obtain ⟨o, ho⟩ :=
      Invocation.exists_ends (i := ⟨config, .parse text none format⟩) colored files nofun
    obtain ⟨o', ho'⟩ :=
      Invocation.exists_ends (i := ⟨config, .check path format'⟩) colored files nofun
    refine ⟨o, o', ho, ho', ?_, ?_⟩
    · intro kind hmarker
      exact code_eq_of_marker (Kind.ofMarker?_eq_some_iff_prefix.mpr hmarker) hm ho ho'
    · intro hmarker
      exact codes_of_noMarker (Kind.ofMarker?_eq_none_iff_prefix.mpr hmarker) hm ho ho'

namespace Sample

/-- A manifest with an annotation that does not show its kind. -/
def plainText : String := "[[entity]]\nname = \"a\"\nannotation = \"Plain\"\n"

def directory : Directory := .ofFiles [("plain.toml", plainText)]

/-- The session without a configuration file. -/
def session : Session where
  grammar := .standard
  registry := .native

def templateText : String := "KGC:GenCodeTemplate(Foo)"

def templateGroup : BoundGroup where
  simple := []
  complex := [⟨"GenCodeTemplate", ["Foo"], .template⟩]

def plain : Manifest :=
  ⟨[{ name := "a", text := "Plain" }]⟩

theorem holds_plain : FileHolds Manifest.ofToml directory.look "plain.toml" plain := by
  have hread : directory.look "plain.toml" = .text plainText := rfl
  exact .decoded hread (by decide +kernel)

theorem opens_iff {s : Session} : Opens directory.look none s ↔ s = session := by
  have hopen : openSession directory.look none = .ok session := rfl
  rw [← openSession_eq_ok_iff, hopen, Except.ok.injEq, eq_comm]

theorem parse_template :
    EntityProps.parse session.grammar session.registry .cls templateText = .ok templateGroup := by
  have hread : session.grammar.tokenGroups "GenCodeTemplate(Foo)".toList =
      .ok [⟨"GenCodeTemplate", ["Foo"]⟩] := Grammar.tokenGroups_eq_ok_iff.mpr ⟨by decide, by decide⟩
  have hbinds : session.registry.Binds .cls [⟨"GenCodeTemplate", ["Foo"]⟩] templateGroup :=
    Registry.bind_eq_ok_iff.mp rfl
  rw [parse_of_binds rfl hread hbinds]
  rfl

/-- The lines of the manifest: its one annotation is rejected. -/
def plainLines : String :=
  "ERROR a (?) - wrong property marker used, expected `a known entity marker` " ++
    "(wrong_property_marker)\n  annotation: Plain\n\n1 entities, 1 failed\n"

theorem eq_of_displaysGroup {out : String} (h : DisplaysGroup false templateGroup .text out) :
    out = "  [0] GenCodeTemplate(Foo) rule: GenCodeTemplate\n" := by
  cases h with
  | text h => exact String.toList_injective (h.trans (by decide))

theorem eq_of_displaysManifest {out : String}
    (h : DisplaysManifest false session.grammar session.registry plain .text out) :
    out = plainLines := by
  cases h with
  | text h => exact String.toList_injective (h.trans (by decide +kernel))

end Sample

theorem exit_codes_plain :
    (run Sample.directory ["parse", "Plain"]).1.code = 2 ∧
      (run Sample.directory ["check", "plain.toml"]).1 =
        ⟨1, Sample.plainLines ++ "\n", none⟩ ∧
      (run Sample.directory ["parse", Sample.templateText]).1 =
        ⟨0, "  [0] GenCodeTemplate(Foo) rule: GenCodeTemplate\n\n", none⟩ := by
  obtain ⟨hends, halone⟩ := exit_codes Sample.directory.look false
  obtain ⟨o, o', ho, ho', -, hplain⟩ :=
    (halone "a" "Plain").2 none "plain.toml" .text .text Sample.holds_plain
  obtain ⟨htwo, hone⟩ := hplain (by intro kind; cases kind <;> decide)
  obtain ⟨o'', ho'', hrun⟩ := hends ⟨none, .parse Sample.templateText none .text⟩ nofun
  rw [run_of_step rfl ho.step_eq, run_of_step rfl ho'.step_eq, hrun _ _ rfl rfl]
  refine ⟨htwo, ?_, ?_⟩
  · obtain ⟨hopen, h⟩ := ho'.rejected (hone.mpr ⟨_, Sample.opens_iff.mpr rfl⟩)
    obtain rfl := Sample.opens_iff.mp hopen
    cases h with
    | check hm _ hout =>
      obtain rfl := FileHolds.eq Sample.holds_plain hm
      rw [Sample.eq_of_displaysManifest hout]
  · have hcode : o''.code = 0 := ho''.accepted_iff.mpr ⟨_, .intro (Sample.opens_iff.mpr rfl)
      (.parse (.shown rfl) Sample.parse_template (Output.displaysGroup_formatGroup .text false _))⟩
    obtain ⟨hopen, h⟩ := ho''.accepted hcode
    obtain rfl := Sample.opens_iff.mp hopen
    cases h with
    | parse hkind hparse hout =>
      obtain rfl : Kind.cls = _ := by
        cases hkind with
        | shown h => exact Option.some.inj h
      obtain rfl := Except.ok.inj (Sample.parse_template.symm.trans hparse)
      rw [Sample.eq_of_displaysGroup hout]
      rfl

end EntityProps.Command
