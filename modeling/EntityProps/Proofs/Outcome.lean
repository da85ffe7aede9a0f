import EntityProps.Proofs.Binding
import EntityProps.Proofs.Marker
import EntityProps.Proofs.Rendering

/-!
# Outcomes of parsing

The outcome of an annotation is its first error in a fixed order: the marker,
then the reading of the body, then the token groups one after another, then the
rules of the bound properties. An annotation without errors gives the group of
all its token groups.
-/

namespace EntityProps

variable {g : Grammar} {r : Registry} {kind : Kind} {text : String}

/-- What comes of an annotation, stage by stage. -/
inductive Outcome (g : Grammar) (r : Registry) (kind : Kind) (text : String) :
    Except ParseError BoundGroup → Prop
  | wrongMarker (hmarker : Kind.ofMarker? text ≠ some kind) :
      Outcome g r kind text (.error (.wrongMarker kind.marker))
  | unread {body : List Char} {e : ParseError} (hbody : kind.body? text = some body)
      (hread : g.tokenGroups body = .error e) : Outcome g r kind text (.error e)
  | unbound {body : List Char} {ts : List TokenGroup} {e : ParseError}
      (hbody : kind.body? text = some body) (hread : g.tokenGroups body = .ok ts)
      (hfails : r.FirstFails kind ts e) : Outcome g r kind text (.error e)
  | refused {body : List Char} {ts : List TokenGroup} {group : BoundGroup} {e : ParseError}
      (hbody : kind.body? text = some body) (hread : g.tokenGroups body = .ok ts)
      (hbinds : r.Binds kind ts group) (hrefused : group.Refused e) :
      Outcome g r kind text (.error e)
  | accepted {body : List Char} {ts : List TokenGroup} {group : BoundGroup}
      (hbody : kind.body? text = some body) (hread : g.tokenGroups body = .ok ts)
      (hbinds : r.Binds kind ts group) (hallowed : group.Allowed) :
      Outcome g r kind text (.ok group)

theorem parse_of_wrongMarker (h : Kind.ofMarker? text ≠ some kind) :
    parse g r kind text = .error (.wrongMarker kind.marker) := by
  rw [parse, Kind.body?_eq_none_iff.mpr h]

theorem parse_of_body {body : List Char} (h : kind.body? text = some body) :
    parse g r kind text =
      (g.tokenGroups body >>= fun ts => r.bind kind ts >>= PropertyGroup.validated) := by
  rw [parse, h]

theorem parse_of_read {body : List Char} {ts : List TokenGroup}
    (hbody : kind.body? text = some body) (hread : g.tokenGroups body = .ok ts) :
    parse g r kind text = (r.bind kind ts >>= PropertyGroup.validated) := by
  rw [parse_of_body hbody, hread]
  rfl

theorem parse_of_binds {body : List Char} {ts : List TokenGroup} {group : BoundGroup}
    (hbody : kind.body? text = some body) (hread : g.tokenGroups body = .ok ts)
    (hbinds : r.Binds kind ts group) : parse g r kind text = group.validated := by
  rw [parse_of_read hbody hread, Registry.bind_eq_ok_iff.mpr hbinds]
  rfl

/-- Parsing succeeds with the group of all token groups, if every rule allows
its property. -/
theorem parse_eq_ok_iff {group : BoundGroup} :
    parse g r kind text = .ok group ↔
      ∃ body ts, kind.body? text = some body ∧ g.tokenGroups body = .ok ts ∧
        r.Binds kind ts group ∧ group.Allowed := by
  constructor
  · intro h
    cases hbody : kind.body? text with
    | none =>
      rw [parse_of_wrongMarker (Kind.body?_eq_none_iff.mp hbody)] at h
      cases h
    | some body =>
      rw [parse_of_body hbody] at h
      obtain ⟨ts, hread, hrest⟩ := bind_eq_ok_iff_exists.mp h
      obtain ⟨group', hbind, hvalid⟩ := bind_eq_ok_iff_exists.mp hrest
      obtain ⟨rfl, hallowed⟩ := PropertyGroup.validated_eq_ok_iff.mp hvalid
      exact ⟨body, ts, rfl, hread, Registry.bind_eq_ok_iff.mp hbind, hallowed⟩
  · rintro ⟨body, ts, hbody, hread, hbinds, hallowed⟩
    rw [parse_of_binds hbody hread hbinds]
    exact PropertyGroup.validated_eq_ok_iff.mpr ⟨rfl, hallowed⟩

/-- A stage that is reached and ends the parsing gives the outcome. -/
theorem parse_of_outcome {res : Except ParseError BoundGroup} (h : Outcome g r kind text res) :
    parse g r kind text = res := by
  cases h with
  | wrongMarker hmarker => exact parse_of_wrongMarker hmarker
  | unread hbody hread =>
    rw [parse_of_body hbody, hread]
    rfl
  | unbound hbody hread hfails =>
    rw [parse_of_read hbody hread, Registry.bind_eq_error_iff.mpr hfails]
    rfl
  | refused hbody hread hbinds hrefused =>
    rw [parse_of_binds hbody hread hbinds]
    exact PropertyGroup.validated_eq_error_iff.mpr hrefused
  | accepted hbody hread hbinds hallowed =>
    exact parse_eq_ok_iff.mpr ⟨_, _, hbody, hread, hbinds, hallowed⟩

/-- Some stage gives the outcome. -/
theorem exists_outcome (g : Grammar) (r : Registry) (kind : Kind) (text : String) :
    ∃ res, Outcome g r kind text res := by
  cases hbody : kind.body? text with
  | none => exact ⟨_, .wrongMarker (Kind.body?_eq_none_iff.mp hbody)⟩
  | some body =>
    cases hread : g.tokenGroups body with
    | error e => exact ⟨_, .unread hbody hread⟩
    | ok ts =>
      cases hbind : r.bind kind ts with
      | error e => exact ⟨_, .unbound hbody hread (Registry.bind_eq_error_iff.mp hbind)⟩
      | ok group =>
        have hbinds := Registry.bind_eq_ok_iff.mp hbind
        rcases group.allowed_or_refused with hallowed | ⟨e, hrefused⟩
        · exact ⟨_, .accepted hbody hread hbinds hallowed⟩
        · exact ⟨_, .refused hbody hread hbinds hrefused⟩

theorem outcome_parse (g : Grammar) (r : Registry) (kind : Kind) (text : String) :
    Outcome g r kind text (parse g r kind text) := by
  obtain ⟨res, h⟩ := exists_outcome g r kind text
  rw [parse_of_outcome h]
  exact h

/-! ## The wrong marker -/

/-- Errors of the other stages do not speak of the marker. -/
theorem Registry.FirstFails.ne_wrongMarker {ts : List TokenGroup} {e : ParseError}
    (h : r.FirstFails kind ts e) (m : String) : e ≠ .wrongMarker m := by
  obtain ⟨_, _, _, _, _, hfails⟩ := h
  cases hfails <;> simp

theorem PropertyGroup.Refused.ne_wrongMarker {group : BoundGroup} {e : ParseError}
    (h : group.Refused e) (m : String) : e ≠ .wrongMarker m := by
  cases h <;> simp

theorem tokenGroups_ne_wrongMarker {body : List Char} {e : ParseError}
    (h : g.tokenGroups body = .error e) (m : String) : e ≠ .wrongMarker m := by
  rcases Grammar.readGroups_error h with rfl | rfl <;> simp

theorem parse_eq_wrongMarker_iff {m : String} :
    parse g r kind text = .error (.wrongMarker m) ↔
      Kind.ofMarker? text ≠ some kind ∧ m = kind.marker := by
  constructor
  · intro h
    have hout := outcome_parse g r kind text
    rw [h] at hout
    cases hout with
    | wrongMarker hmarker => exact ⟨hmarker, rfl⟩
    | unread _ hread => exact absurd rfl (tokenGroups_ne_wrongMarker hread m)
    | unbound _ _ hfails => exact absurd rfl (hfails.ne_wrongMarker m)
    | refused _ _ _ hrefused => exact absurd rfl (hrefused.ne_wrongMarker m)
  · rintro ⟨hmarker, rfl⟩
    exact parse_of_wrongMarker hmarker

/-- **The first error wins.** Parsing gives the outcome of the first stage that
ends it, and of the stages there is exactly one. The error of the marker arises
exactly for annotations that do not have the marker of the kind, so no
annotation is accepted for two kinds. -/
theorem parse_eq_iff_outcome (g : Grammar) (r : Registry) (kind : Kind) (text : String) :
    (∀ res, parse g r kind text = res ↔ Outcome g r kind text res) ∧
    (∀ m, parse g r kind text = .error (.wrongMarker m) ↔
      Kind.ofMarker? text ≠ some kind ∧ m = kind.marker) ∧
    (∀ kind' group group', parse g r kind text = .ok group →
      parse g r kind' text = .ok group' → kind = kind') := by
  refine ⟨fun res => ⟨?_, parse_of_outcome⟩, fun m => parse_eq_wrongMarker_iff, ?_⟩
  · rintro rfl
    exact outcome_parse g r kind text
  · intro kind' group group' h h'
    obtain ⟨_, _, hbody, -⟩ := parse_eq_ok_iff.mp h
    obtain ⟨_, _, hbody', -⟩ := parse_eq_ok_iff.mp h'
    exact Kind.eq_of_body? hbody hbody'

end EntityProps
