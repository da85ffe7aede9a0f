import EntityProps.Proofs.Reports
import Mathlib.Data.List.Induction

/-!
# The error slot over a run

A session is used by calls in any order: it parses annotations, through any of its
entry points, is cleaned, and checks manifests. What a call answers does not depend on the calls before it, and
the slot only depends on the last thing that acted on it
(`Session.run_answers_and_slot`).

A manifest acts on the slot as its entities in turn, each of which cleans the slot
and is then parsed if its kind is known. So a run comes down to acts (`Call.acts`),
and of an act the slot after it is known whatever was before (`Act.slot`).
-/

namespace EntityProps

/-! ## Calls and acts -/

/-- A call on a session. -/
inductive Call where
  | parse (kind : Kind) (text : String)
  /-- The same through the entry point that is there for the kind. -/
  | entry (kind : Kind) (text : String)
  | clean
  | check (m : Manifest)

/-- What a call gives back. -/
inductive Answer where
  | outcome (outcome : Except ParseError BoundGroup)
  | nothing
  | report (report : Report)

/-- What acts on the slot. -/
inductive Act where
  | parse (kind : Kind) (text : String)
  | clean

def Act.call : Act → Call
  | .parse kind text => .parse kind text
  | .clean => .clean

/-- An entity cleans the slot, and is parsed if its kind is known. -/
def Entity.acts (e : Entity) : List Act :=
  match e.kind? with
  | some kind => [.clean, .parse kind e.text]
  | none => [.clean]

/-- What a call does to the slot, act by act. -/
def Call.acts : Call → List Act
  | .parse kind text | .entry kind text => [.parse kind text]
  | .clean => [.clean]
  | .check m => m.entities.flatMap Entity.acts

/-- The slot after an act, whatever was in it before. -/
def Act.slot (g : Grammar) (r : Registry) : Act → Option ErrorKind
  | .parse kind text => errorKind? (EntityProps.parse g r kind text)
  | .clean => none

/-- What a new session answers to a call. -/
def Call.answer (g : Grammar) (r : Registry) : Call → Answer
  | .parse kind text | .entry kind text =>
    .outcome (Session.parse { grammar := g, registry := r } kind text).1
  | .clean => .nothing
  | .check m => .report (Session.checkManifest { grammar := g, registry := r } m).1

namespace Session

def call (s : Session) : Call → Answer × Session
  | .parse kind text => (.outcome (s.parse kind text).1, (s.parse kind text).2)
  | .entry kind text => (.outcome (entryFor kind s text).1, (entryFor kind s text).2)
  | .clean => (.nothing, s.clean)
  | .check m => (.report (s.checkManifest m).1, (s.checkManifest m).2)

/-- Answers calls in order. -/
def run (s : Session) : List Call → List Answer × Session
  | [] => ([], s)
  | c :: cs => ((s.call c).1 :: ((s.call c).2.run cs).1, ((s.call c).2.run cs).2)

/-- The slot after some acts: that of the last one, or the old one if there are none. -/
def slotAfter (s : Session) (acts : List Act) : Option ErrorKind :=
  (acts.getLast?.map (Act.slot s.grammar s.registry)).getD s.slot

variable {s : Session}

theorem slotAfter_append (acts acts' : List Act) :
    s.slotAfter (acts ++ acts') = { s with slot := s.slotAfter acts }.slotAfter acts' := by
  rw [slotAfter, slotAfter, List.getLast?_append]
  cases acts'.getLast? <;> rfl

/-- An entity leaves the slot that its acts leave. -/
theorem slot_acts (e : Entity) :
    s.slotAfter e.acts = e.slot s.grammar s.registry := by
  rw [Entity.acts, Entity.slot, Entity.outcome]
  cases e.kind? <;> rfl

/-- A manifest acts on the slot as its entities in turn. -/
theorem slotAfter_flatMap (es : List Entity) :
    s.slotAfter (es.flatMap Entity.acts) =
      (es.getLast?.map (Entity.slot s.grammar s.registry)).getD s.slot := by
  -- From the back, since only the last entity counts.
  induction es using List.reverseRecOn with
  | nil => rfl
  | append_singleton es e ih =>
    rw [List.flatMap_append, slotAfter_append, List.flatMap_singleton, slot_acts,
      List.getLast?_concat]
    rfl

/-- Every entry point parses for its own kind. -/
theorem entryFor_eq (kind : Kind) (s : Session) (text : String) :
    entryFor kind s text = s.parse kind text := by
  cases kind <;> rfl

/-- A call answers as in a new session, and leaves the slot that its acts leave. -/
theorem call_eq (c : Call) :
    s.call c = (c.answer s.grammar s.registry, { s with slot := s.slotAfter c.acts }) := by
  cases c with
  | parse kind text => rfl
  | entry kind text =>
    rw [call, entryFor_eq]
    rfl
  | clean => rfl
  | check m =>
    rw [call, checkManifest, checkAll_eq, Call.answer, checkManifest, checkAll_eq, Call.acts,
      slotAfter_flatMap]

theorem run_eq (cs : List Call) :
    s.run cs = (cs.map (Call.answer s.grammar s.registry),
      { s with slot := s.slotAfter (cs.flatMap Call.acts) }) := by
  induction cs generalizing s with
  | nil => rfl
  | cons c cs ih =>
    rw [run, call_eq, ih, List.flatMap_cons, slotAfter_append]
    rfl

theorem flatMap_acts_call (acts : List Act) : (acts.map Act.call).flatMap Call.acts = acts := by
  induction acts with
  | nil => rfl
  | cons act acts ih =>
    rw [List.map_cons, List.flatMap_cons, ih]
    cases act <;> rfl

/-- **The discipline of the error slot.** Over any run, every call answers as in a new session, and
the slot holds what the last act left: the kind of the error of a failed parse, through whichever
entry point, or nothing. A manifest acts as its entities in turn. The slot after it is the error
kind of the last report, unless the last entity has no kind: then the slot is empty, although the
report has an error. -/
theorem run_answers_and_slot (s : Session) (cs : List Call) :
    (s.run cs).1 = cs.map (Call.answer s.grammar s.registry) ∧
    (s.run cs).2 = { s with slot := s.slotAfter (cs.flatMap Call.acts) } ∧
    (∀ kind text, ∀ c ∈ [Call.parse kind text, .entry kind text], let s' := (s.run (cs ++ [c])).2
      s'.slot = errorKind? (EntityProps.parse s.grammar s.registry kind text) ∧
        (s'.slot = none ↔ ∃ g, EntityProps.parse s.grammar s.registry kind text = .ok g)) ∧
    (s.run (cs ++ [.clean])).2.slot = none ∧
    (∀ m, (s.run [.check m]).2 =
      (s.run ((m.entities.flatMap Entity.acts).map Act.call)).2) ∧
    (s.run (cs ++ [.check ⟨[]⟩])).2 = (s.run cs).2 ∧
    ∀ es e, let s' := (s.run (cs ++ [.check ⟨es ++ [e]⟩])).2
      ∃ last, ((s.run cs).2.checkManifest ⟨es ++ [e]⟩).1.entities.getLast? = some last ∧
        ((∃ kind, e.kind? = some kind ∧ s'.slot = last.errorKind) ∨
          (e.kind? = none ∧ s'.slot = none ∧ last.errorKind = some .wrongMarker ∧
            last.error = some (ParseError.wrongMarker anyMarker).message)) := by
  have hlast : ∀ c, (s.run (cs ++ [c])).2.slot =
      (s.run cs).2.slotAfter c.acts := fun c => by
    rw [run_eq, run_eq, List.flatMap_append, List.flatMap_singleton, slotAfter_append]
  refine ⟨by rw [run_eq], by rw [run_eq], fun kind text c hc => ?_, hlast .clean, fun m => ?_, ?_,
    fun es e => ?_⟩
  · have hacts : c.acts = [.parse kind text] := by
      rcases List.mem_pair.mp hc with rfl | rfl <;> rfl
    have hslot : (s.run (cs ++ [c])).2.slot =
        errorKind? (EntityProps.parse s.grammar s.registry kind text) := by
      rw [hlast, run_eq, hacts]
      rfl
    refine ⟨hslot, ?_⟩
    rw [hslot]
    cases EntityProps.parse s.grammar s.registry kind text <;> simp [errorKind?]
  · rw [run_eq, run_eq, flatMap_acts_call, List.flatMap_singleton]
    rfl
  · rw [run_eq, run_eq, List.flatMap_append, List.flatMap_singleton, slotAfter_append]
    rfl
  · generalize ht : (s.run cs).2 = t at hlast ⊢
    have hslot : (s.run (cs ++ [.check ⟨es ++ [e]⟩])).2.slot = e.slot t.grammar t.registry := by
      rw [hlast, Call.acts, slotAfter_flatMap, List.getLast?_concat]
      rfl
    refine ⟨e.report t.grammar t.registry, ?_, ?_⟩
    · rw [entities_checkManifest, List.map_append, List.map_singleton, List.getLast?_concat]
    · rw [hslot, Entity.slot, Entity.report, Entity.outcome]
      cases e.kind? with
      | none => exact Or.inr ⟨rfl, rfl, rfl, rfl⟩
      | some kind => exact Or.inl ⟨kind, rfl, rfl⟩

end Session

end EntityProps
