import EntityProps.Pattern.Matching
import Mathlib.Data.List.Basic
import Mathlib.Data.List.Induction
import Mathlib.Logic.Function.Iterate

/-!
# Matches of a pattern

A match of a pattern leads from one place of a text to another (`Matches`). A
repetition is as many copies of its item in a row as its bounds allow. Following
all places at once finds exactly the places where matches end (`mem_ends_iff`).

- Marks: a place is in the new places if it was not marked (`mem_unmarked`).
- Rounds: collecting places for a number of rounds gives what at most as many steps
  lead to (`mem_upTo_iff`), and a match that moves does so at most once for each
  character, so bounded rounds are enough for an unbounded repetition
  (`Leads.shorten`).
-/

namespace EntityProps.Pattern

/-! ## Matches -/

/-- A match of a pattern that starts at the one place and ends at the other. -/
inductive Matches (text : Array Char) : Node → Nat → Nat → Prop
  | one {set : CharSet} {i : Nat} {c : Char} (hc : text[i]? = some c) (hset : set.mem c = true) :
      Matches text (.one set) i (i + 1)
  | look {condition : Look} {i : Nat}
      (h : condition.holds (Node.before? text i) text[i]? = true) :
      Matches text (.look condition) i i
  | nil {i : Nat} : Matches text (.seq []) i i
  | cons {n : Node} {items : List Node} {i j k : Nat} (hn : Matches text n i j)
      (hitems : Matches text (.seq items) j k) : Matches text (.seq (n :: items)) i k
  | alt {n : Node} {options : List Node} {i j : Nat} (hmem : n ∈ options)
      (hn : Matches text n i j) : Matches text (.alt options) i j
  /-- Copies of the item in a row. An upper bound counts if it is not below the lower one. -/
  | rep {item : Node} {least count : Nat} {most : Option Nat} {i j : Nat} (hleast : least ≤ count)
      (hmost : ∀ m, most = some m → count ≤ max least m)
      (h : Matches text (.seq (List.replicate count item)) i j) :
      Matches text (.rep item least most) i j
  | capture {item : Node} {i j : Nat} (h : Matches text item i j) :
      Matches text (.capture item) i j

section Matches

variable {text : Array Char} {i j : Nat}

theorem matches_one_iff {set : CharSet} :
    Matches text (.one set) i j ↔ j = i + 1 ∧ ∃ c, text[i]? = some c ∧ set.mem c = true := by
  constructor
  · rintro ⟨hc, hset⟩
    exact ⟨rfl, _, hc, hset⟩
  · rintro ⟨rfl, c, hc, hset⟩
    exact .one hc hset

theorem matches_look_iff {condition : Look} :
    Matches text (.look condition) i j ↔
      j = i ∧ condition.holds (Node.before? text i) text[i]? = true := by
  constructor
  · rintro ⟨⟩
    exact ⟨rfl, ‹_›⟩
  · rintro ⟨rfl, h⟩
    exact .look h

theorem matches_nil_iff : Matches text (.seq []) i j ↔ j = i := by
  constructor
  · rintro ⟨⟩
    rfl
  · rintro rfl
    exact .nil

theorem matches_cons_iff {n : Node} {items : List Node} :
    Matches text (.seq (n :: items)) i j ↔
      ∃ k, Matches text n i k ∧ Matches text (.seq items) k j := by
  constructor
  · intro h
    cases h with
    | cons hn hitems => exact ⟨_, hn, hitems⟩
  · rintro ⟨k, hn, hitems⟩
    exact .cons hn hitems

theorem matches_alt_iff {options : List Node} :
    Matches text (.alt options) i j ↔ ∃ n ∈ options, Matches text n i j := by
  constructor
  · intro h
    cases h with
    | alt hmem hn => exact ⟨_, hmem, hn⟩
  · rintro ⟨n, hmem, hn⟩
    exact .alt hmem hn

theorem matches_rep_iff {item : Node} {least : Nat} {most : Option Nat} :
    Matches text (.rep item least most) i j ↔
      ∃ count, least ≤ count ∧ (∀ m, most = some m → count ≤ max least m) ∧
        Matches text (.seq (List.replicate count item)) i j := by
  constructor
  · intro h
    cases h with
    | rep hleast hmost h => exact ⟨_, hleast, hmost, h⟩
  · rintro ⟨count, hleast, hmost, h⟩
    exact .rep hleast hmost h

theorem matches_capture_iff {item : Node} :
    Matches text (.capture item) i j ↔ Matches text item i j := by
  constructor
  · intro h
    cases h with
    | capture h => exact h
  · exact .capture

/-- A match stays where it is, or it moves on within the text. -/
theorem Matches.advances {n : Node} (h : Matches text n i j) : j = i ∨ i < j ∧ j ≤ text.size := by
  induction h with
  | one hc _ =>
    have := (Array.getElem?_eq_some_iff.mp hc).1
    omega
  | look => exact Or.inl rfl
  | nil => exact Or.inl rfl
  | cons _ _ ihn ihitems => omega
  | alt _ _ ih => exact ih
  | rep _ _ _ ih => exact ih
  | capture _ ih => exact ih

end Matches

/-! ## Steps in a row -/

/-- So many steps lead from the one place to the other. -/
def Leads (R : Nat → Nat → Prop) : Nat → Nat → Nat → Prop
  | 0, i, j => j = i
  | n + 1, i, j => ∃ k, R i k ∧ Leads R n k j

theorem matches_replicate_iff {text : Array Char} {item : Node} {count i j : Nat} :
    Matches text (.seq (List.replicate count item)) i j ↔
      Leads (Matches text item) count i j := by
  induction count generalizing i with
  | zero => exact matches_nil_iff
  | succ count ih => simp only [List.replicate_succ, matches_cons_iff, Leads, ih]

section Steps

variable {R : Nat → Nat → Prop} {m n i j k : Nat}

theorem Leads.append (h : Leads R m i k) (h' : Leads R n k j) : Leads R (m + n) i j := by
  induction m generalizing i with
  | zero =>
    obtain rfl := h
    simpa using h'
  | succ m ih =>
    obtain ⟨l, hstep, hrest⟩ := h
    rw [Nat.succ_add]
    exact ⟨l, hstep, ih hrest⟩

theorem Leads.split (h : Leads R (m + n) i j) : ∃ k, Leads R m i k ∧ Leads R n k j := by
  induction m generalizing i with
  | zero => exact ⟨i, rfl, by simpa using h⟩
  | succ m ih =>
    rw [Nat.succ_add] at h
    obtain ⟨l, hstep, hrest⟩ := h
    obtain ⟨k, hfirst, hlast⟩ := ih hrest
    exact ⟨k, ⟨l, hstep, hfirst⟩, hlast⟩

/-- Steps that stay where they are can be left out. The others move on within the
text, so there are at most as many as it has characters. -/
theorem Leads.shorten {size : Nat} (hR : ∀ i j, R i j → j = i ∨ i < j ∧ j ≤ size)
    (h : Leads R n i j) : ∃ m ≤ size, Leads R m i j := by
  suffices h' : ∃ m, Leads R m i j ∧ (m = 0 ∨ i + m ≤ j ∧ j ≤ size) by
    obtain ⟨m, hm, hbound⟩ := h'
    exact ⟨m, by omega, hm⟩
  induction n generalizing i with
  | zero => exact ⟨0, h, Or.inl rfl⟩
  | succ n ih =>
    obtain ⟨k, hstep, hrest⟩ := h
    obtain ⟨m, hm, hbound⟩ := ih hrest
    rcases hR i k hstep with rfl | ⟨hik, hk⟩
    · exact ⟨m, hm, hbound⟩
    · refine ⟨m + 1, ⟨k, hstep, hm⟩, Or.inr ?_⟩
      rcases hbound with rfl | hbound
      · obtain rfl := hm
        omega
      · omega

end Steps

/-! ## Marked places -/

theorem unmarked_append_singleton (marks : Nat) (places : List Nat) (p : Nat) :
    unmarked marks (places ++ [p]) =
      if (unmarked marks places).2.testBit p then unmarked marks places
      else (p :: (unmarked marks places).1, (unmarked marks places).2 ||| 1 <<< p) := by
  rw [unmarked, List.foldl_append]
  rfl

theorem testBit_mark (marks p j : Nat) :
    (marks ||| 1 <<< p).testBit j = (marks.testBit j || decide (p = j)) := by
  rw [Nat.testBit_or, Nat.one_shiftLeft, Nat.testBit_two_pow]

/-- The new places are those that were not marked. The marks afterwards are the marks before and
the places. -/
theorem mem_unmarked (marks : Nat) (places : List Nat) (j : Nat) :
    (j ∈ (unmarked marks places).1 ↔ j ∈ places ∧ marks.testBit j = false) ∧
      (unmarked marks places).2.testBit j = (marks.testBit j || decide (j ∈ places)) := by
  induction places using List.reverseRecOn with
  | nil => simp [unmarked]
  | append_singleton places p ih =>
    obtain ⟨hnew, hmarks⟩ := ih
    rw [unmarked_append_singleton]
    split
    · next hp =>
      -- This place is marked already, by itself or as one of those before.
      rw [hnew, hmarks]
      by_cases hj : j = p
      · subst hj
        rw [hmarks] at hp
        cases hmark : marks.testBit j <;> simp_all
      · simp [hj]
    · next hp =>
      rw [testBit_mark, List.mem_cons, hnew, hmarks]
      by_cases hj : j = p
      · subst hj
        rw [hmarks] at hp
        simp at hp ⊢
        exact hp.1
      · simp [hj, Ne.symm hj]

theorem mem_distinct {places : List Nat} {j : Nat} : j ∈ distinct places ↔ j ∈ places := by
  simp [distinct, (mem_unmarked 0 places j).1]

/-! ## Rounds -/

section Rounds

variable {R : Nat → Nat → Prop} {step : List Nat → List Nat}

theorem exactly_eq_iterate (step : List Nat → List Nat) (n : Nat) (places : List Nat) :
    exactly step n places = step^[n] places := by
  induction n generalizing places with
  | zero => rfl
  | succ n ih =>
    rw [exactly]
    by_cases h : step places = places
    · rw [if_pos (beq_iff_eq.mpr h), Function.iterate_fixed h]
    · rw [if_neg (by simpa using h), ih, Function.iterate_succ_apply]

variable (hstep : ∀ places j, j ∈ step places ↔ ∃ i ∈ places, R i j)

include hstep in
theorem mem_exactly_iff {n : Nat} {places : List Nat} {j : Nat} :
    j ∈ exactly step n places ↔ ∃ i ∈ places, Leads R n i j := by
  rw [exactly_eq_iterate]
  induction n generalizing places with
  | zero => simp [Leads]
  | succ n ih =>
    rw [Function.iterate_succ_apply, ih]
    simp only [hstep, Leads]
    constructor
    · rintro ⟨k, ⟨i, hi, hik⟩, hrest⟩
      exact ⟨i, hi, k, hik, hrest⟩
    · rintro ⟨i, hi, k, hik, hrest⟩
      exact ⟨k, ⟨i, hi, hik⟩, hrest⟩

/-- What the rounds keep: the places so far are marked, and from all but the latest of them the step
has been tried. -/
structure Collected (R : Nat → Nat → Prop) (latest reached : List Nat) (marks : Nat) : Prop where
  marked : ∀ j, marks.testBit j = true ↔ j ∈ reached
  known : ∀ i ∈ latest, i ∈ reached
  tried : ∀ i ∈ reached, i ∉ latest → ∀ j, R i j → j ∈ reached

theorem collected_unmarked (places : List Nat) :
    Collected R (unmarked 0 places).1 (unmarked 0 places).1 (unmarked 0 places).2 where
  marked j := by simp [mem_unmarked]
  known i hi := hi
  tried i hi hno := absurd hi hno

variable {latest reached : List Nat} {marks : Nat}

include hstep in
theorem Collected.mem_new_iff (h : Collected R latest reached marks) {j : Nat} :
    j ∈ (unmarked marks (step latest)).1 ↔ (∃ i ∈ latest, R i j) ∧ j ∉ reached := by
  rw [(mem_unmarked _ _ _).1, hstep, ← h.marked, Bool.not_eq_true]

include hstep in
/-- A step from a place so far leads to such a place or to a new one. -/
theorem Collected.mem_or_new (h : Collected R latest reached marks) {i j : Nat} (hi : i ∈ reached)
    (hij : R i j) : j ∈ (unmarked marks (step latest)).1 ++ reached := by
  rw [List.mem_append, h.mem_new_iff hstep]
  by_cases hj : j ∈ reached
  · exact Or.inr hj
  · by_cases hlatest : i ∈ latest
    · exact Or.inl ⟨⟨i, hlatest, hij⟩, hj⟩
    · exact absurd (h.tried i hi hlatest j hij) hj

include hstep in
theorem Collected.next (h : Collected R latest reached marks) :
    Collected R (unmarked marks (step latest)).1 ((unmarked marks (step latest)).1 ++ reached)
      (unmarked marks (step latest)).2 where
  marked j := by
    rw [(mem_unmarked _ _ _).2, List.mem_append, (mem_unmarked _ _ _).1, Bool.or_eq_true,
      decide_eq_true_eq, ← h.marked]
    cases marks.testBit j <;> simp
  known i hi := List.mem_append_left reached hi
  tried i hi hno j hij := by
    rcases List.mem_append.mp hi with hnew | hreached
    · exact absurd hnew hno
    · exact h.mem_or_new hstep hreached hij

/-- Without new places the places so far are closed under steps. -/
theorem Leads.mem_of_closed {n i j : Nat} (hclosed : ∀ i ∈ reached, ∀ j, R i j → j ∈ reached)
    (hi : i ∈ reached) (h : Leads R n i j) : j ∈ reached := by
  induction n generalizing i with
  | zero => exact h ▸ hi
  | succ n ih =>
    obtain ⟨k, hik, hrest⟩ := h
    exact ih (hclosed i hi k hik) hrest

include hstep in
/-- Rounds collect the places that at most so many steps lead to. -/
theorem mem_upTo_iff (h : Collected R latest reached marks) {n j : Nat} :
    j ∈ upTo step n latest reached marks ↔ ∃ i ∈ reached, ∃ m ≤ n, Leads R m i j := by
  induction n generalizing latest reached marks with
  | zero =>
    rw [upTo]
    constructor
    · intro hj
      exact ⟨j, hj, 0, Nat.le_refl 0, rfl⟩
    · rintro ⟨i, hi, m, hm, hlead⟩
      obtain rfl := Nat.le_zero.mp hm
      exact hlead ▸ hi
  | succ n ih =>
    rw [upTo]
    simp only
    split
    · next hempty =>
      have hclosed : ∀ i ∈ reached, ∀ j, R i j → j ∈ reached := by
        intro i hi j hij
        have := h.mem_or_new hstep hi hij
        rwa [List.isEmpty_iff.mp hempty] at this
      constructor
      · intro hj
        exact ⟨j, hj, 0, Nat.zero_le _, rfl⟩
      · rintro ⟨i, hi, m, -, hlead⟩
        exact hlead.mem_of_closed hclosed hi
    · rw [ih (h.next hstep)]
      constructor
      · rintro ⟨i, hi, m, hm, hlead⟩
        rcases List.mem_append.mp hi with hnew | hreached
        · -- A new place is one step from a latest one.
          obtain ⟨⟨k, hk, hki⟩, -⟩ := (h.mem_new_iff hstep).mp hnew
          exact ⟨k, h.known k hk, m + 1, Nat.succ_le_succ hm, i, hki, hlead⟩
        · exact ⟨i, hreached, m, Nat.le_succ_of_le hm, hlead⟩
      · rintro ⟨i, hi, m, hm, hlead⟩
        cases m with
        | zero => exact ⟨i, List.mem_append_right _ hi, 0, Nat.zero_le n, hlead⟩
        | succ m =>
          obtain ⟨k, hik, hrest⟩ := hlead
          exact ⟨k, h.mem_or_new hstep hi hik, m, Nat.le_of_succ_le_succ hm, hrest⟩

end Rounds

/-! ## Ends of matches -/

/-- How often an item may match once more after the least number of times. Places do not move on
more often than there are characters. -/
def roundsOf (text : Array Char) (least : Nat) : Option Nat → Nat
  | some most => most - least
  | none => text.size + 1

theorem mem_ends_rep_iff {text : Array Char} {item : Node}
    (hitem : ∀ places j, j ∈ item.ends text places ↔ ∃ i ∈ places, Matches text item i j)
    (least : Nat) (most : Option Nat) (places : List Nat) (j : Nat) :
    j ∈ (Node.rep item least most).ends text places ↔
      ∃ i ∈ places, ∃ more ≤ roundsOf text least most,
        Leads (Matches text item) (least + more) i j := by
  have hends : (Node.rep item least most).ends text places =
      let first := unmarked 0 (exactly (item.ends text) least places)
      upTo (item.ends text) (roundsOf text least most) first.1 first.1 first.2 := by
    cases most <;> rfl
  rw [hends, mem_upTo_iff hitem (collected_unmarked _)]
  simp only [(mem_unmarked _ _ _).1, Nat.zero_testBit, and_true, mem_exactly_iff hitem]
  constructor
  · rintro ⟨k, ⟨i, hi, hleast⟩, more, hmore, hlead⟩
    exact ⟨i, hi, more, hmore, hleast.append hlead⟩
  · rintro ⟨i, hi, more, hmore, hlead⟩
    obtain ⟨k, hleast, hlead⟩ := hlead.split
    exact ⟨k, ⟨i, hi, hleast⟩, more, hmore, hlead⟩

/-- The rounds of a repetition are enough for the numbers of copies that its bounds allow. -/
theorem leads_iff_matches_rep {text : Array Char} {item : Node} {least : Nat} {most : Option Nat}
    {i j : Nat} :
    (∃ more ≤ roundsOf text least most, Leads (Matches text item) (least + more) i j) ↔
      Matches text (.rep item least most) i j := by
  simp only [matches_rep_iff, matches_replicate_iff]
  cases most with
  | some most =>
    constructor
    · rintro ⟨more, hmore, hlead⟩
      refine ⟨least + more, Nat.le_add_right _ _, ?_, hlead⟩
      rintro m ⟨⟩
      rw [roundsOf] at hmore
      omega
    · rintro ⟨count, hleast, hmost, hlead⟩
      have := hmost most rfl
      refine ⟨count - least, by rw [roundsOf]; omega, ?_⟩
      rwa [Nat.add_sub_cancel' hleast]
  | none =>
    constructor
    · rintro ⟨more, -, hlead⟩
      refine ⟨least + more, Nat.le_add_right _ _, ?_, hlead⟩
      intro m hm
      cases hm
    · rintro ⟨count, hleast, -, hlead⟩
      -- Copies that match nothing are left out of those after the least number.
      rw [← Nat.add_sub_cancel' hleast] at hlead
      obtain ⟨k, hfirst, hrest⟩ := hlead.split
      obtain ⟨more, hmore, hrest⟩ := hrest.shorten fun _ _ h => h.advances
      exact ⟨more, by rw [roundsOf]; omega, hfirst.append hrest⟩

mutual

/-- **Following places finds the ends of matches.** A place is an end exactly if some match leads to
it from one of the places at the start. -/
theorem mem_ends_iff (text : Array Char) :
    ∀ (n : Node) (places : List Nat) (j : Nat),
      j ∈ n.ends text places ↔ ∃ i ∈ places, Matches text n i j
  | .one set, places, j => by
    rw [Node.ends, List.mem_map]
    simp only [List.mem_filter, Option.any_eq_true, matches_one_iff]
    constructor
    · rintro ⟨i, ⟨hi, hset⟩, rfl⟩
      exact ⟨i, hi, rfl, hset⟩
    · rintro ⟨i, hi, rfl, hset⟩
      exact ⟨i, ⟨hi, hset⟩, rfl⟩
  | .look condition, places, j => by
    rw [Node.ends, List.mem_filter]
    simp only [matches_look_iff]
    constructor
    · rintro ⟨hj, hholds⟩
      exact ⟨j, hj, rfl, hholds⟩
    · rintro ⟨i, hi, rfl, hholds⟩
      exact ⟨hi, hholds⟩
  | .seq items, places, j => by
    rw [Node.ends, mem_endsInOrder_iff text items places j]
  | .alt options, places, j => by
    rw [Node.ends, mem_distinct, mem_endsOfAny_iff text options places j]
    simp only [matches_alt_iff]
  | .rep item least most, places, j => by
    simp only [mem_ends_rep_iff (mem_ends_iff text item), leads_iff_matches_rep]
  | .capture item, places, j => by
    rw [Node.ends, mem_ends_iff text item places j]
    simp only [matches_capture_iff]

theorem mem_endsInOrder_iff (text : Array Char) :
    ∀ (items : List Node) (places : List Nat) (j : Nat),
      j ∈ Node.endsInOrder text items places ↔ ∃ i ∈ places, Matches text (.seq items) i j
  | [], places, j => by
    rw [Node.endsInOrder]
    simp [matches_nil_iff]
  | n :: items, places, j => by
    rw [Node.endsInOrder, mem_endsInOrder_iff text items]
    simp only [mem_ends_iff text n, matches_cons_iff]
    constructor
    · rintro ⟨k, ⟨i, hi, hn⟩, hitems⟩
      exact ⟨i, hi, k, hn, hitems⟩
    · rintro ⟨i, hi, k, hn, hitems⟩
      exact ⟨k, ⟨i, hi, hn⟩, hitems⟩

theorem mem_endsOfAny_iff (text : Array Char) :
    ∀ (options : List Node) (places : List Nat) (j : Nat),
      j ∈ Node.endsOfAny text options places ↔
        ∃ i ∈ places, ∃ n ∈ options, Matches text n i j
  | [], places, j => by simp [Node.endsOfAny]
  | n :: options, places, j => by
    rw [Node.endsOfAny, List.mem_append, mem_ends_iff text n, mem_endsOfAny_iff text options]
    simp only [List.exists_mem_cons_iff, and_or_left, exists_or]

end

/-- A pattern is found in a text if some match starts at some place of it. -/
theorem matchesIn_iff {n : Node} {text : List Char} :
    n.matchesIn text = true ↔ ∃ i ≤ text.length, ∃ j, Matches text.toArray n i j := by
  have hends : n.matchesIn text = true ↔
      ∃ j, j ∈ n.ends text.toArray (List.range (text.length + 1)) := by
    rw [Node.matchesIn, Bool.not_eq_true', List.isEmpty_eq_false_iff_exists_mem]
  rw [hends]
  simp only [mem_ends_iff, List.mem_range, Nat.lt_succ_iff]
  constructor
  · rintro ⟨j, i, hi, h⟩
    exact ⟨i, hi, j, h⟩
  · rintro ⟨i, hi, j, h⟩
    exact ⟨j, i, hi, h⟩

end EntityProps.Pattern
