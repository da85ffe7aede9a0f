import EntityProps.Config.Schema
import EntityProps.Proofs.Results
import Mathlib.Data.List.Induction
import Mathlib.Data.String.Basic

/-!
# Reading back records

What is written for each part of a configuration is read as this part: kinds,
declarations (`SimpleDecl.read_entries`, `ComplexDecl.read_entries`), rule sets and
grammar characters.

The fields of a record are set one after the other (`Record.setAll`), so a record is
read back when its entries set each field that differs from the default. A bound is
read back only if it fits in a signed integer of 64 bits (`ComplexDecl.Storable`).

What is read of a table depends on the last entry with each key alone, in whatever order
the entries are (`Dialect.lookup_order`).
-/

namespace EntityProps

/-! ## Values -/

namespace Data

theorem asList_map {α : Type} {read : Data → Except DataFault α} {write : α → Data} {l : List α}
    (h : ∀ a ∈ l, read (write a) = .ok a) : (list (l.map write)).asList read = .ok l := by
  rw [asList, mapM_eq_ok_iff_forall₂, List.forall₂_map_left_iff, List.forall₂_same]
  exact h

theorem asList_texts (l : List String) : (texts l).asList asText = .ok l :=
  asList_map fun _ _ => rfl

theorem asChar_singleton (c : Char) : (str (.singleton c)).asChar = .ok c := by
  rw [asChar, String.toList_singleton]

theorem asCount_nat {n : Nat} (h : n < 0x8000000000000000) : (nat n).asCount = .ok n := by
  rw [nat, asCount, if_pos]
  · rfl
  · omega

theorem asOption_nat {n : Nat} (h : n < 0x8000000000000000) :
    (nat n).asOption asCount = .ok (some n) := by
  have hsome : (nat n).asOption asCount = (nat n).asCount.map some := rfl
  rw [hsome, asCount_nat h, Except.map]

end Data

theorem Kind.ofData_data (kind : Kind) : Kind.ofData .toml kind.data = .ok kind := by
  cases kind <;> rfl

theorem Data.asList_kinds (l : List Kind) :
    (list (l.map Kind.data)).asList (Kind.ofData .toml) = .ok l :=
  asList_map fun kind _ => Kind.ofData_data kind

/-! ## The order of entries -/

namespace Dialect
variable {key : String} {d : Data} {l : Entries}

theorem lookup_cons_eq_ite (k key : String) (d : Data) (l : Entries) :
    ((key, d) :: l).lookup k = if k = key then some d else l.lookup k := by
  rw [List.lookup_cons]
  by_cases hk : k = key
  · simp [hk]
  · simp [hk, beq_false_of_ne hk]

theorem lookup_insertSorted (k : String) :
    (insertSorted key d l).lookup k = if k = key then some d else l.lookup k := by
  induction l with
  | nil => rw [insertSorted, lookup_cons_eq_ite]
  | cons e l ih =>
    obtain ⟨k₀, x⟩ := e
    rw [insertSorted]
    split
    · rw [lookup_cons_eq_ite]
    · split
      · next heq =>
        subst heq
        rw [lookup_cons_eq_ite, lookup_cons_eq_ite]
        by_cases hk : k = key <;> simp [hk]
      · next hne =>
        rw [lookup_cons_eq_ite, lookup_cons_eq_ite, ih]
        by_cases hk : k = k₀
        · subst hk
          simp [Ne.symm hne]
        · simp [hk]

theorem keys_insertSorted {k : String} (hk : k ∈ (insertSorted key d l).map (·.1)) :
    k = key ∨ k ∈ l.map (·.1) := by
  induction l with
  | nil => simpa [insertSorted] using hk
  | cons e l ih =>
    obtain ⟨k₀, x⟩ := e
    rw [insertSorted] at hk
    split at hk
    · simpa using hk
    · split at hk
      · next heq =>
        subst heq
        exact Or.inr hk
      · rw [List.map_cons, List.mem_cons] at hk
        rcases hk with rfl | hk
        · simp
        · rcases ih hk with h | h
          · exact Or.inl h
          · exact Or.inr (List.mem_cons_of_mem _ h)

theorem pairwise_insertSorted (hl : (l.map (·.1)).Pairwise (· < ·)) :
    ((insertSorted key d l).map (·.1)).Pairwise (· < ·) := by
  induction l with
  | nil => exact List.pairwise_singleton _ _
  | cons e l ih =>
    obtain ⟨k₀, x⟩ := e
    have ⟨hfirst, hrest⟩ := List.pairwise_cons.mp hl
    rw [insertSorted]
    split
    · next hlt =>
      refine List.pairwise_cons.mpr ⟨?_, hl⟩
      intro k hk
      rcases List.mem_cons.mp hk with rfl | hk
      · exact hlt
      · exact lt_trans hlt (hfirst k hk)
    · next hnlt =>
      split
      · next heq =>
        subst heq
        exact hl
      · next hne =>
        refine List.pairwise_cons.mpr ⟨?_, ih hrest⟩
        intro k hk
        rcases keys_insertSorted hk with rfl | hk
        · exact lt_of_le_of_ne (not_lt.mp hnlt) (Ne.symm hne)
        · exact hfirst k hk


theorem order_append_singleton (l : Entries) :
    json.order (l ++ [(key, d)]) = insertSorted key d (json.order l) := by
  rw [order, List.foldl_append]
  rfl

/-- A table is read by its last entries. -/
theorem lookup_order_json (l : Entries) (k : String) :
    (json.order l).lookup k = (Data.table l).get? k := by
  induction l using List.reverseRecOn with
  | nil => rfl
  | append_singleton l e ih =>
    obtain ⟨key, d⟩ := e
    rw [order_append_singleton, lookup_insertSorted, ih, Data.get?, Data.get?,
      List.reverse_append, List.reverse_singleton, List.singleton_append]
    by_cases hk : k = key
    · subst hk
      simp
    · simp [hk, Ne.symm hk]

theorem pairwise_order_json (l : Entries) :
    ((json.order l).map (·.1)).Pairwise (· < ·) := by
  induction l using List.reverseRecOn with
  | nil => exact List.Pairwise.nil
  | append_singleton l e ih =>
    rw [order_append_singleton]
    exact pairwise_insertSorted ih

theorem lookup_eq_none_of_notMem (h : key ∉ l.map (·.1)) : l.lookup key = none := by
  rw [List.lookup_eq_none_iff]
  intro e he
  rw [bne_iff_ne]
  rintro rfl
  exact h (List.mem_map_of_mem he)

theorem lookup_eq_get? (h : (l.map (·.1)).Nodup) (k : String) :
    l.lookup k = (Data.table l).get? k := by
  induction l with
  | nil => rfl
  | cons e l ih =>
    obtain ⟨key, d⟩ := e
    obtain ⟨hfirst, hrest⟩ := List.nodup_cons.mp h
    rw [lookup_cons_eq_ite, ih hrest]
    by_cases hk : k = key
    · have hnone := ih hrest
      subst hk
      rw [lookup_eq_none_of_notMem hfirst, Data.get?, eq_comm, Option.map_eq_none_iff] at hnone
      rw [if_pos rfl, Data.get?, List.reverse_cons, List.find?_append, hnone]
      simp
    · rw [if_neg hk, Data.get?, Data.get?, List.reverse_cons, List.find?_append]
      simp [Ne.symm hk]

theorem nodup_order_json (l : Entries) : ((json.order l).map (·.1)).Nodup :=
  (pairwise_order_json l).imp fun h => ne_of_lt h

/-- A table does not have a key twice where the notation does not allow it. -/
def KeysOnce (dialect : Dialect) (l : Entries) : Prop :=
  dialect = .toml → (l.map (·.1)).Nodup

variable {dialect : Dialect}

theorem KeysOnce.nodup_order (h : dialect.KeysOnce l) : ((dialect.order l).map (·.1)).Nodup := by
  cases dialect with
  | json => exact nodup_order_json l
  | toml => exact h rfl

/-- What is read of a table for a key is its last entry. -/
theorem lookup_order (h : dialect.KeysOnce l) (k : String) :
    (dialect.order l).lookup k = (Data.table l).get? k := by
  cases dialect with
  | json => exact lookup_order_json l k
  | toml => exact lookup_eq_get? (h rfl) k

end Dialect

/-! ## Entries that may be absent -/

theorem mem_optionalEntry_iff {key : String} {d? : Option Data} {e : String × Data} :
    e ∈ optionalEntry key d? ↔ ∃ d, d? = some d ∧ e = (key, d) := by
  cases d? <;> simp [optionalEntry]

theorem keys_optionalEntry (key : String) (d? : Option Data) :
    ((optionalEntry key d?).map (·.1)).Sublist [key] := by
  cases d? with
  | none => exact List.nil_sublist _
  | some d => exact List.Sublist.refl _

theorem get?_optionalEntry (key : String) (d? : Option Data) (k : String) :
    (Data.table (optionalEntry key d?)).get? k = if key = k then d? else none := by
  cases d? with
  | none => exact (ite_self none).symm
  | some d => by_cases hk : key = k <;> simp [optionalEntry, Data.get?, hk]

/-- The last entry with a key is looked for behind first. -/
theorem get?_table_append (l l' : Entries) (k : String) :
    (Data.table (l ++ l')).get? k = ((Data.table l').get? k).or ((Data.table l).get? k) := by
  simp only [Data.get?, List.reverse_append, List.find?_append, Option.map_or]

/-! ## Records -/

namespace Record

variable {α : Type} {r : Record α} {entries entries' : Entries} {a a' : α}

/-- Sets the fields of these entries in order. -/
def setAll (r : Record α) (a : α) (entries : Entries) : Except DataFault α :=
  entries.foldlM (fun a e => r.set a e.1 e.2) a

theorem setAll_append (h : r.setAll a entries = .ok a') :
    r.setAll a (entries ++ entries') = r.setAll a' entries' := by
  rw [setAll] at h
  rw [setAll, List.foldlM_append, h]
  rfl

theorem setAll_singleton {key : String} {d : Data} : r.setAll a [(key, d)] = r.set a key d := by
  rw [setAll, List.foldlM_cons]
  cases r.set a key d <;> rfl

/-- A record is read from entries that set its fields. -/
theorem read_table (hset : r.setAll r.default entries = .ok a)
    (hrequired : ∀ key ∈ r.required, key ∈ entries.map (·.1)) :
    r.read .toml (.table entries) = .ok a := by
  have hall : (r.required.all fun key => entries.any (·.1 == key)) = true := by
    rw [List.all_eq_true]
    intro key hkey
    obtain ⟨e, he, rfl⟩ := List.mem_map.mp (hrequired key hkey)
    exact List.any_eq_true.mpr ⟨e, he, beq_self_eq_true _⟩
  rw [setAll] at hset
  rw [Record.read, Record.fill, Dialect.order, hset]
  simp [bind, Except.bind, hall]

theorem fill_induction {P : α → Prop} (hdefault : P r.default)
    (hset : ∀ a key d a', P a → r.set a key d = .ok a' → P a') (h : r.fill entries = .ok a) :
    P a := by
  rw [fill, bind_eq_ok_iff_exists] at h
  obtain ⟨a', hfold, h⟩ := h
  split at h
  · cases h
    exact foldlM_induction (fun a e a' => hset a e.1 e.2 a') hdefault hfold
  · cases h

/-- What holds of the default and is kept by every field holds of every record that is read. -/
theorem read_induction {P : α → Prop} (hdefault : P r.default)
    (hset : ∀ a key d a', P a → r.set a key d = .ok a' → P a') {dialect : Dialect} {d : Data}
    (h : r.read dialect d = .ok a) : P a := by
  cases d with
  | table entries => exact fill_induction hdefault hset h
  | moment text => exact fill_induction hdefault hset h
  | list items =>
    rw [read, bind_eq_ok_iff_exists] at h
    obtain ⟨a', hfill, h⟩ := h
    split at h
    · cases h
      exact fill_induction hdefault hset hfill
    · cases h
  | _ => cases h

end Record

theorem SimpleDecl.read_entries (r : SimpleDecl) :
    (SimpleDecl.record .toml).read .toml (.table r.entries) = .ok r := by
  refine Record.read_table ?_ ?_
  · simp [Record.setAll, SimpleDecl.entries, SimpleDecl.record, SimpleDecl.set, bind, Except.bind,
      Except.map, Data.asList_kinds, Data.asList_texts, Data.asText, Data.asBool, pure, Except.pure]
  · simp [SimpleDecl.record, SimpleDecl.entries]

namespace ComplexDecl

/-- The bounds fit in signed integers of 64 bits. -/
structure Storable (r : ComplexDecl) : Prop where
  least : r.minSubs < 0x8000000000000000
  most : ∀ n, r.maxSubs = some n → n < 0x8000000000000000

theorem setAll_simple (s : SimpleDecl) :
    (record .toml).setAll (record .toml).default s.entries = .ok { s with } := by
  simp [Record.setAll, SimpleDecl.entries, record, SimpleDecl.set, bind, Except.bind, Except.map,
    Data.asList_kinds, Data.asList_texts, Data.asText, Data.asBool, pure, Except.pure]

variable {r : ComplexDecl}

theorem setAll_minSubs {n : Nat} (h : n < 0x8000000000000000) :
    (record .toml).setAll r [("min_subs", .nat n)] = .ok { r with minSubs := n } := by
  have hset : ∀ d : Data, (record .toml).set r "min_subs" d =
      d.asCount.map fun n => { r with minSubs := n } := fun _ => rfl
  rw [Record.setAll_singleton, hset, Data.asCount_nat h, Except.map]

theorem setAll_maxSubs {most : Option Nat} (hr : r.maxSubs = none)
    (h : ∀ n, most = some n → n < 0x8000000000000000) :
    (record .toml).setAll r (optionalEntry "max_subs" (most.map .nat)) =
      .ok { r with maxSubs := most } := by
  cases most with
  | none => exact congrArg Except.ok (by rw [← hr])
  | some n =>
    have hset : ∀ d : Data, (record .toml).set r "max_subs" d =
        (d.asOption Data.asCount).map fun n => { r with maxSubs := n } := fun _ => rfl
    rw [Option.map_some, optionalEntry, Record.setAll_singleton, hset, Data.asOption_nat (h n rfl),
      Except.map]

theorem setAll_subPattern {pattern : Option String} (hr : r.subPattern = none) :
    (record .toml).setAll r (optionalEntry "sub_pattern" (pattern.map .str)) =
      .ok { r with subPattern := pattern } := by
  cases pattern with
  | none => exact congrArg Except.ok (by rw [← hr])
  | some text =>
    rw [Option.map_some, optionalEntry, Record.setAll_singleton]
    rfl

theorem read_entries (h : r.Storable) :
    (record .toml).read .toml (.table r.entries) = .ok r := by
  refine Record.read_table ?_ ?_
  · rw [entries, List.append_assoc, List.append_assoc, Record.setAll_append (setAll_simple _),
      Record.setAll_append (setAll_minSubs h.least),
      Record.setAll_append (setAll_maxSubs rfl h.most), setAll_subPattern rfl]
  · simp [record, entries, SimpleDecl.entries]

end ComplexDecl

theorem RuleSets.read_entries (r : RuleSets) :
    RuleSets.record.read .toml (.table r.entries) = .ok r := by
  refine Record.read_table ?_ ?_
  · simp [Record.setAll, RuleSets.entries, RuleSets.record, bind, Except.bind, Except.map,
      Data.asBool, pure, Except.pure]
  · simp [RuleSets.record]

theorem Grammar.ofData_eq_ok_iff {dialect : Dialect} {d : Data} {g : Grammar} :
    Grammar.ofData dialect d = .ok g ↔
      ∃ spec, (GrammarSpec.record dialect).read dialect d = .ok spec ∧
        Grammar.ofSpec spec = .ok g := by
  simp only [Grammar.ofData, bind_eq_ok_iff_exists, mapError_eq_ok_iff]

theorem GrammarSpec.read_entries (g : Grammar) :
    (GrammarSpec.record .toml).read .toml (.table g.entries) = .ok g.toGrammarSpec := by
  refine Record.read_table ?_ ?_
  · simp [Record.setAll, Grammar.entries, GrammarSpec.record, enclosersOfData, Data.texts,
      Data.asChar_singleton, bind, Except.bind, Except.map, Data.asText, pure, Except.pure,
      Dialect.toleratesRest]
  · simp [GrammarSpec.record]

end EntityProps
