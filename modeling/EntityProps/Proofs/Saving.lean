import EntityProps.Config.File
import EntityProps.Proofs.Directory
import EntityProps.Proofs.Records
import EntityProps.Proofs.Settings
import EntityProps.Proofs.Toml.Document

/-!
# Saving configurations

Saving a configuration and loading it again loses nothing
(`Config.load_of_save`), whatever the texts in it are. What is written has the
entries of the configuration, some of them in another order, and reading does not
depend on their order (`Config.ofData_perm`).

A configuration cannot be written only if a bound does not fit in a signed integer
of 64 bits (`Config.toToml?_eq_none_iff`). Its grammar is taken to be one that
settings give, as is that of every configuration that can be read
(`Config.hasSettings_of_ofData`).
-/

namespace EntityProps

open Toml

variable {c c₀ : Config} {entries : Entries}

/-! ## Reading the parts of a configuration -/

namespace Config

/-- The grammar is one that settings give, as every grammar that a program can have: no ignored
character is in it twice. -/
def HasSettings (c : Config) : Prop :=
  ∃ g, Grammar.ofSpec g = .ok c.grammar

theorem hasSettings_default : HasSettings {} :=
  ⟨{}, Grammar.ofSpec_eq_ok_iff.mpr rfl⟩

theorem exists_ofSpec_of_ofData {dialect : Dialect} {d : Data} {g : Grammar}
    (h : Grammar.ofData dialect d = .ok g) : ∃ spec, Grammar.ofSpec spec = .ok g := by
  obtain ⟨spec, -, hspec⟩ := Grammar.ofData_eq_ok_iff.mp h
  exact ⟨spec, hspec⟩

/-- Every configuration that can be read has a grammar that settings give. -/
theorem hasSettings_of_ofData {dialect : Dialect} {d : Data} (h : ofData dialect d = .ok c) :
    c.HasSettings := by
  refine Record.read_induction (r := record dialect) hasSettings_default ?_ h
  intro c₀ key d c₁ hc₀ hset
  simp only [record] at hset
  split at hset
  · obtain ⟨g, hg, rfl⟩ := map_eq_ok_iff_exists.mp hset
    exact exists_ofSpec_of_ofData hg
  · obtain ⟨r, -, rfl⟩ := map_eq_ok_iff_exists.mp hset
    exact hc₀
  · obtain ⟨rs, -, rfl⟩ := map_eq_ok_iff_exists.mp hset
    exact hc₀
  · obtain ⟨rs, -, rfl⟩ := map_eq_ok_iff_exists.mp hset
    exact hc₀
  · cases hset
    exact hc₀

/-- Every bound on the number of sub-properties fits in a signed integer of 64 bits. -/
def IsStorable (c : Config) : Prop :=
  ∀ r ∈ c.complexRules, r.Storable

def withPart (c c₀ : Config) (key : String) : Config :=
  match key with
  | "grammar" => { c₀ with grammar := c.grammar }
  | "rules" => { c₀ with rules := c.rules }
  | "simple_rules" => { c₀ with simpleRules := c.simpleRules }
  | "complex_rules" => { c₀ with complexRules := c.complexRules }
  | _ => c₀

theorem ofData_grammar (h : c.HasSettings) :
    Grammar.ofData .toml (.table c.grammar.entries) = .ok c.grammar := by
  obtain ⟨g, hg⟩ := h
  rw [Grammar.ofData, GrammarSpec.read_entries]
  simp [bind, Except.bind, Grammar.ofSpec_toGrammarSpec hg, Except.mapError]

theorem asList_simpleRules (c : Config) :
    (Data.list (c.simpleRules.map fun r => .table r.entries)).asList
      ((SimpleDecl.record .toml).read .toml) = .ok c.simpleRules :=
  Data.asList_map fun r _ => r.read_entries

theorem asList_complexRules (h : c.IsStorable) :
    (Data.list (c.complexRules.map fun r => .table r.entries)).asList
      ((ComplexDecl.record .toml).read .toml) = .ok c.complexRules :=
  Data.asList_map fun r hr => ComplexDecl.read_entries (h r hr)

theorem set_entry (hgrammar : c.HasSettings) (hbounds : c.IsStorable) {e : String × Data}
    (he : e ∈ c.entries) : (record .toml).set c₀ e.1 e.2 = .ok (c.withPart c₀ e.1) := by
  simp only [Config.entries, List.mem_cons, List.not_mem_nil, or_false] at he
  rcases he with rfl | rfl | rfl | rfl
  · simp [record, ofData_grammar hgrammar, withPart, Except.map]
  · simp [record, RuleSets.read_entries, withPart, Except.map]
  · simp [record, asList_simpleRules, withPart, Except.map]
  · simp [record, asList_complexRules hbounds, withPart, Except.map]

theorem setAll_entries (hgrammar : c.HasSettings) (hbounds : c.IsStorable) {l : Entries}
    (hl : ∀ e ∈ l, e ∈ c.entries) :
    (record .toml).setAll c₀ l = .ok (l.foldl (fun c₀ e => c.withPart c₀ e.1) c₀) := by
  induction l generalizing c₀ with
  | nil => rfl
  | cons e l ih =>
    have hfirst : (record .toml).setAll c₀ [e] = .ok (c.withPart c₀ e.1) := by
      rw [Record.setAll_singleton, set_entry hgrammar hbounds (hl e List.mem_cons_self)]
    rw [← List.singleton_append, Record.setAll_append hfirst,
      ih fun x hx => hl x (List.mem_cons_of_mem e hx)]
    rfl

theorem withPart_comm {e e' : String × Data} (he : e ∈ c.entries) (he' : e' ∈ c.entries) :
    c.withPart (c.withPart c₀ e.1) e'.1 = c.withPart (c.withPart c₀ e'.1) e.1 := by
  simp only [Config.entries, List.mem_cons, List.not_mem_nil, or_false] at he he'
  rcases he with rfl | rfl | rfl | rfl <;> rcases he' with rfl | rfl | rfl | rfl <;> rfl

/-- A configuration is read from its entries, in whatever order they are. -/
theorem ofData_perm (hgrammar : c.HasSettings) (hbounds : c.IsStorable) {l : Entries}
    (hl : l.Perm c.entries) : ofData .toml (.table l) = .ok c := by
  refine Record.read_table ?_ (fun key hkey => absurd hkey List.not_mem_nil)
  rw [setAll_entries hgrammar hbounds fun e he => hl.mem_iff.mp he,
    hl.foldl_eq' fun e he e' he' _ => withPart_comm (hl.mem_iff.mp he) (hl.mem_iff.mp he')]
  rfl

/-! ## What a configuration is written as -/

theorem isFlat_texts (l : List String) : IsFlat (.texts l) := by
  refine .list fun d hd => ?_
  obtain ⟨s, -, rfl⟩ := List.mem_map.mp hd
  exact .str s

theorem isFlat_kinds (l : List Kind) : IsFlat (.list (l.map Kind.data)) := by
  refine .list fun d hd => ?_
  obtain ⟨kind, -, rfl⟩ := List.mem_map.mp hd
  exact .str _

theorem arePairs_grammar (g : Grammar) : ArePairs g.entries := by
  refine arePairs_of_fields (GrammarSpec.record .toml).fields (by decide) (by decide)
    (List.Sublist.refl _) ?_
  simp only [Grammar.entries, List.forall_mem_cons, List.not_mem_nil, false_imp_iff, implies_true,
    and_true]
  exact ⟨.scalar (.str _), isFlat_texts _, .scalar (.str _), .scalar (.str _)⟩

theorem arePairs_rules (r : RuleSets) : ArePairs r.entries := by
  refine arePairs_of_fields RuleSets.record.fields (by decide) (by decide)
    (List.Sublist.refl _) ?_
  simp only [RuleSets.entries, List.forall_mem_cons, List.not_mem_nil, false_imp_iff, implies_true,
    and_true]
  exact ⟨.scalar (.bool _), .scalar (.bool _)⟩

theorem isFlat_simple (r : SimpleDecl) : ∀ e ∈ r.entries, IsFlat e.2 := by
  simp only [SimpleDecl.entries, List.forall_mem_cons, List.not_mem_nil, false_imp_iff,
    implies_true, and_true]
  exact ⟨.scalar (.str _), .scalar (.str _), isFlat_kinds _, .scalar (.bool _), isFlat_texts _,
    isFlat_texts _⟩

theorem arePairs_simple (r : SimpleDecl) : ArePairs r.entries :=
  arePairs_of_fields SimpleDecl.fields (by decide) (by decide) (List.Sublist.refl _)
    (isFlat_simple r)

theorem arePairs_complex (r : ComplexDecl) : ArePairs r.entries := by
  refine arePairs_of_fields (ComplexDecl.record .toml).fields (by decide) (by decide) ?_ ?_
  · simp only [ComplexDecl.entries, List.map_append]
    exact (((List.Sublist.refl _).append (List.Sublist.refl _)).append
      (keys_optionalEntry "max_subs" _)).append (keys_optionalEntry "sub_pattern" _)
  · intro e he
    simp only [ComplexDecl.entries, List.mem_append, List.mem_singleton, mem_optionalEntry_iff,
      Option.map_eq_some_iff] at he
    rcases he with ((he | rfl) | ⟨_, ⟨n, -, rfl⟩, rfl⟩) | ⟨_, ⟨s, -, rfl⟩, rfl⟩
    · exact isFlat_simple r.toSimpleDecl e he
    · exact .scalar (.int _)
    · exact .scalar (.int _)
    · exact .scalar (.str _)

/-- A list of declarations is one of tables, or an empty list on a line. -/
theorem isEntry_tables {α : Type} {key : String} (hkey : IsBareKey key) {write : α → Entries}
    (hwrite : ∀ a, ArePairs (write a)) (l : List α) :
    IsEntry (key, .list (l.map fun a => .table (write a))) := by
  cases l with
  | nil => exact .flat hkey (.list fun _ hd => absurd hd List.not_mem_nil)
  | cons a l =>
    have hsection : IsSection (key, .list (((a :: l).map write).map .table)) :=
      .tables hkey (by simp) (by simp [hwrite])
    rw [List.map_map] at hsection
    exact .deep hsection

theorem isEntry_entries (c : Config) : ∀ e ∈ c.entries, IsEntry e := by
  simp only [Config.entries, List.forall_mem_cons, List.not_mem_nil, false_imp_iff, implies_true,
    and_true]
  exact ⟨.deep (.table (by decide) (arePairs_grammar _)),
    .deep (.table (by decide) (arePairs_rules _)),
    isEntry_tables (by decide) arePairs_simple _, isEntry_tables (by decide) arePairs_complex _⟩

theorem nodup_keys (c : Config) : (c.entries.map (·.1)).Nodup := by
  have hfields : ((record .toml).fields).Nodup := by decide
  exact hfields

theorem isDocument_entries (c : Config) : IsDocument c.entries :=
  ⟨c.isEntry_entries, c.nodup_keys⟩

/-! ## What cannot be written -/

theorem overflows_nat_iff {n : Nat} : Overflows (.nat n) ↔ ¬ n < 0x8000000000000000 := by
  have hn : isStorable n = false ↔ ¬ n < 0x8000000000000000 := by
    rw [isStorable, decide_eq_false_iff_not]
    omega
  rw [← hn]
  exact ⟨fun h => by cases h; assumption, .int⟩

theorem not_overflows_str (s : String) : ¬ Overflows (.str s) := by
  intro h
  cases h

theorem not_overflows_bool (b : Bool) : ¬ Overflows (.bool b) := by
  intro h
  cases h

theorem not_overflows_texts (l : List String) : ¬ Overflows (.texts l) := by
  rw [Data.texts, overflows_list_iff]
  rintro ⟨d, hd, h⟩
  obtain ⟨s, -, rfl⟩ := List.mem_map.mp hd
  exact not_overflows_str s h

theorem not_overflows_kinds (l : List Kind) : ¬ Overflows (.list (l.map Kind.data)) := by
  rw [overflows_list_iff]
  rintro ⟨d, hd, h⟩
  obtain ⟨kind, -, rfl⟩ := List.mem_map.mp hd
  exact not_overflows_str _ h

theorem not_overflows_grammar (g : Grammar) : ¬ Overflows (.table g.entries) := by
  rw [overflows_table_iff]
  simp only [Grammar.entries, List.exists_mem_cons_iff, List.not_mem_nil, false_and, exists_false,
    or_false, not_or]
  exact ⟨not_overflows_str _, not_overflows_texts _, not_overflows_str _, not_overflows_str _⟩

theorem not_overflows_rules (r : RuleSets) : ¬ Overflows (.table r.entries) := by
  rw [overflows_table_iff]
  simp only [RuleSets.entries, List.exists_mem_cons_iff, List.not_mem_nil, false_and, exists_false,
    or_false, not_or]
  exact ⟨not_overflows_bool _, not_overflows_bool _⟩

theorem not_overflows_simple (r : SimpleDecl) : ¬ ∃ e ∈ r.entries, Overflows e.2 := by
  simp only [SimpleDecl.entries, List.exists_mem_cons_iff, List.not_mem_nil, false_and,
    exists_false, or_false, not_or]
  exact ⟨not_overflows_str _, not_overflows_str _, not_overflows_kinds _, not_overflows_bool _,
    not_overflows_texts _, not_overflows_texts _⟩

theorem overflows_complex_iff (r : ComplexDecl) :
    Overflows (.table r.entries) ↔ ¬ r.Storable := by
  rw [overflows_table_iff]
  constructor
  · rintro ⟨e, he, h⟩ hstorable
    simp only [ComplexDecl.entries, List.mem_append, List.mem_singleton, mem_optionalEntry_iff,
      Option.map_eq_some_iff] at he
    rcases he with ((he | rfl) | ⟨_, ⟨n, hn, rfl⟩, rfl⟩) | ⟨_, ⟨s, -, rfl⟩, rfl⟩
    · exact not_overflows_simple r.toSimpleDecl ⟨e, he, h⟩
    · exact overflows_nat_iff.mp h hstorable.least
    · exact overflows_nat_iff.mp h (hstorable.most n hn)
    · exact not_overflows_str s h
  · intro hstorable
    by_contra hnone
    refine hstorable ⟨?_, fun n hn => ?_⟩
    · by_contra hleast
      refine hnone ⟨("min_subs", .nat r.minSubs), ?_, overflows_nat_iff.mpr hleast⟩
      simp [ComplexDecl.entries]
    · by_contra hmost
      refine hnone ⟨("max_subs", .nat n), ?_, overflows_nat_iff.mpr hmost⟩
      simp [ComplexDecl.entries, mem_optionalEntry_iff, hn]

/-- **A configuration is not written only for a bound that does not fit.** -/
theorem toToml?_eq_none_iff : c.toToml? = none ↔ ¬ c.IsStorable := by
  have hsimple : ¬ Overflows (.list (c.simpleRules.map fun r => .table r.entries)) := by
    simp only [overflows_list_iff, List.mem_map, exists_exists_and_eq_and, overflows_table_iff]
    rintro ⟨r, -, h⟩
    exact not_overflows_simple r h
  rw [toToml?, write?_eq_none_iff c.isDocument_entries]
  simp only [Config.entries, List.exists_mem_cons_iff, List.not_mem_nil, false_and, exists_false,
    or_false, not_overflows_grammar, not_overflows_rules, hsimple, false_or, overflows_list_iff,
    List.mem_map, exists_exists_and_eq_and, overflows_complex_iff, IsStorable, not_forall,
    exists_prop]

/-- What is written for a configuration is read as this configuration. -/
theorem ofToml_of_toToml? (hgrammar : c.HasSettings) {text : String} (h : c.toToml? = some text) :
    ofToml text = .ok c := by
  have hbounds : c.IsStorable := by
    by_contra hbounds
    rw [toToml?_eq_none_iff.mpr hbounds] at h
    cases h
  rw [ofToml, read?_of_write? c.isDocument_entries h]
  exact ofData_perm hgrammar hbounds (perm_parts c.entries)

theorem load_of_look {files : Files} {path text : String} (h : files path = .text text)
    (hread : ofToml text = .ok c) : load files path = .ok c := by
  rw [load, loadText, h, FileState.content]
  simp [bind, Except.bind, Except.mapError, hread]

/-! ## Saving and loading -/

section Attempts

variable {d d' : Directory} {path text : String}

/-- Saving goes on from the directory as it is once the text is made. -/
theorem saving_of_toToml? (htext : c.toToml? = some text) (d : Directory) (path : String) :
    c.saving path d = (match d.write path text with
      | .ok d' => set d'
      | .error fault => throw (.unwritable fault) : ExceptT SaveFault (StateM Directory) Unit) d := by
  rw [saving, htext]
  rfl

theorem saving_of_write (htext : c.toToml? = some text) (hwrite : d.write path text = .ok d') :
    c.saving path d = (.ok (), d') := by
  rw [saving_of_toToml? htext, hwrite]
  rfl

theorem saving_of_write_error (htext : c.toToml? = some text) {fault : FileFault}
    (hwrite : d.write path text = .error fault) :
    c.saving path d = (.error (.unwritable fault), d) := by
  rw [saving_of_toToml? htext, hwrite]
  rfl

theorem saving_of_unstorable (htext : c.toToml? = none) (d : Directory) (path : String) :
    c.saving path d = (.error .bounds, d) := by
  rw [saving, htext]
  rfl

theorem save_eq_mapError (htext : c.toToml? = some text) (d : Directory) (path : String) :
    c.save d path = (d.write path text).mapError .unwritable := by
  rw [save]
  cases hwrite : d.write path text with
  | ok d' => rw [saving_of_write htext hwrite]; rfl
  | error fault => rw [saving_of_write_error htext hwrite]; rfl

end Attempts

/-- The directory after an attempt to save a configuration, with all that the attempt has changed
until it failed. -/
def afterSave (c : Config) (d : Directory) (path : String) : Directory :=
  (c.saving path d).2

/-- **Saving and loading loses nothing.** A configuration whose bounds fit is written as a text
from which it is read back, and once it is saved in a file, it is loaded from this file. If a
bound does not fit, nothing is saved and all files are as they were. -/
theorem load_of_save (hgrammar : c.HasSettings) :
    (c.IsStorable → ∃ text, c.toToml? = some text ∧ ofToml text = .ok c ∧
      ∀ d path, c.save d path = (d.write path text).mapError .unwritable ∧
        ∀ d', c.save d path = .ok d' → c.afterSave d path = d' ∧ load d'.look path = .ok c) ∧
    (¬ c.IsStorable → ∀ d path, c.save d path = .error .bounds ∧
      (c.afterSave d path).look = d.look) := by
  constructor
  · intro hbounds
    obtain ⟨text, htext⟩ : ∃ text, c.toToml? = some text := by
      rw [← Option.ne_none_iff_exists', ne_eq, toToml?_eq_none_iff, not_not]
      exact hbounds
    have hread := ofToml_of_toToml? hgrammar htext
    refine ⟨text, htext, hread, fun d path => ⟨save_eq_mapError htext d path, fun d' hd' => ?_⟩⟩
    rw [save_eq_mapError htext, mapError_eq_ok_iff] at hd'
    refine ⟨?_, load_of_look (Directory.look_of_write hd') hread⟩
    rw [afterSave, saving_of_write htext hd']
  · intro hbounds d path
    have hsaving := saving_of_unstorable (toToml?_eq_none_iff.mpr hbounds) d path
    constructor
    · rw [save, hsaving]
    · rw [afterSave, hsaving]

end Config

namespace Saved

/-- A configuration with quotes, line breaks and control characters in its texts. -/
def quoted : Config where
  simpleRules := [{ name := "say \"hi\"\n\\", description := "\x01", entities := [.field] }]
  complexRules := [{ name := "", minSubs := 1, maxSubs := some 2, subPattern := some "'''\t[é]" }]

/-- A configuration with a bound that does not fit. -/
def unbounded : Config where
  complexRules := [{ name := "C", maxSubs := some 0x8000000000000000 }]

/-- A directory with an older configuration and another file beside it. -/
def around : Directory :=
  .ofFiles [("conf/props.toml", "old"), ("conf/notes", "x")]

end Saved

theorem load_of_save_quoted_unbounded :
    Saved.quoted.HasSettings ∧ Saved.unbounded.HasSettings ∧
      (∃ d, Saved.quoted.save Saved.around "conf/props.toml" = .ok d ∧
        Config.load d.look "conf/props.toml" = .ok Saved.quoted ∧
        d.look "conf/notes" = .text "x") ∧
      ∀ d path, Saved.unbounded.save d path = .error .bounds := by
  have hquoted : Saved.quoted.HasSettings := ⟨{}, Grammar.ofSpec_eq_ok_iff.mpr rfl⟩
  have hunbounded : Saved.unbounded.HasSettings := ⟨{}, Grammar.ofSpec_eq_ok_iff.mpr rfl⟩
  have hstorable : Saved.quoted.IsStorable := by
    intro r hr
    obtain rfl := List.mem_singleton.mp hr
    exact ⟨by decide, by simp⟩
  have hoverflows : ¬ Saved.unbounded.IsStorable := fun h => by
    have := (h _ List.mem_cons_self).most _ rfl
    omega
  obtain ⟨text, htext, hread, hround⟩ := (Config.load_of_save hquoted).1 hstorable
  obtain ⟨hsave, hload⟩ := hround Saved.around "conf/props.toml"
  have hwrite : Saved.around.write "conf/props.toml" text =
      .ok (Saved.around.put ["conf", "props.toml"] text) := rfl
  rw [hwrite] at hsave
  refine ⟨hquoted, hunbounded, ⟨_, hsave, (hload _ hsave).2, rfl⟩, fun d path => ?_⟩
  exact ((Config.load_of_save hunbounded).2 hoverflows d path).1

end EntityProps
