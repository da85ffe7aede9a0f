import EntityProps.Proofs.Records
import EntityProps.Proofs.Settings

/-!
# Written settings

Settings are made of characters, or read from a tree in which any of the characters
may be left out, or they are the standard ones. All three ways give the same settings
for the same characters (`Grammar.settings_normal_form`).

A tree gives the characters by the names of the fields or in their order
(`WrittenIn`). Fields are independent of each other: what is set for one is read of
the entry with its name alone (`GrammarSpec.setAll_eq_ok_iff`).
-/

namespace EntityProps

/-! ## Characters as they are written -/

/-- Grammar characters as they are written: any of them may be left out. -/
structure WrittenGrammar where
  separator : Option Char := none
  enclosers : Option (Char × Char) := none
  subSeparator : Option Char := none
  ignored : Option (List Char) := none

namespace WrittenGrammar

/-- The characters, and a comma, round brackets, a comma and a space for what is left out. -/
def spec (w : WrittenGrammar) : GrammarSpec where
  separator := w.separator.getD ','
  opening := (w.enclosers.getD ('(', ')')).1
  closing := (w.enclosers.getD ('(', ')')).2
  subSeparator := w.subSeparator.getD ','
  ignored := w.ignored.getD [' ']

/-- The same characters with nothing left out and no ignored character repeated. -/
def normal (w : WrittenGrammar) : WrittenGrammar where
  separator := some (w.separator.getD ',')
  enclosers := some (w.enclosers.getD ('(', ')'))
  subSeparator := some (w.subSeparator.getD ',')
  ignored := some (firstStands (w.ignored.getD [' ']))

/-- An entry for each field that is not left out, in the order of the fields. -/
def entries (w : WrittenGrammar) : Entries :=
  optionalEntry "property_separator" (w.separator.map fun c => .str (.singleton c)) ++
    optionalEntry "sub_property_enclosers"
      (w.enclosers.map fun p => .texts [.singleton p.1, .singleton p.2]) ++
    optionalEntry "sub_property_separator" (w.subSeparator.map fun c => .str (.singleton c)) ++
    optionalEntry "ignored_characters" (w.ignored.map fun cs => .str (.ofList cs))

end WrittenGrammar

def IsChar (d : Data) (c : Char) : Prop :=
  d = .str (.singleton c)

/-- A row of two characters. Some notations allow more behind them. -/
def AreEnclosers (dialect : Dialect) (d : Data) (p : Char × Char) : Prop :=
  ∃ a b rest, d = .list (a :: b :: rest) ∧ IsChar a p.1 ∧ IsChar b p.2 ∧
    (dialect = .json → rest = [])

def AreChars (d : Data) (cs : List Char) : Prop :=
  d = .str (.ofList cs)

/-- The fields have these values. -/
structure HasFields (dialect : Dialect) (field? : String → Option Data) (w : WrittenGrammar) :
    Prop where
  separator : Option.Rel IsChar (field? "property_separator") w.separator
  enclosers : Option.Rel (AreEnclosers dialect) (field? "sub_property_enclosers") w.enclosers
  subSeparator : Option.Rel IsChar (field? "sub_property_separator") w.subSeparator
  ignored : Option.Rel AreChars (field? "ignored_characters") w.ignored

/-- The tree holds these characters. -/
inductive WrittenIn (dialect : Dialect) : Data → WrittenGrammar → Prop
  | table {entries : Entries} {w : WrittenGrammar}
      (h : HasFields dialect (Data.table entries).get? w) : WrittenIn dialect (.table entries) w
  | row {items : List Data} {w : WrittenGrammar}
      (hlength : dialect = .json → items.length ≤ (GrammarSpec.record dialect).fields.length)
      (h : HasFields dialect (((GrammarSpec.record dialect).fields.zip items).lookup ·) w) :
      WrittenIn dialect (.list items) w
  | moment (text : String) : WrittenIn dialect (.moment text) {}

/-- A table in the tree does not have a key twice where the notation does not allow it. -/
def Data.KeysOnce (dialect : Dialect) : Data → Prop
  | .table entries => dialect.KeysOnce entries
  | _ => True

/-! ## Values of fields -/

section Values

variable {d : Data} {dialect : Dialect}

theorem asChar_eq_ok_iff {c : Char} : d.asChar = .ok c ↔ IsChar d c := by
  constructor
  · intro h
    cases d with
    | str s =>
      rw [Data.asChar] at h
      split at h
      · next x hs =>
        cases h
        show Data.str s = .str (.singleton c)
        rw [← String.ofList_toList (s := s), hs, String.singleton_eq_ofList]
      · cases h
    | _ => cases h
  · rintro rfl
    exact Data.asChar_singleton c

theorem asText_chars_eq_ok_iff {cs : List Char} :
    d.asText.map String.toList = .ok cs ↔ AreChars d cs := by
  rw [map_eq_ok_iff_exists]
  constructor
  · rintro ⟨s, h, rfl⟩
    cases d with
    | str s' =>
      cases h
      show Data.str s = .str (.ofList s.toList)
      rw [String.ofList_toList]
    | _ => cases h
  · rintro rfl
    exact ⟨_, rfl, String.toList_ofList⟩

theorem enclosersOfData_eq_ok_iff {p : Char × Char} :
    enclosersOfData dialect d = .ok p ↔ AreEnclosers dialect d p := by
  constructor
  · intro h
    unfold enclosersOfData at h
    split at h
    · next a b rest =>
      rw [bind_eq_ok_iff_exists] at h
      obtain ⟨opening, ha, h⟩ := h
      rw [bind_eq_ok_iff_exists] at h
      obtain ⟨closing, hb, h⟩ := h
      split at h
      · next hrest =>
        cases h
        refine ⟨a, b, rest, rfl, asChar_eq_ok_iff.mp ha, asChar_eq_ok_iff.mp hb, ?_⟩
        rintro rfl
        simpa [Dialect.toleratesRest] using hrest
      · cases h
    · cases h
  · rintro ⟨a, b, rest, rfl, ha, hb, hrest⟩
    have hallowed : dialect.toleratesRest = true ∨ rest.isEmpty = true := by
      cases dialect with
      | json => exact Or.inr (List.isEmpty_iff.mpr (hrest rfl))
      | toml => exact Or.inl rfl
    rw [enclosersOfData, bind_eq_ok_iff_exists]
    refine ⟨p.1, asChar_eq_ok_iff.mpr ha, ?_⟩
    rw [bind_eq_ok_iff_exists]
    exact ⟨p.2, asChar_eq_ok_iff.mpr hb, if_pos hallowed⟩

end Values

/-! ## Fields -/

/-- A field with the value that is read of an entry, or with its old value if there is no
entry. -/
def Sets {α : Type} (reads : Data → α → Prop) (d? : Option Data) (old new : α) : Prop :=
  ∃ value?, Option.Rel reads d? value? ∧ value?.getD old = new

section Fields

variable {α : Type} {reads : Data → α → Prop} {old new : α} {d : Data}

@[simp] theorem sets_none_iff : Sets reads none old new ↔ old = new := by
  constructor
  · rintro ⟨_, ⟨⟩, rfl⟩
    rfl
  · rintro rfl
    exact ⟨none, .none, rfl⟩

@[simp] theorem sets_some_iff : Sets reads (some d) old new ↔ reads d new := by
  constructor
  · rintro ⟨_, ⟨h⟩, rfl⟩
    exact h
  · intro h
    exact ⟨some new, .some h, rfl⟩

end Fields

namespace GrammarSpec

variable {dialect : Dialect} {l : Entries} {a b : GrammarSpec}

/-- Entries that do not repeat a key set each field by its own entry, and leave the others as
they were. -/
theorem setAll_eq_ok_iff (hl : (l.map (·.1)).Nodup) :
    (record dialect).setAll a l = .ok b ↔
      Sets IsChar (l.lookup "property_separator") a.separator b.separator ∧
      Sets (AreEnclosers dialect) (l.lookup "sub_property_enclosers") (a.opening, a.closing)
        (b.opening, b.closing) ∧
      Sets IsChar (l.lookup "sub_property_separator") a.subSeparator b.subSeparator ∧
      Sets AreChars (l.lookup "ignored_characters") a.ignored b.ignored := by
  induction l generalizing a with
  | nil =>
    obtain ⟨_, _, _, _, _⟩ := a
    obtain ⟨_, _, _, _, _⟩ := b
    simp [Record.setAll, pure, Except.pure, and_assoc]
  | cons e l ih =>
    obtain ⟨key, d⟩ := e
    obtain ⟨hfirst, hrest⟩ := List.nodup_cons.mp hl
    have hnone := Dialect.lookup_eq_none_of_notMem hfirst
    have hstep : (record dialect).setAll a ((key, d) :: l) = .ok b ↔
        ∃ a', (record dialect).set a key d = .ok a' ∧ (record dialect).setAll a' l = .ok b :=
      bind_eq_ok_iff_exists
    simp only [hstep, ih hrest, Dialect.lookup_cons_eq_ite]
    -- The entry is for one field, and no further one is.
    simp only [record]
    split
    · simp [map_eq_ok_iff_exists, hnone, asChar_eq_ok_iff]
    · simp [map_eq_ok_iff_exists, hnone, enclosersOfData_eq_ok_iff, and_left_comm]
    · simp [map_eq_ok_iff_exists, hnone, asChar_eq_ok_iff, and_left_comm]
    · simp [← asText_chars_eq_ok_iff, map_eq_ok_iff_exists, hnone, and_left_comm]
    · next h₁ h₂ h₃ h₄ => simp [Ne.symm h₁, Ne.symm h₂, Ne.symm h₃, Ne.symm h₄]

theorem fill_eq_ok_iff (hl : (l.map (·.1)).Nodup) :
    (record dialect).fill l = .ok b ↔ ∃ w, HasFields dialect (l.lookup ·) w ∧ w.spec = b := by
  have hfill : (record dialect).fill l = (record dialect).setAll {} l := by
    unfold Record.fill Record.setAll
    show (_ >>= fun a => Except.ok a) = _
    exact bind_pure _
  rw [hfill, setAll_eq_ok_iff hl]
  constructor
  · rintro ⟨⟨separator, h₁, hb₁⟩, ⟨enclosers, h₂, hb₂⟩, ⟨subSeparator, h₃, hb₃⟩,
      ⟨ignored, h₄, hb₄⟩⟩
    refine ⟨⟨separator, enclosers, subSeparator, ignored⟩, ⟨h₁, h₂, h₃, h₄⟩, ?_⟩
    have hpair : enclosers.getD ('(', ')') = (b.opening, b.closing) := hb₂
    unfold WrittenGrammar.spec
    rw [hpair]
    cases b
    cases hb₁
    cases hb₃
    cases hb₄
    rfl
  · rintro ⟨w, ⟨h₁, h₂, h₃, h₄⟩, rfl⟩
    exact ⟨⟨_, h₁, rfl⟩, ⟨_, h₂, rfl⟩, ⟨_, h₃, rfl⟩, ⟨_, h₄, rfl⟩⟩

theorem nodup_fields (dialect : Dialect) : (record dialect).fields.Nodup := by
  cases dialect <;> decide

theorem keys_zip_sublist (fields : List String) (items : List Data) :
    ((fields.zip items).map (·.1)).Sublist fields := by
  induction fields generalizing items with
  | nil => exact List.Sublist.refl _
  | cons key fields ih =>
    cases items with
    | nil => exact List.nil_sublist _
    | cons d items => exact (ih items).cons_cons key

theorem read_eq_ok_iff {d : Data} (hd : d.KeysOnce dialect) :
    (record dialect).read dialect d = .ok b ↔ ∃ w, WrittenIn dialect d w ∧ w.spec = b := by
  cases d with
  | table entries =>
    have hfields : ∀ w, HasFields dialect ((dialect.order entries).lookup ·) w ↔
        WrittenIn dialect (.table entries) w := by
      intro w
      rw [funext (Dialect.lookup_order hd)]
      constructor
      · exact .table
      · rintro ⟨h⟩
        exact h
    rw [Record.read, fill_eq_ok_iff (Dialect.KeysOnce.nodup_order hd)]
    simp only [hfields]
  | list items =>
    have hnodup := (nodup_fields dialect).sublist (keys_zip_sublist _ items)
    rw [Record.read, bind_eq_ok_iff_exists]
    constructor
    · rintro ⟨b', hfill, h⟩
      split at h
      · next hlength =>
        cases h
        obtain ⟨w, hw, rfl⟩ := (fill_eq_ok_iff hnodup).mp hfill
        refine ⟨w, .row ?_ hw, rfl⟩
        rintro rfl
        simpa [Dialect.toleratesRest] using hlength
      · cases h
    · rintro ⟨w, hw, rfl⟩
      cases hw with
      | row hlength hw =>
        refine ⟨_, (fill_eq_ok_iff hnodup).mpr ⟨w, hw, rfl⟩, if_pos ?_⟩
        cases dialect with
        | json => exact Or.inr (hlength rfl)
        | toml => exact Or.inl rfl
  | moment text =>
    have hread : (record dialect).read dialect (.moment text) = .ok {} := rfl
    rw [hread]
    constructor
    · rintro ⟨⟩
      exact ⟨{}, .moment text, rfl⟩
    · rintro ⟨w, ⟨⟩, rfl⟩
      rfl
  | _ =>
    constructor
    · rintro ⟨⟩
    · rintro ⟨w, ⟨⟩, _⟩

end GrammarSpec

/-! ## Settings -/

namespace Grammar

variable {dialect : Dialect} {d : Data} {w : WrittenGrammar} {g : Grammar} {spec : GrammarSpec}

/-- Settings are read of characters that can be read, exactly if they go together. -/
theorem ofData_of_writtenIn (hd : d.KeysOnce dialect) (hw : WrittenIn dialect d w) :
    ofData dialect d = (ofSpec w.spec).mapError .grammar := by
  have hread : (GrammarSpec.record dialect).read dialect d = .ok w.spec :=
    (GrammarSpec.read_eq_ok_iff hd).mpr ⟨w, hw, rfl⟩
  rw [ofData, hread]
  rfl

theorem exists_writtenIn_of_ofData (hd : d.KeysOnce dialect) (h : ofData dialect d = .ok g) :
    ∃ w, WrittenIn dialect d w ∧ ofSpec w.spec = .ok g := by
  obtain ⟨spec, hread, hspec⟩ := ofData_eq_ok_iff.mp h
  obtain ⟨w, hw, rfl⟩ := (GrammarSpec.read_eq_ok_iff hd).mp hread
  exact ⟨w, hw, hspec⟩

/-- The settings that a program can have. -/
inductive IsBuilt : Grammar → Prop
  | standard : IsBuilt standard
  | ofSpec {spec : GrammarSpec} {g : Grammar} (h : ofSpec spec = .ok g) : IsBuilt g
  | ofData {dialect : Dialect} {d : Data} {g : Grammar} (h : Grammar.ofData dialect d = .ok g) :
      IsBuilt g

theorem IsBuilt.exists_ofSpec (h : g.IsBuilt) : ∃ spec, Grammar.ofSpec spec = .ok g := by
  cases h with
  | standard => exact ⟨{}, ofSpec_eq_ok_iff.mpr rfl⟩
  | ofSpec h => exact ⟨_, h⟩
  | ofData h =>
    obtain ⟨spec, -, hspec⟩ := ofData_eq_ok_iff.mp h
    exact ⟨spec, hspec⟩

/-- These settings hold the characters, with repeats among the ignored ones left out. -/
structure IsNormal (g : Grammar) (spec : GrammarSpec) : Prop where
  separator : g.separator = spec.separator
  opening : g.opening = spec.opening
  closing : g.closing = spec.closing
  subSeparator : g.subSeparator = spec.subSeparator
  ignored : g.ignored = firstStands spec.ignored
  isIgnored : ∀ c, g.isIgnored c = true ↔ c ∈ spec.ignored

theorem isNormal_of_ofSpec (h : ofSpec spec = .ok g) : g.IsNormal spec := by
  have hg := ofSpec_eq_ok_iff.mp h
  refine ⟨by rw [hg]; rfl, by rw [hg]; rfl, by rw [hg]; rfl, by rw [hg]; rfl, ?_, ?_⟩
  · rw [hg, ← eraseDups_eq_firstStands]
    rfl
  · intro c
    rw [isIgnored, hg, GrammarSpec.distinct, List.contains_eq_mem, decide_eq_true_eq,
      List.mem_eraseDups]

/-! ## Settings as a tree -/

theorem rel_map {α β : Type} {R : β → α → Prop} {f : α → β} (h : ∀ a, R (f a) a)
    (a? : Option α) : Option.Rel R (a?.map f) a? := by
  cases a? with
  | none => exact .none
  | some a => exact .some (h a)

/-- The entries hold the characters that are not left out. -/
theorem writtenIn_entries (w : WrittenGrammar) : WrittenIn dialect (.table w.entries) w := by
  have hchar : ∀ c, IsChar (.str (.singleton c)) c := fun _ => rfl
  have hchars : ∀ cs, AreChars (.str (.ofList cs)) cs := fun _ => rfl
  have henclosers : ∀ p : Char × Char,
      AreEnclosers dialect (.texts [.singleton p.1, .singleton p.2]) p :=
    fun p => ⟨_, _, [], rfl, rfl, rfl, fun _ => rfl⟩
  have hfields : HasFields dialect (Data.table w.entries).get? w := by
    constructor
    · simpa [WrittenGrammar.entries, get?_table_append, get?_optionalEntry] using
        rel_map hchar w.separator
    · simpa [WrittenGrammar.entries, get?_table_append, get?_optionalEntry] using
        rel_map henclosers w.enclosers
    · simpa [WrittenGrammar.entries, get?_table_append, get?_optionalEntry] using
        rel_map hchar w.subSeparator
    · simpa [WrittenGrammar.entries, get?_table_append, get?_optionalEntry] using
        rel_map hchars w.ignored
  exact .table hfields

theorem keysOnce_entries (w : WrittenGrammar) : (Data.table w.entries).KeysOnce dialect := by
  intro _
  have hkeys : (w.entries.map (·.1)).Sublist (GrammarSpec.record dialect).fields := by
    simp only [WrittenGrammar.entries, List.map_append]
    exact ((((keys_optionalEntry _ _).append (keys_optionalEntry _ _)).append
      (keys_optionalEntry _ _)).append (keys_optionalEntry _ _))
  exact (GrammarSpec.nodup_fields dialect).sublist hkeys

/-- Settings are written with nothing left out. -/
def written (g : Grammar) : WrittenGrammar where
  separator := some g.separator
  enclosers := some (g.opening, g.closing)
  subSeparator := some g.subSeparator
  ignored := some g.ignored

theorem entries_written (g : Grammar) : g.written.entries = g.entries :=
  rfl

theorem IsNormal.written_eq (h : g.IsNormal w.spec) : g.written = w.normal := by
  unfold written
  rw [h.separator, h.opening, h.closing, h.subSeparator, h.ignored]
  rfl

theorem IsBuilt.nodup_ignored (h : g.IsBuilt) : g.ignored.Nodup := by
  obtain ⟨spec, hspec⟩ := h.exists_ofSpec
  rw [ofSpec_eq_ok_iff.mp hspec]
  exact nodup_eraseDups _

/-- Settings are read back of the tree that they are written as. -/
theorem IsBuilt.ofData_entries (h : g.IsBuilt) :
    Grammar.ofData dialect (.table g.entries) = .ok g := by
  obtain ⟨spec, hspec⟩ := h.exists_ofSpec
  have hwritten : WrittenIn dialect (.table g.entries) g.written := writtenIn_entries g.written
  have hkeys : (Data.table g.entries).KeysOnce dialect := keysOnce_entries g.written
  rw [ofData_of_writtenIn hkeys hwritten, mapError_eq_ok_iff]
  exact ofSpec_toGrammarSpec hspec

/-! ## The result -/

/-- **Settings have one normal form, however they are made.** Characters are settings exactly if
they go together, and repeats among the ignored ones are left out. What is read of a tree in which
characters may be left out are the settings with these characters and the defaults, or nothing
where there are no such settings. Settings are read back of what is written for them, and what is
written for settings that were read differs from what was read by defaults and repeats alone. So
all settings that a program can have go together. -/
theorem settings_normal_form (dialect : Dialect) :
    (∀ spec : GrammarSpec,
      ((∃ g, ofSpec spec = .ok g) ↔ spec.GoesTogether) ∧
        ∀ g, ofSpec spec = .ok g → g.IsNormal spec) ∧
    (∀ w : WrittenGrammar, (Data.table w.entries).KeysOnce dialect ∧
      WrittenIn dialect (.table w.entries) w) ∧
    (∀ d : Data, d.KeysOnce dialect →
      (∀ w, WrittenIn dialect d w →
        (∀ g, ofData dialect d = .ok g ↔ ofSpec w.spec = .ok g) ∧
        ∀ g, ofData dialect d = .ok g → g.entries = w.normal.entries) ∧
      ((∃ g, ofData dialect d = .ok g) → ∃ w, WrittenIn dialect d w)) ∧
    ∀ g : Grammar, g.IsBuilt → ofData dialect (.table g.entries) = .ok g ∧
      g.GoesTogether ∧ g.ignored.Nodup := by
  refine ⟨?_, ?_, ?_, ?_⟩
  · intro spec
    exact ⟨exists_ofSpec_iff, fun g => isNormal_of_ofSpec⟩
  · intro w
    exact ⟨keysOnce_entries w, writtenIn_entries w⟩
  · intro d hd
    constructor
    · intro w hw
      have hread : ∀ g, ofData dialect d = .ok g ↔ ofSpec w.spec = .ok g := by
        intro g
        rw [ofData_of_writtenIn hd hw, mapError_eq_ok_iff]
      refine ⟨hread, ?_⟩
      intro g hg
      have hnormal := isNormal_of_ofSpec ((hread g).mp hg)
      rw [← entries_written, hnormal.written_eq]
    · rintro ⟨g, hg⟩
      obtain ⟨w, hw, -⟩ := exists_writtenIn_of_ofData hd hg
      exact ⟨w, hw⟩
  · intro g hg
    exact ⟨hg.ofData_entries, GrammarSpec.goesTogether_iff_valid.mpr g.valid, hg.nodup_ignored⟩

/-- A repeated ignored character is kept once, and the other characters are the standard ones. -/
example : (Grammar.ofData .toml (.table [("ignored_characters", .str " \t ")])).map
    (·.toGrammarSpec) = .ok { ignored := [' ', '\t'] } := by
  rfl

end Grammar

end EntityProps
