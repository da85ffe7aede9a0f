import EntityProps.Proofs.Toml.Statements

/-!
# Documents

A document whose keys are bare and whose values are flat or tables of flat values
(`IsDocument`) is read back (`read?_of_write?`): the table that is read has the
entries of the table that was written, those without a header first, in their order.

A text of lines is read as statements, and the statements build the table section
by section: each adds a key that is not there yet (`addSections_section`), or an
element behind those that its key has (`addSections_elements`).

A document cannot be written only for an integer out of range
(`write?_eq_none_iff`).
-/

namespace EntityProps.Toml

variable {text cs : List Char} {key : String} {d : Data} {es : Entries} {s : Statement}
  {ss : List Statement}

/-! ## Building the table -/

namespace Members

variable {m : Members} {n : Node}

theorem find?_eq_none_iff : m.find? key = none ↔ key ∉ m.map (·.1) := by
  induction m with
  | nil => simp [find?]
  | cons e m ih =>
    rw [find?, List.map_cons, List.mem_cons, not_or]
    split
    · next h => simp [h]
    · next h => rw [ih, and_iff_right (Ne.symm h)]

theorem find?_append_cons (h : key ∉ m.map (·.1)) : find? (m ++ [(key, n)]) key = some n := by
  induction m with
  | nil => simp [find?]
  | cons e m ih =>
    rw [List.map_cons, List.mem_cons, not_or] at h
    rw [List.cons_append, find?, if_neg (Ne.symm h.1), ih h.2]

theorem put_of_not_mem (h : key ∉ m.map (·.1)) : m.put key n = m ++ [(key, n)] := by
  induction m with
  | nil => rfl
  | cons e m ih =>
    rw [List.map_cons, List.mem_cons, not_or] at h
    rw [put, if_neg (Ne.symm h.1), ih h.2, List.cons_append]

theorem put_append_cons {n' : Node} (h : key ∉ m.map (·.1)) :
    put (m ++ [(key, n)]) key n' = m ++ [(key, n')] := by
  induction m with
  | nil => simp [put]
  | cons e m ih =>
    rw [List.map_cons, List.mem_cons, not_or] at h
    rw [List.cons_append, put, if_neg (Ne.symm h.1), ih h.2, List.cons_append]

theorem assign_of_not_mem (h : key ∉ m.map (·.1)) :
    m.assign ⟨[], key⟩ d = some (m ++ [(key, .value d)]) := by
  rw [assign, within, assign.add, find?_eq_none_iff.mpr h]
  simp

end Members

/-- The members that entries on lines of their own give a table. -/
def membersOf (es : Entries) : Members :=
  es.map fun e => (e.1, .value e.2)

def pairsOf (es : Entries) : List (Key × Data) :=
  es.map fun e => (⟨[], e.1⟩, e.2)

theorem assignAll_pairsOf {m : Members} (h : (m.map (·.1) ++ es.map (·.1)).Nodup) :
    m.assignAll (pairsOf es) = some (m ++ membersOf es) := by
  induction es generalizing m with
  | nil => simp [Members.assignAll, pairsOf, membersOf]
  | cons e es ih =>
    have hfresh : e.1 ∉ m.map (·.1) := fun hmem =>
      (List.nodup_append.mp h).2.2 e.1 hmem e.1 List.mem_cons_self rfl
    have hrest := ih (m := m ++ [(e.1, .value e.2)]) (by simpa using h)
    have hassign := Members.assign_of_not_mem (d := e.2) hfresh
    simp only [Members.assignAll, pairsOf, membersOf, List.map_cons, List.foldlM_cons, hassign,
      Option.bind_eq_bind, Option.bind_some] at hrest ⊢
    rw [hrest, List.append_assoc, List.singleton_append]

theorem dataOfMembers_eq_map (m : Members) :
    dataOfMembers m = m.map fun e => (e.1, e.2.data) := by
  induction m with
  | nil => rw [dataOfMembers, List.map_nil]
  | cons e m ih => rw [dataOfMembers, ih, List.map_cons]

theorem dataOfMembers_membersOf (es : Entries) : dataOfMembers (membersOf es) = es := by
  rw [dataOfMembers_eq_map, membersOf, List.map_map]
  refine List.map_id'' (fun e => ?_) es
  rw [Function.comp_apply, Node.data]

/-! ### Empty lines -/

theorem spanPairs_counts (ss : List Statement) :
    spanPairs (ss.filter (·.counts)) =
      ((spanPairs ss).1, (spanPairs ss).2.filter (·.counts)) := by
  induction ss with
  | nil => rfl
  | cons s ss ih =>
    cases s with
    | blank => exact ih
    | pair key d =>
      rw [List.filter_cons_of_pos rfl, spanPairs, spanPairs, ih]
    | table key => rfl
    | element key => rfl

theorem addSections_counts (m : Members) (ss : List Statement) :
    addSections m (ss.filter (·.counts)) = addSections m ss := by
  induction ss generalizing m with
  | nil => rfl
  | cons s ss ih =>
    cases s with
    | blank => exact ih m
    | pair key d => exact ih m
    | table key =>
      rw [List.filter_cons_of_pos rfl, addSections, addSections, spanPairs_counts]
      simp only [ih]
    | element key =>
      rw [List.filter_cons_of_pos rfl, addSections, addSections, spanPairs_counts]
      simp only [ih]

/-- Empty lines say nothing. -/
theorem build_counts (ss : List Statement) : build (ss.filter (·.counts)) = build ss := by
  rw [build, build, spanPairs_counts]
  simp only [addSections_counts]

/-! ### Sections -/

/-- The statements of entries on lines of their own. -/
def pairStatements (es : Entries) : List Statement :=
  es.map fun e => .pair ⟨[], e.1⟩ e.2

theorem spanPairs_pairStatements (es : Entries) (ss : List Statement) :
    spanPairs (pairStatements es ++ ss) = (pairsOf es ++ (spanPairs ss).1, (spanPairs ss).2) := by
  induction es with
  | nil => rfl
  | cons e es ih =>
    rw [pairStatements, List.map_cons, List.cons_append, spanPairs]
    rw [pairStatements] at ih
    rw [ih]
    rfl

theorem addSections_pairStatements (m : Members) (es : Entries) (ss : List Statement) :
    addSections m (pairStatements es ++ ss) = addSections m ss := by
  induction es with
  | nil => rfl
  | cons e es ih => exact ih

/-- Entries of a table that stand on lines of their own. -/
structure ArePairs (es : Entries) : Prop where
  bare : ∀ e ∈ es, IsBareKey e.1
  flat : ∀ e ∈ es, IsFlat e.2
  nodup : (es.map (·.1)).Nodup

/-- Entries whose keys are among known fields, in the order of those. -/
theorem arePairs_of_fields (fields : List String) (hbare : ∀ key ∈ fields, IsBareKey key)
    (hnodup : fields.Nodup) (hkeys : (es.map (·.1)).Sublist fields)
    (hflat : ∀ e ∈ es, IsFlat e.2) : ArePairs es where
  bare e he := hbare e.1 (hkeys.subset (List.mem_map_of_mem he))
  flat := hflat
  nodup := hnodup.sublist hkeys

theorem ArePairs.assignAll (h : ArePairs es) :
    Members.assignAll [] (pairsOf es) = some (membersOf es) :=
  assignAll_pairsOf (m := []) (by simpa using h.nodup)

theorem ArePairs.areLinesOf (h : ArePairs es) (hcs : pairsChars? es = some cs) :
    AreLinesOf cs (pairStatements es) := by
  rw [pairsChars?, Option.map_eq_some_iff] at hcs
  obtain ⟨lines, hlines, rfl⟩ := hcs
  obtain ⟨hbare, hflat, -⟩ := h
  have hall := mapM_eq_some_iff_forall₂.mp hlines
  clear hlines
  induction hall with
  | nil => exact .nil
  | @cons e line es lines hline _ ih =>
    have hpair := isLineOf_pair (hbare e List.mem_cons_self) (hflat e List.mem_cons_self) hline
    exact .cons hpair rfl (ih (fun x hx => hbare x (List.mem_cons_of_mem e hx))
      fun x hx => hflat x (List.mem_cons_of_mem e hx))

theorem ArePairs.areLinesOf_section (h : ArePairs es) {opening closing : List Char}
    (hheader : IsLineOf (opening ++ key.toList ++ closing ++ ['\n']) s) (hs : s.counts = true)
    (hcs : sectionChars? opening closing key es = some cs) :
    AreLinesOf cs (s :: pairStatements es) := by
  rw [sectionChars?, Option.map_eq_some_iff] at hcs
  obtain ⟨lines, hlines, rfl⟩ := hcs
  have hsection := AreLinesOf.cons hheader hs (h.areLinesOf hlines)
  simpa using hsection

/-- An entry with a header: a table, or a list of tables. -/
inductive IsSection : String × Data → Prop
  | table {key : String} {es : Entries} (hkey : IsBareKey key) (h : ArePairs es) :
      IsSection (key, .table es)
  | tables {key : String} {ts : List Entries} (hkey : IsBareKey key) (hne : ts ≠ [])
      (h : ∀ es ∈ ts, ArePairs es) : IsSection (key, .list (ts.map .table))

/-- The statements of the section of an element. -/
def elementStatements (key : String) : Data → List Statement
  | .table es => .element ⟨[], key⟩ :: pairStatements es
  | _ => []

/-- The statements of the sections of an entry. -/
def sectionStatements : String × Data → List (List Statement)
  | (key, .table es) => [.table ⟨[], key⟩ :: pairStatements es]
  | (key, .list items) => items.map (elementStatements key)
  | _ => []

def elementMembers : Data → Members
  | .table es => membersOf es
  | _ => []

/-- What the key of an entry with a header leads to. -/
def sectionNode : Data → Node
  | .table es => .table .stated (membersOf es)
  | .list items => .tables (items.map elementMembers)
  | d => .value d

variable {e : String × Data} {m : Members}

theorem dataOfElements_map (ts : List Entries) :
    dataOfElements ((ts.map .table).map elementMembers) = ts.map .table := by
  induction ts with
  | nil => rw [List.map_nil, List.map_nil, dataOfElements]
  | cons t ts ih =>
    rw [List.map_cons, List.map_cons, dataOfElements, ih, elementMembers,
      dataOfMembers_membersOf]

theorem sectionNode_data (h : IsSection e) : (sectionNode e.2).data = e.2 := by
  cases h with
  | table _ h => rw [sectionNode, Node.data, dataOfMembers_membersOf]
  | tables => rw [sectionNode, Node.data, dataOfElements_map]

theorem areLinesOf_section (h : IsSection e) {blocks : List (List Char)}
    (hblocks : sectionsChars? e = some blocks) :
    List.Forall₂ AreLinesOf blocks (sectionStatements e) := by
  cases h with
  | table hkey h =>
    rw [sectionsChars?, Option.map_eq_some_iff] at hblocks
    obtain ⟨block, hblock, rfl⟩ := hblocks
    exact .cons (h.areLinesOf_section (isLineOf_table hkey) rfl hblock) .nil
  | @tables key ts hkey hne h =>
    have helements := mapM_eq_some_iff_forall₂.mp hblocks
    rw [List.forall₂_map_left_iff] at helements
    have hboth := (List.forall₂_and_left _ _).mpr ⟨h, helements⟩
    rw [sectionStatements, List.map_map, List.forall₂_map_right_iff]
    refine hboth.flip.imp ?_
    rintro block es ⟨hes, hblock⟩
    exact hes.areLinesOf_section (isLineOf_element hkey) rfl hblock

theorem spanPairs_section (h : IsSection e) (ss : List Statement) :
    spanPairs ((sectionStatements e).flatten ++ ss) = ([], (sectionStatements e).flatten ++ ss) := by
  cases h with
  | table => rfl
  | @tables key ts hkey hne h =>
    obtain ⟨t, ts, rfl⟩ := List.exists_cons_of_ne_nil hne
    rfl

theorem addTable_fresh (hfresh : key ∉ m.map (·.1)) (h : ArePairs es) :
    m.addTable ⟨[], key⟩ (pairsOf es) = some (m ++ [(key, .table .stated (membersOf es))]) := by
  rw [Members.addTable, Members.within, Members.addTable.add,
    Members.find?_eq_none_iff.mpr hfresh, h.assignAll]
  rfl

theorem addElement_fresh (hfresh : key ∉ m.map (·.1)) (h : ArePairs es) :
    m.addElement ⟨[], key⟩ (pairsOf es) = some (m ++ [(key, .tables [membersOf es])]) := by
  rw [Members.addElement, Members.within, Members.addElement.add,
    Members.find?_eq_none_iff.mpr hfresh, h.assignAll, Option.map_some,
    Members.put_of_not_mem hfresh]

theorem addElement_last (hfresh : key ∉ m.map (·.1)) (h : ArePairs es) (ts : List Members) :
    Members.addElement (m ++ [(key, .tables ts)]) ⟨[], key⟩ (pairsOf es) =
      some (m ++ [(key, .tables (ts ++ [membersOf es]))]) := by
  rw [Members.addElement, Members.within, Members.addElement.add,
    Members.find?_append_cons hfresh, h.assignAll]
  simp only [Option.map_some, Members.put_append_cons hfresh]

theorem spanPairs_pairStatements_section (hss : (spanPairs ss).1 = []) :
    (spanPairs (pairStatements es ++ ss)).1 = pairsOf es := by
  rw [spanPairs_pairStatements, hss, List.append_nil]

theorem addSections_table {m' : Members} (hss : (spanPairs ss).1 = [])
    (h : m.addTable ⟨[], key⟩ (pairsOf es) = some m') :
    addSections m (.table ⟨[], key⟩ :: pairStatements es ++ ss) = addSections m' ss := by
  rw [List.cons_append, addSections, spanPairs_pairStatements_section hss, h]
  exact addSections_pairStatements m' es ss

theorem addSections_element {m' : Members} (hss : (spanPairs ss).1 = [])
    (h : m.addElement ⟨[], key⟩ (pairsOf es) = some m') :
    addSections m (.element ⟨[], key⟩ :: pairStatements es ++ ss) = addSections m' ss := by
  rw [List.cons_append, addSections, spanPairs_pairStatements_section hss, h]
  exact addSections_pairStatements m' es ss

theorem spanPairs_elements (hss : (spanPairs ss).1 = []) (ts : List Entries) :
    (spanPairs ((ts.map .table).flatMap (elementStatements key) ++ ss)).1 = [] := by
  cases ts with
  | nil => exact hss
  | cons t ts => rfl

/-- Further elements come after those that the key leads to already. -/
theorem addSections_elements (hfresh : key ∉ m.map (·.1)) {ts : List Entries}
    (h : ∀ es ∈ ts, ArePairs es) (hss : (spanPairs ss).1 = []) (done : List Members) :
    addSections (m ++ [(key, .tables done)])
        ((ts.map .table).flatMap (elementStatements key) ++ ss) =
      addSections (m ++ [(key, .tables (done ++ (ts.map .table).map elementMembers))]) ss := by
  -- After the first of them, the key leads to one element more.
  induction ts generalizing done with
  | nil => simp
  | cons t ts ih =>
    have hlast := addElement_last hfresh (h t List.mem_cons_self) done
    rw [List.map_cons, List.flatMap_cons, List.append_assoc, elementStatements,
      addSections_element (spanPairs_elements hss ts) hlast,
      ih (fun x hx => h x (List.mem_cons_of_mem t hx)), List.append_assoc]
    rfl

theorem addSections_section (h : IsSection e) (hfresh : e.1 ∉ m.map (·.1))
    (hss : (spanPairs ss).1 = []) :
    addSections m ((sectionStatements e).flatten ++ ss) =
      addSections (m ++ [(e.1, sectionNode e.2)]) ss := by
  cases h with
  | @table key es hkey h =>
    rw [sectionStatements, List.flatten_singleton]
    exact addSections_table hss (addTable_fresh hfresh h)
  | @tables key ts hkey hne h =>
    obtain ⟨t, ts, rfl⟩ := List.exists_cons_of_ne_nil hne
    have hfirst := addElement_fresh hfresh (h t List.mem_cons_self)
    rw [sectionStatements, ← List.flatMap_def, List.map_cons, List.flatMap_cons,
      List.append_assoc, elementStatements,
      addSections_element (spanPairs_elements hss ts) hfirst,
      addSections_elements hfresh (fun x hx => h x (List.mem_cons_of_mem t hx)) hss]
    rfl

/-! ## Documents -/

theorem spanPairs_sections {deep : Entries} (h : ∀ e ∈ deep, IsSection e) :
    (spanPairs (deep.flatMap sectionStatements).flatten).1 = [] := by
  cases deep with
  | nil => rfl
  | cons e deep =>
    rw [List.flatMap_cons, List.flatten_append, spanPairs_section (h e List.mem_cons_self)]

/-- The entries with a header are added one after the other. -/
theorem addSections_sections {deep : Entries} (h : ∀ e ∈ deep, IsSection e)
    (hkeys : (m.map (·.1) ++ deep.map (·.1)).Nodup) :
    addSections m (deep.flatMap sectionStatements).flatten =
      some (m ++ deep.map fun e => (e.1, sectionNode e.2)) := by
  induction deep generalizing m with
  | nil => simp [addSections]
  | cons e deep ih =>
    have hfresh : e.1 ∉ m.map (·.1) := fun hmem =>
      (List.nodup_append.mp hkeys).2.2 e.1 hmem e.1 List.mem_cons_self rfl
    have hrest : ∀ x ∈ deep, IsSection x := fun x hx => h x (List.mem_cons_of_mem e hx)
    rw [List.flatMap_cons, List.flatten_append,
      addSections_section (h e List.mem_cons_self) hfresh (spanPairs_sections hrest),
      ih hrest (by simpa using hkeys), List.append_assoc]
    rfl

/-- The table that the statements of a document build. -/
theorem build_document {flat deep : Entries} (hflat : ArePairs flat)
    (hdeep : ∀ e ∈ deep, IsSection e) (hkeys : (flat.map (·.1) ++ deep.map (·.1)).Nodup) :
    build (pairStatements flat ++ (deep.flatMap sectionStatements).flatten) =
      some (membersOf flat ++ deep.map fun e => (e.1, sectionNode e.2)) := by
  have hmembers : (membersOf flat).map (·.1) = flat.map (·.1) := by
    rw [membersOf, List.map_map]
    rfl
  rw [build, spanPairs_pairStatements, spanPairs_sections hdeep, List.append_nil,
    hflat.assignAll]
  simp only [Option.bind_eq_bind, Option.bind_some]
  rw [addSections_pairStatements, addSections_sections hdeep (by rwa [hmembers])]

theorem dataOfMembers_document {flat deep : Entries} (hdeep : ∀ e ∈ deep, IsSection e) :
    dataOfMembers (membersOf flat ++ deep.map fun e => (e.1, sectionNode e.2)) =
      flat ++ deep := by
  have hnodes : (deep.map fun e => (e.1, (sectionNode e.2).data)) = deep := by
    refine (List.map_congr_left fun e he => ?_).trans (List.map_id deep)
    rw [sectionNode_data (hdeep e he)]
    rfl
  have hflat := dataOfMembers_membersOf flat
  rw [dataOfMembers_eq_map] at hflat ⊢
  rw [List.map_append, hflat, List.map_map]
  exact congrArg (flat ++ ·) hnodes

/-- An entry that a document can hold: a flat value on a line, or sections. -/
inductive IsEntry : String × Data → Prop
  | flat {key : String} {d : Data} (hkey : IsBareKey key) (hd : IsFlat d) : IsEntry (key, d)
  | deep {e : String × Data} (h : IsSection e) : IsEntry e

/-- The entries of a document, no two of one key. -/
structure IsDocument (entries : Entries) : Prop where
  entry : ∀ e ∈ entries, IsEntry e
  nodup : (entries.map (·.1)).Nodup

theorem isSection_of_isFlat (hd : IsFlat d) : isSection (key, d) = false := by
  cases hd with
  | scalar hd => cases hd <;> rfl
  | @list items hitems =>
    cases items with
    | nil => rfl
    | cons x items =>
      cases hitems x List.mem_cons_self <;> rfl

theorem IsSection.isSection (h : IsSection e) : Toml.isSection e = true := by
  cases h with
  | table => rfl
  | @tables key ts hkey hne h =>
    obtain ⟨t, ts, rfl⟩ := List.exists_cons_of_ne_nil hne
    rfl

section Written

variable {entries : Entries}

theorem IsDocument.arePairs_flat (h : IsDocument entries) :
    ArePairs (entries.filter (!isSection ·)) := by
  have hflat : ∀ e ∈ entries.filter (!isSection ·), IsBareKey e.1 ∧ IsFlat e.2 := by
    intro e he
    obtain ⟨he, hsection⟩ := List.mem_filter.mp he
    cases h.entry e he with
    | flat hkey hd => exact ⟨hkey, hd⟩
    | deep hdeep => simp [hdeep.isSection] at hsection
  exact ⟨fun e he => (hflat e he).1, fun e he => (hflat e he).2,
    h.nodup.sublist (List.filter_sublist.map _)⟩

theorem IsDocument.isSection_deep (h : IsDocument entries) :
    ∀ e ∈ entries.filter isSection, IsSection e := by
  intro e he
  obtain ⟨he, hsection⟩ := List.mem_filter.mp he
  cases h.entry e he with
  | flat hkey hd => simp [isSection_of_isFlat hd] at hsection
  | deep hdeep => exact hdeep

theorem perm_parts (entries : Entries) :
    (entries.filter (!isSection ·) ++ entries.filter isSection).Perm entries :=
  List.perm_append_comm.trans (List.filter_append_perm isSection entries)

theorem IsDocument.nodup_parts (h : IsDocument entries) :
    ((entries.filter (!isSection ·)).map (·.1) ++ (entries.filter isSection).map (·.1)).Nodup := by
  rw [← List.map_append]
  exact ((perm_parts entries).map (·.1)).nodup_iff.mpr h.nodup

/-- The lines of a document: its entries without a header, then its sections. -/
theorem IsDocument.areLinesOf {text : String} (h : IsDocument entries)
    (hwrite : write? entries = some text) :
    AreLinesOf text.toList (pairStatements (entries.filter (!isSection ·)) ++
      ((entries.filter isSection).flatMap sectionStatements).flatten) := by
  simp only [write?, List.partition_eq_filter_filter, Option.bind_eq_bind,
    Option.bind_eq_some_iff, Option.some.injEq] at hwrite
  obtain ⟨pairs, hpairs, sections, hsections, rfl⟩ := hwrite
  have hflat := h.arePairs_flat.areLinesOf hpairs
  have hdeep : List.Forall₂ AreLinesOf sections.flatten
      ((entries.filter isSection).flatMap sectionStatements) := by
    have hall := (List.forall₂_and_left _ _).mpr
      ⟨h.isSection_deep, mapM_eq_some_iff_forall₂.mp hsections⟩
    rw [List.flatMap_def]
    refine List.rel_flatten (List.forall₂_map_right_iff.mpr (hall.flip.imp ?_))
    rintro blocks e ⟨he, hblocks⟩
    exact areLinesOf_section he hblocks
  rw [String.toList_ofList]
  split
  · next hempty =>
    rw [List.isEmpty_iff.mp hempty] at hflat
    exact hflat.append (areLinesOf_intercalate hdeep)
  · exact areLinesOf_intercalate (.cons hflat hdeep)

theorem AreLinesOf.withoutMark_eq (h : AreLinesOf text ss) : withoutMark text = text := by
  rw [withoutMark]
  rintro rest rfl
  generalize hmarked : '\ufeff' :: rest = marked at h
  cases h with
  | nil => cases hmarked
  | blank => simp at hmarked
  | cons hs =>
    obtain ⟨c, more, rfl, -, hc⟩ := hs.starts
    exact hc (List.cons.inj hmarked).1.symm

/-- **A document is read back:** the table of its entries, those without a header first. -/
theorem read?_of_write? {text : String} (h : IsDocument entries)
    (hwrite : write? entries = some text) :
    read? text = some (.table (entries.filter (!isSection ·) ++ entries.filter isSection)) := by
  have hlines := h.areLinesOf hwrite
  obtain ⟨statements, hread, hstatements⟩ :=
    readStatements_lines hlines ('\n' :: text.toList) (Nat.lt_succ_self _)
  have hbuild := build_document h.arePairs_flat h.isSection_deep h.nodup_parts
  rw [← hstatements, build_counts] at hbuild
  simp only [read?, hlines.withoutMark_eq, hread, hbuild, Option.bind_eq_bind, Option.bind_some,
    dataOfMembers_document h.isSection_deep]

/-! ## What cannot be written -/

/-- Somewhere in the tree an integer is out of range. -/
inductive Overflows : Data → Prop
  | int {n : Int} (h : isStorable n = false) : Overflows (.int n)
  | item {items : List Data} {d : Data} (hd : d ∈ items) (h : Overflows d) :
      Overflows (.list items)
  | entry {entries : Entries} {e : String × Data} (he : e ∈ entries) (h : Overflows e.2) :
      Overflows (.table entries)

theorem overflows_list_iff {items : List Data} :
    Overflows (.list items) ↔ ∃ d ∈ items, Overflows d := by
  constructor
  · rintro (_ | ⟨hd, h⟩)
    exact ⟨_, hd, h⟩
  · rintro ⟨d, hd, h⟩
    exact .item hd h

theorem overflows_table_iff : Overflows (.table es) ↔ ∃ e ∈ es, Overflows e.2 := by
  constructor
  · rintro (_ | _ | ⟨he, h⟩)
    exact ⟨_, he, h⟩
  · rintro ⟨e, he, h⟩
    exact .entry he h

theorem scalarChars?_eq_none_iff (hd : IsScalar d) : scalarChars? d = none ↔ Overflows d := by
  cases hd with
  | bool value =>
    constructor
    · cases value <;> simp [scalarChars?]
    · rintro ⟨⟩
  | int n =>
    constructor
    · intro h
      refine .int ?_
      simpa [scalarChars?] using h
    · rintro ⟨h⟩
      simp [scalarChars?, h]
  | str text =>
    constructor
    · simp [scalarChars?]
    · rintro ⟨⟩

theorem valueChars?_eq_none_iff (hd : IsFlat d) : valueChars? d = none ↔ Overflows d := by
  cases hd with
  | scalar hd => rw [valueChars?_scalar hd, scalarChars?_eq_none_iff hd]
  | @list items hitems =>
    rw [valueChars?, Option.map_eq_none_iff, mapM_eq_none_iff, overflows_list_iff]
    exact exists_congr fun d => and_congr_right fun hd => scalarChars?_eq_none_iff (hitems d hd)

theorem pairsChars?_eq_none_iff (h : ArePairs es) :
    pairsChars? es = none ↔ ∃ e ∈ es, Overflows e.2 := by
  rw [pairsChars?, Option.map_eq_none_iff, mapM_eq_none_iff]
  refine exists_congr fun e => and_congr_right fun he => ?_
  rw [pairChars?, Option.map_eq_none_iff, valueChars?_eq_none_iff (h.flat e he)]

theorem sectionsChars?_eq_none_iff (h : IsSection e) :
    sectionsChars? e = none ↔ Overflows e.2 := by
  cases h with
  | table hkey h =>
    rw [sectionsChars?, Option.map_eq_none_iff, sectionChars?, Option.map_eq_none_iff,
      pairsChars?_eq_none_iff h, overflows_table_iff]
  | @tables key ts hkey hne h =>
    rw [sectionsChars?, mapM_eq_none_iff, overflows_list_iff]
    simp only [List.mem_map, exists_exists_and_eq_and]
    refine exists_congr fun es => and_congr_right fun hes => ?_
    rw [elementChars?, sectionChars?, Option.map_eq_none_iff, pairsChars?_eq_none_iff (h es hes),
      overflows_table_iff]

/-- **Only an integer out of range keeps a document from being written.** -/
theorem write?_eq_none_iff (h : IsDocument entries) :
    write? entries = none ↔ ∃ e ∈ entries, Overflows e.2 := by
  have hpairs := pairsChars?_eq_none_iff h.arePairs_flat
  have hsections : (entries.filter isSection).mapM sectionsChars? = none ↔
      ∃ e ∈ entries.filter isSection, Overflows e.2 := by
    rw [mapM_eq_none_iff]
    exact exists_congr fun e => and_congr_right fun he =>
      sectionsChars?_eq_none_iff (h.isSection_deep e he)
  have hparts : write? entries = none ↔ pairsChars? (entries.filter (!isSection ·)) = none ∨
      (entries.filter isSection).mapM sectionsChars? = none := by
    simp only [write?, List.partition_eq_filter_filter, Function.comp_def]
    cases pairsChars? (entries.filter (!isSection ·)) with
    | none => simp
    | some pairs => cases (entries.filter isSection).mapM sectionsChars? <;> simp
  rw [hparts, hpairs, hsections]
  constructor
  · rintro (⟨e, he, hoverflows⟩ | ⟨e, he, hoverflows⟩)
    · exact ⟨e, List.mem_of_mem_filter he, hoverflows⟩
    · exact ⟨e, List.mem_of_mem_filter he, hoverflows⟩
  · rintro ⟨e, he, hoverflows⟩
    by_cases hsection : isSection e
    · exact Or.inr ⟨e, List.mem_filter.mpr ⟨he, hsection⟩, hoverflows⟩
    · exact Or.inl ⟨e, List.mem_filter.mpr ⟨he, by simpa using hsection⟩, hoverflows⟩

end Written

end EntityProps.Toml
