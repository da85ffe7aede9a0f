import EntityProps.Output.Listing
import EntityProps.Proofs.Readback

/-!
# What is displayed

What a group, the entities of a manifest and the registered rules are displayed as,
in every format (`Output.Displays`). For people these are lines, each made up of
parts with a style of their own. They are given by what the properties are bound to,
by the outcomes of the entities (`Output.entityLines`) and by the rules. For other
programs it is a tree, from which they read all of it back.

Colours change nothing but the sequences around the parts: without them a line is
just the texts of its parts.
-/

namespace EntityProps.Output

/-! ## Lines -/

/-- A part of a line. -/
structure Piece where
  text : String
  paint : Paint := .plain

abbrev Line := List Piece

/-- The stretches of a text between the sequences that end every style. -/
def stretches : List Char → List (List Char)
  | '\x1b' :: '[' :: '0' :: 'm' :: rest => [] :: stretches rest
  | c :: rest =>
    match stretches rest with
    | s :: others => (c :: s) :: others
    | [] => [[c]]
  | [] => [[]]

/-- The characters of a part. In colours its style is started before every stretch of the text,
and ended behind it. -/
def Piece.chars (colored : Bool) (p : Piece) : List Char :=
  match p.paint.start? with
  | some start =>
    if colored then (stretches p.text.toList).flatMap fun s => start ++ s ++ reset
    else p.text.toList
  | none => p.text.toList

/-- Lines, each with a break at its end. -/
def lineChars (colored : Bool) (lines : List Line) : List Char :=
  lines.flatMap fun line => line.flatMap (Piece.chars colored) ++ ['\n']

theorem exists_stretches_eq_cons (text : List Char) : ∃ s others, stretches text = s :: others := by
  fun_cases stretches text
  case case1 rest => exact ⟨_, _, rfl⟩
  case case2 c rest s others h => exact ⟨_, _, rfl⟩
  case case3 c rest h => exact ⟨_, _, rfl⟩
  case case4 => exact ⟨_, _, rfl⟩

theorem resume_append_reset (start text : List Char) :
    start ++ Paint.resume start text ++ reset =
      (stretches text).flatMap fun s => start ++ s ++ reset := by
  fun_induction stretches text
  case case1 rest ih =>
    rw [Paint.resume, List.flatMap_cons, ← ih]
    simp
  case case2 c rest hc s others h ih =>
    rw [h, List.flatMap_cons, List.append_assoc, List.append_assoc, List.append_assoc,
      List.append_cancel_left_eq] at ih
    rw [Paint.resume.eq_2 _ _ _ hc, List.flatMap_cons, List.append_assoc, List.cons_append, ih]
    simp
  case case3 c rest hc h ih =>
    -- A text has at least one stretch.
    obtain ⟨s, others, hs⟩ := exists_stretches_eq_cons rest
    rw [h] at hs
    cases hs
  case case4 => simp [Paint.resume]

/-- A part appears as it is painted. -/
@[simp]
theorem toList_apply (paint : Paint) (colored : Bool) (text : String) :
    (paint.apply colored text).toList = Piece.chars colored ⟨text, paint⟩ := by
  rw [Paint.apply, Piece.chars]
  cases paint.start? with
  | none => rfl
  | some start =>
    cases colored with
    | false => rfl
    | true => exact String.toList_ofList.trans (resume_append_reset start text.toList)

@[simp]
theorem chars_plain (colored : Bool) (text : String) :
    Piece.chars colored ⟨text, .plain⟩ = text.toList :=
  rfl

/-! ## What the lines say -/

/-- The line of a property: its number, its name with the sub-properties if it has any, and the name
of its rule. -/
def propertyLine (index : Nat) (name subs rule : String) : Line :=
  [⟨"  [" ++ toString index ++ "] ", .plain⟩, ⟨name, .cyan⟩, ⟨subs ++ " ", .plain⟩,
    ⟨"rule: " ++ rule, .dimmed⟩]

/-- The lines of a group: a line for each property, simple ones first, or that there is none. -/
def groupLines (g : BoundGroup) : List Line :=
  if g.size = 0 then [[⟨"(no properties)", .dimmed⟩]]
  else
    (g.simple.mapIdx fun index p => propertyLine index p.name "" p.rule.label.name) ++
      g.complex.mapIdx fun index p =>
        propertyLine index p.name ("(" ++ ", ".intercalate p.subs ++ ")") p.rule.label.name

/-- The name of an entity in a line, and the name of its kind. -/
def subjectOf (e : Entity) : Line :=
  [⟨e.name, .cyan⟩, ⟨" (" ++ (e.kind?.map Kind.name).getD "?" ++ ")", .plain⟩]

/-- The lines of an entity with this outcome: its properties, or the error with the annotation. -/
def entityLines (e : Entity) : Except ParseError BoundGroup → List Line
  | .ok g => [[⟨"OK", .green⟩, ⟨" ", .plain⟩] ++ subjectOf e ++ [⟨" ", .plain⟩, ⟨g.text, .dimmed⟩]]
  | .error err =>
    [[⟨"ERROR", .red⟩, ⟨" ", .plain⟩] ++ subjectOf e ++
      [⟨" - " ++ err.message ++ " (", .plain⟩, ⟨err.kind.code, .dimmed⟩, ⟨")", .plain⟩],
      [⟨"  ", .plain⟩, ⟨"annotation:", .dimmed⟩, ⟨" " ++ e.text, .plain⟩]]

/-- The last line on entities: how many there are, and how many of them failed if any. -/
def totalLine (total failed : Nat) : Line :=
  if failed = 0 then [⟨"OK", .green⟩, ⟨" " ++ toString total ++ " entities parsed", .plain⟩]
  else [⟨toString total ++ " entities, ", .plain⟩, ⟨toString failed, .red⟩, ⟨" failed", .plain⟩]

/-- The lines of a manifest: those of every entity, and after an empty line the numbers. -/
def manifestLines (g : Grammar) (reg : Registry) (m : Manifest) : List Line :=
  m.entities.flatMap (fun e => entityLines e (e.outcome g reg)) ++
    [[], totalLine m.entities.length
      (m.entities.countP fun e => (errorKind? (e.outcome g reg)).isSome)]

/-- The line of a rule: its name, its tier, its sort and its description if there is one. -/
def listingLine (r : RuleInfo) : Line :=
  [⟨r.label.name, .cyan⟩, ⟨" [", .plain⟩,
    match r.origin with
      | .native => ⟨"native", .yellow⟩
      | .user => ⟨"user", .plain⟩,
    ⟨(if r.complex then ", complex]" else ", simple]") ++
      (if r.label.description = "" then "" else " - " ++ r.label.description), .plain⟩]

/-! ## The texts say it -/

theorem toList_groupText (colored : Bool) (g : BoundGroup) :
    (groupText colored g).toList = lineChars colored (groupLines g) := by
  have hempty : g.isEmpty = true ↔ g.size = 0 := by
    simp [PropertyGroup.isEmpty, PropertyGroup.size]
  rw [groupText, groupLines]
  split
  · next h =>
    rw [if_pos (hempty.mp h)]
    simp [lineChars]
  · next h =>
    rw [if_neg (mt hempty.mpr h)]
    simp [lineChars, propertyLine, simpleLine, complexLine, indexMark, ruleNote,
      List.mapIdx_eq_zipIdx_map, List.flatMap_map]

theorem toList_entityText (colored : Bool) (g : Grammar) (reg : Registry) (e : Entity) :
    (entityText colored (e.report g reg)).toList =
      lineChars colored (entityLines e (e.outcome g reg)) := by
  have hword : kindWord e.kind? = (e.kind?.map Kind.name).getD "?" := by cases e.kind? <;> rfl
  rw [entityText, Entity.report]
  cases e.outcome g reg <;>
    simp [Except.toOption, errorKind?, message?, ErrorKind.outcomeCode, entityLines, subjectOf,
      lineChars, hword]

theorem toList_summary {r : Report} (h : r.InStep) (colored : Bool) :
    (summary colored r).toList =
      lineChars colored [totalLine r.entities.length (r.entities.countP (!·.isOk))] := by
  rw [summary, totalLine, ← h.failed_eq]
  by_cases hfailed : r.failed = 0
  · have hpassed : r.passed = r.entities.length := by rw [← h.passed_add_failed, hfailed]; rfl
    simp [hfailed, hpassed, lineChars]
  · simp [hfailed, Nat.pos_of_ne_zero hfailed, lineChars]

theorem lineChars_append (colored : Bool) (lines lines' : List Line) :
    lineChars colored (lines ++ lines') = lineChars colored lines ++ lineChars colored lines' :=
  List.flatMap_append

theorem toList_reportText (colored : Bool) (s : Session) (m : Manifest) :
    (reportText colored (s.checkManifest m).1).toList =
      lineChars colored (manifestLines s.grammar s.registry m) := by
  have hfailed : (m.entities.map (Entity.report s.grammar s.registry)).countP (!·.isOk) =
      m.entities.countP fun e => (errorKind? (e.outcome s.grammar s.registry)).isSome := by
    rw [List.countP_map]
    exact List.countP_congr fun e _ => by simp [EntityReport.isOk, Entity.report]
  have hlines : lineChars colored
      (m.entities.flatMap fun e => entityLines e (e.outcome s.grammar s.registry)) =
        m.entities.flatMap fun e => (entityText colored (e.report s.grammar s.registry)).toList := by
    rw [lineChars, List.flatMap_assoc]
    exact List.flatMap_congr fun e _ => (toList_entityText colored _ _ e).symm
  rw [reportText, String.toList_append, String.toList_append,
    toList_summary (s.inStep_checkManifest m), s.entities_checkManifest, hfailed, List.length_map,
    manifestLines, lineChars_append, hlines]
  simp [lineChars, List.flatMap_map]

theorem toList_ruleLine (colored : Bool) (r : RuleInfo) :
    (ruleLine colored r).toList = lineChars colored [listingLine r] := by
  obtain ⟨⟨name, description⟩, complex, origin⟩ := r
  have hempty : description.isEmpty = true ↔ description = "" := String.isEmpty_iff
  by_cases h : description = "" <;> cases complex <;> cases origin <;>
    simp [ruleLine, listingLine, lineChars, sortWord, Origin.name, h, hempty]

/-! ## In every format -/

/-- An output shows lines to people, or a tree to other programs, which read the same thing from
it. The layout of the tree is the one that the format asks for. -/
inductive Displays {α : Type} (colored : Bool) (lines : List Line) (read : Data → Option α)
    (shown : α) : Format → String → Prop
  | text {out : String} (h : out.toList = lineChars colored lines) :
      Displays colored lines read shown .text out
  | json {d : Data} (htree : Json.read? (Json.write .compact d) = some d)
      (hread : read d = some shown) : Displays colored lines read shown .json (Json.write .compact d)
  | jsonPretty {d : Data} (htree : Json.read? (Json.write .indented d) = some d)
      (hread : read d = some shown) :
      Displays colored lines read shown .jsonPretty (Json.write .indented d)

theorem displays_render {α : Type} {colored : Bool} {lines : List Line} {read : Data → Option α}
    {shown : α} {text : String} {d : Data} (htext : text.toList = lineChars colored lines)
    (hd : Json.IsExact d) (hread : read d = some shown) (format : Format) :
    Displays colored lines read shown format (format.render text d) := by
  cases format with
  | text => exact .text htext
  | json => exact .json (Json.read?_write hd .compact) hread
  | jsonPretty => exact .jsonPretty (Json.read?_write hd .indented) hread

def DisplaysGroup (colored : Bool) (g : BoundGroup) : Format → String → Prop :=
  Displays colored (groupLines g) readGroup? (shownGroup g)

/-- A manifest is displayed by the outcomes of all its entities. -/
def DisplaysManifest (colored : Bool) (g : Grammar) (reg : Registry) (m : Manifest) :
    Format → String → Prop :=
  Displays colored (manifestLines g reg m) readReport? (shownManifest g reg m)

theorem displaysGroup_formatGroup (format : Format) (colored : Bool) (g : BoundGroup) :
    DisplaysGroup colored g format (formatGroup format colored g) :=
  displays_render (toList_groupText colored g) (isExact_groupData g) (readGroup?_groupData g) format

theorem displaysManifest_formatReport (format : Format) (colored : Bool) (s : Session)
    (m : Manifest) : DisplaysManifest colored s.grammar s.registry m format
      (formatReport format colored (s.checkManifest m).1) := by
  refine displays_render (toList_reportText colored s m) (isExact_reportData _) ?_ format
  rw [readReport?_reportData, shownReport_checkManifest]

/-! ## Listings -/

def originOf? (word : String) : Option Origin :=
  [Origin.native, .user].find? (·.name == word)

def readBool? : Data → Option Bool
  | .bool value => some value
  | _ => none

def readRule? (d : Data) : Option RuleInfo := do
  let name ← readField? readString? d "name"
  let description ← readField? readString? d "description"
  let complex ← readField? readBool? d "complex"
  let origin ← (readField? readString? d "origin").bind originOf?
  some ⟨⟨name, description⟩, complex, origin⟩

theorem readRule?_ruleData (r : RuleInfo) : readRule? (ruleData r) = some (id r) := by
  obtain ⟨⟨name, description⟩, complex, origin⟩ := r
  cases origin <;> rfl

theorem isExact_ruleData (r : RuleInfo) : Json.IsExact (ruleData r) :=
  .cons (.str _) (.cons (.str _) (.cons (.bool _) (.cons (.str _) .nil)))

/-- Rules are displayed in their order, each by its name, description, sort and tier. -/
def DisplaysRules (colored : Bool) (rules : List RuleInfo) : Format → String → Prop :=
  Displays colored (rules.map listingLine) (readList? readRule?) rules

theorem displaysRules_formatRules (format : Format) (colored : Bool) (rules : List RuleInfo) :
    DisplaysRules colored rules format (formatRules format colored rules) := by
  refine displays_render ?_ (.map isExact_ruleData rules) ?_ format
  · have hlines : lineChars colored (rules.map listingLine) =
        rules.flatMap fun r => lineChars colored [listingLine r] := by
      simp [lineChars, List.flatMap_map]
    rw [hlines, String.toList_join, List.flatMap_map]
    exact List.flatMap_congr fun r _ => toList_ruleLine colored r
  · rw [readList?_map readRule?_ruleData, List.map_id]

end EntityProps.Output
