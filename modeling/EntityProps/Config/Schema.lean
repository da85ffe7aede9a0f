import EntityProps.Config
import EntityProps.Json.Reader
import EntityProps.Record
import EntityProps.Toml.Reader
import EntityProps.Toml.Writer

/-!
# Configurations as trees

How each part of a configuration is read from a tree and written as one.
-/

namespace EntityProps

/-! ## Kinds -/

/-- Reads a kind: its name, or a table with its name as the only key and nothing beside it. -/
def Kind.ofData (dialect : Dialect) : Data → Except DataFault Kind
  | .str name => named name
  | .table entries =>
    match dialect.order entries with
    | [(name, d)] => if dialect.isNothing d then named name else .error .shape
    | _ => .error .shape
  | _ => .error .shape
where
  named (name : String) : Except DataFault Kind :=
    match Kind.ofName? name with
    | some kind => .ok kind
    | none => .error .shape

def Kind.data (kind : Kind) : Data :=
  .str kind.name

/-! ## Grammar settings -/

def enclosersOfData (dialect : Dialect) : Data → Except DataFault (Char × Char)
  | .list (a :: b :: rest) => do
    let opening ← a.asChar
    let closing ← b.asChar
    if dialect.toleratesRest ∨ rest.isEmpty then .ok (opening, closing) else .error .shape
  | _ => .error .shape

def GrammarSpec.record (dialect : Dialect) : Record GrammarSpec where
  fields := ["property_separator", "sub_property_enclosers", "sub_property_separator",
    "ignored_characters"]
  default := {}
  set g key d :=
    match key with
    | "property_separator" => d.asChar.map fun c => { g with separator := c }
    | "sub_property_enclosers" =>
      (enclosersOfData dialect d).map fun (a, b) => { g with opening := a, closing := b }
    | "sub_property_separator" => d.asChar.map fun c => { g with subSeparator := c }
    | "ignored_characters" => d.asText.map fun s => { g with ignored := s.toList }
    | _ => .ok g

def Grammar.ofData (dialect : Dialect) (d : Data) : Except DataFault Grammar := do
  let g ← (GrammarSpec.record dialect).read dialect d
  (Grammar.ofSpec g).mapError .grammar

def Grammar.entries (g : Grammar) : Entries :=
  [("property_separator", .str (.singleton g.separator)),
   ("sub_property_enclosers", .texts [.singleton g.opening, .singleton g.closing]),
   ("sub_property_separator", .str (.singleton g.subSeparator)),
   ("ignored_characters", .str (.ofList g.ignored))]

/-! ## Declarations -/

def SimpleDecl.fields : List String :=
  ["name", "description", "entities", "unique", "conflicts_with", "requires"]

def SimpleDecl.set (dialect : Dialect) (r : SimpleDecl) (key : String) (d : Data) :
    Except DataFault SimpleDecl :=
  match key with
  | "name" => d.asText.map fun s => { r with name := s }
  | "description" => d.asText.map fun s => { r with description := s }
  | "entities" => (d.asList (Kind.ofData dialect)).map fun ks => { r with entities := ks }
  | "unique" => d.asBool.map fun b => { r with unique := b }
  | "conflicts_with" => (d.asList Data.asText).map fun ns => { r with conflictsWith := ns }
  | "requires" => (d.asList Data.asText).map fun ns => { r with requires := ns }
  | _ => .ok r

def SimpleDecl.record (dialect : Dialect) : Record SimpleDecl where
  fields := SimpleDecl.fields
  required := ["name"]
  default := { name := "" }
  set := SimpleDecl.set dialect

def ComplexDecl.record (dialect : Dialect) : Record ComplexDecl where
  fields := SimpleDecl.fields ++ ["min_subs", "max_subs", "sub_pattern"]
  required := ["name"]
  default := { name := "" }
  set r key d :=
    match key with
    | "min_subs" => d.asCount.map fun n => { r with minSubs := n }
    | "max_subs" => (d.asOption Data.asCount).map fun n => { r with maxSubs := n }
    | "sub_pattern" => (d.asOption Data.asText).map fun s => { r with subPattern := s }
    | _ => (r.toSimpleDecl.set dialect key d).map fun s => { r with toSimpleDecl := s }

def SimpleDecl.entries (r : SimpleDecl) : Entries :=
  [("name", .str r.name),
   ("description", .str r.description),
   ("entities", .list (r.entities.map Kind.data)),
   ("unique", .bool r.unique),
   ("conflicts_with", .texts r.conflictsWith),
   ("requires", .texts r.requires)]

def ComplexDecl.entries (r : ComplexDecl) : Entries :=
  r.toSimpleDecl.entries ++ [("min_subs", .nat r.minSubs)] ++
    optionalEntry "max_subs" (r.maxSubs.map .nat) ++
    optionalEntry "sub_pattern" (r.subPattern.map .str)

/-! ## Configurations -/

def RuleSets.record : Record RuleSets where
  fields := ["native", "accessors"]
  default := {}
  set r key d :=
    match key with
    | "native" => d.asBool.map fun b => { r with native := b }
    | "accessors" => d.asBool.map fun b => { r with accessors := b }
    | _ => .ok r

def RuleSets.entries (r : RuleSets) : Entries :=
  [("native", .bool r.native), ("accessors", .bool r.accessors)]

namespace Config

def record (dialect : Dialect) : Record Config where
  fields := ["grammar", "rules", "simple_rules", "complex_rules"]
  default := {}
  set c key d :=
    match key with
    | "grammar" => (Grammar.ofData dialect d).map fun g => { c with grammar := g }
    | "rules" => (RuleSets.record.read dialect d).map fun r => { c with rules := r }
    | "simple_rules" =>
      (d.asList ((SimpleDecl.record dialect).read dialect)).map fun rs =>
        { c with simpleRules := rs }
    | "complex_rules" =>
      (d.asList ((ComplexDecl.record dialect).read dialect)).map fun rs =>
        { c with complexRules := rs }
    | _ => .ok c

def ofData (dialect : Dialect) (d : Data) : Except DataFault Config :=
  (record dialect).read dialect d

def entries (c : Config) : Entries :=
  [("grammar", .table c.grammar.entries),
   ("rules", .table c.rules.entries),
   ("simple_rules", .list (c.simpleRules.map fun r => .table r.entries)),
   ("complex_rules", .list (c.complexRules.map fun r => .table r.entries))]

def ofToml (text : String) : Except DataFault Config :=
  match Toml.read? text with
  | some d => ofData .toml d
  | none => .error .shape

/-- The configuration as TOML. There is none if a bound does not fit in a signed integer of 64
bits. -/
def toToml? (c : Config) : Option String :=
  Toml.write? c.entries

end Config

end EntityProps
