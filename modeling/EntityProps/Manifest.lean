import EntityProps.Config.File

/-!
# Manifests

A manifest lists entities with their annotations. The kind of an entity may be
left open; its annotation then shows it.
-/

namespace EntityProps

/-- An entity with its raw annotation text. -/
structure Entity where
  name : String
  kind : Option Kind := none
  text : String
deriving DecidableEq

def Entity.record (dialect : Dialect) : Record Entity where
  fields := ["name", "kind", "annotation"]
  required := ["name", "annotation"]
  default := { name := "", text := "" }
  set e key d :=
    match key with
    | "name" => d.asText.map fun s => { e with name := s }
    | "kind" => (d.asOption (Kind.ofData dialect)).map fun k => { e with kind := k }
    | "annotation" => d.asText.map fun s => { e with text := s }
    | _ => .ok e

structure Manifest where
  entities : List Entity := []
deriving DecidableEq

namespace Manifest

def record (dialect : Dialect) : Record Manifest where
  fields := ["entity"]
  default := {}
  set m key d :=
    match key with
    | "entity" =>
      (d.asList ((Entity.record dialect).read dialect)).map fun es => { m with entities := es }
    | _ => .ok m

def ofData (dialect : Dialect) (d : Data) : Except DataFault Manifest :=
  (record dialect).read dialect d

def ofToml (text : String) : Except DataFault Manifest :=
  match Toml.read? text with
  | some d => ofData .toml d
  | none => .error .shape

def load (files : Files) (path : String) : Except LoadFault Manifest := do
  let text ← loadText files path
  (ofToml text).mapError .data

end Manifest

end EntityProps
