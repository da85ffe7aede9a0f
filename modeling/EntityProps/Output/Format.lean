import EntityProps.Json.Writer

/-!
# Output formats

Results are shown as text for people or as JSON for other programs.
-/

namespace EntityProps.Output

inductive Format where
  | text
  | json
  | jsonPretty
deriving DecidableEq

namespace Format

def all : List Format := [text, json, jsonPretty]

def name : Format → String
  | text => "text"
  | json => "json"
  | jsonPretty => "json-pretty"

def ofName? (name : String) : Option Format :=
  all.find? (·.name == name)

def render (format : Format) (text : String) (tree : Data) : String :=
  match format with
  | .text => text
  | .json => Json.write .compact tree
  | .jsonPretty => Json.write .indented tree

end Format

end EntityProps.Output
