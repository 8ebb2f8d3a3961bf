import MappedCoverage.Json.Writer
import MappedCoverage.Yaml.Writer

/-!
# Output formats

A document is written as JSON or as YAML.
-/

namespace MappedCoverage

/-- A format of documents. -/
inductive OutputFormat where
  | json
  | yaml
deriving DecidableEq

namespace OutputFormat

/-- The format that is used unless another is asked for. -/
def initial : OutputFormat := .json

/-- The name of a format. -/
def name : OutputFormat → String
  | .json => "json"
  | .yaml => "yaml"

/-- The format of a name in any case. No character beyond ASCII has a letter of these names as its
lower case. -/
def parse? (name : String) : Option OutputFormat :=
  match String.ofList (name.toList.map Char.toLower) with
  | "json" => some .json
  | "yaml" => some .yaml
  | "yml" => some .yaml
  | _ => none

/-- The report on a name of no format. -/
def unknownMessage (name : String) : String :=
  s!"Unknown output format: {name}"

/-- The format of an exact name. -/
def named? : String → Option OutputFormat
  | "json" => some .json
  | "yaml" => some .yaml
  | _ => none

/-- A text between backquotes. -/
def backquoted (text : String) : String :=
  let mark := String.ofList [Char.ofNat 0x60]
  mark ++ text ++ mark

/-- The report on an exact name of no format. -/
def unknownVariant (name : String) : String :=
  "unknown variant " ++ backquoted name ++ ", expected " ++ backquoted "json" ++ " or "
    ++ backquoted "yaml"

/-- The format that a document names: a text, or a record whose one key is the name and whose value
is null. -/
def ofDocument : Document → Except String OutputFormat
  | .text name =>
      match named? name with
      | some format => .ok format
      | none => .error (unknownVariant name)
  | .record [(name, value)] =>
      match named? name, value with
      | none, _ => .error (unknownVariant name)
      | some format, .null => .ok format
      | some _, value => .error (Json.mismatch (.ofDocument value) "unit")
  | .record _ => .error "invalid value: map, expected map with a single key"
  | document => .error (Json.mismatch (.ofDocument document) "string or map")

/-- The text of a document in a format. -/
def render (document : Document) : OutputFormat → String
  | .json => Json.pretty document
  | .yaml => Yaml.write document

end OutputFormat

end MappedCoverage
