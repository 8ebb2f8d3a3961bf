import MappedCoverage.Failure
import MappedCoverage.Json.Reader
import MappedCoverage.Path
import MappedCoverage.Text.Blank
import MappedCoverage.Yaml.Reader

/-!
# Configuration texts

A configuration text is JSON, or YAML where the name of its file says so. A blank text is an empty
configuration; any other text must denote a record or null.
-/

namespace MappedCoverage.Config

/-- The file that a configuration is read from unless another is named. -/
def defaultFile : String := ".transcov.json"

/-- Whether a file of this name holds YAML. -/
def isYaml (path : String) : Bool :=
  match Path.extension? path with
  | some extension => extension = "yml" || extension = "yaml"
  | none => false

/-- The report on a document that is no record. -/
def notRecordMessage : String :=
  "configuration must be a mapping of sections"

/-- The report on a text that is not YAML. -/
def notYamlMessage : String :=
  "the text is not a YAML document"

/-- The document that a text denotes, by the name of its file. -/
def readText (text path : String) : Except Failure Document :=
  if Text.isBlank text then .ok .null
  else if isYaml path then
    match Yaml.read? text with
    | some document => .ok document
    | none => .error (.config path notYamlMessage)
  else
    match Json.read text with
    | .ok document => .ok document
    | .error fault => .error (.config path (fault.report text))

/-- The record of sections that a configuration text denotes. -/
def parse (text path : String) : Except Failure Document := do
  match ← readText text path with
  | .null => return .record []
  | .record entries => return .record entries
  | _ => throw (.config path notRecordMessage)

/-- The record of sections in a file, given its bytes; a file without text has none. -/
def load (content : Option String) (path : String) : Except Failure Document :=
  match content with
  | none => .ok (.record [])
  | some text => parse text path

end MappedCoverage.Config
