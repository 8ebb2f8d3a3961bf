import MappedCoverage.Config.Basic

/-!
# Resolving configurations

Any document resolves to a configuration: an option that is missing or of another shape than
expected counts as absent and takes its default. A section goes by either of two names.
-/

namespace MappedCoverage.Config

/-- The tests of a configuration that names none. -/
def defaultTest : String := "test/**/*.js"

/-- The files of dependencies. -/
def dependencyGlob : String := "**/node_modules/**/*"

/-- The files that are transpiled unless a configuration says otherwise. -/
def defaultIncludes : List String := ["**/*.jsx", "**/*.js"]

/-- The variable that instrumented code records in unless a configuration says otherwise. -/
def defaultVariable : String := "__coverage__"

/-- Where reports go unless a configuration says otherwise. -/
def defaultDirectory : String := "coverage"

/-- The reports that are written unless a configuration says otherwise. -/
def defaultReporters : Entries Document :=
  [("html", .record []), ("text", .record [])]

/-- The patterns of an option: one text, or the texts of a sequence. -/
def patterns? : Document → Option (List String)
  | .text pattern => some [pattern]
  | .sequence items => some (items.filterMap Document.asText?)
  | _ => none

/-- The patterns of an entry, if it has any. -/
def entryPatterns? (key : String) (entries : Entries Document) : Option (List String) :=
  (Entries.get? key entries).bind patterns?

/-- The text of an entry, if it is a text. -/
def entryText? (key : String) (entries : Entries Document) : Option String :=
  (Entries.get? key entries).bind Document.asText?

/-- The record of an entry; any other entry is empty. -/
def entryRecord (key : String) (entries : Entries Document) : Entries Document :=
  ((Entries.get? key entries).bind Document.asRecord?).getD []

/-- The section under the first of some names that is a record. -/
def sectionNamed (names : List String) (document : Document) : Entries Document :=
  (names.findSome? fun name => (document.field? name).bind Document.asRecord?).getD []

/-- A test pattern as a pattern for whole paths. -/
def testExclude (pattern : String) : String :=
  let start := pattern.toList.take 2
  if start.head? = some '/' ∨ start = ['*', '*'] then pattern else "**/" ++ pattern

/-- The options of the test runner. -/
def runnerOptions (entries : Entries Document) : RunnerOptions where
  require := (entryPatterns? "require" entries).getD []
  grep := ((entryPatterns? "grep" entries).getD []).filterMap Grep.compile?
  extra := Entries.removeAll ["require", "grep"] entries

/-- What is transpiled; dependencies never are. -/
def transpilerConfig (entries : Entries Document) : TranspilerConfig where
  includes := (entryPatterns? "include" entries).getD defaultIncludes
  excludes := (entryPatterns? "exclude" entries).getD [] ++ [dependencyGlob]
  options :=
    { filename := none
      extra := Entries.removeAll ["include", "exclude", "sourceMap", "filename"] entries }

/-- The reports of a coverage section: a record of their options, or a sequence of their names. -/
def reporters (entries : Entries Document) : Entries Document :=
  match Entries.get? "reporters" entries with
  | some (.record reporters) => reporters
  | some (.sequence names) =>
      Entries.ofList ((names.filterMap Document.asText?).map fun name => (name, .record []))
  | _ => defaultReporters

/-- What is instrumented; tests and dependencies never are. -/
def coverageConfig (entries : Entries Document) (tests : List String) : CoverageConfig :=
  let coverageVariable := (entryText? "coverageVariable" entries).getD defaultVariable
  { directory := (entryText? "directory" entries).getD defaultDirectory
    reporters := reporters entries
    collector := entryRecord "collector" entries
    instrumenter :=
      Entries.insert "coverageVariable" (.text coverageVariable)
        (entryRecord "instrumenter" entries)
    coverageVariable
    excludes :=
      (entryPatterns? "exclude" entries).getD [] ++ tests.map testExclude ++ [dependencyGlob] }

/-- The configuration that a document asks for. -/
def resolve (document : Document) : Config :=
  let tests := ((document.field? "tests").bind patterns?).getD [defaultTest]
  { tests
    runner := runnerOptions (sectionNamed ["mocha", "runner"] document)
    transpiler := transpilerConfig (sectionNamed ["babel", "transpiler"] document)
    coverage := coverageConfig (sectionNamed ["istanbul", "coverage"] document) tests }

/-- The configuration of an empty document. -/
def default : Config := resolve .null

end MappedCoverage.Config
