import MappedCoverage.Document.Basic
import MappedCoverage.Grep
import MappedCoverage.Path

/-!
# Configurations

A resolved configuration has a value for every option. It is written as a document of four
sections; options that are passed on to the test runner and the transpiler stand among those that
are understood here.
-/

namespace MappedCoverage

/-- Options of the test runner. -/
structure RunnerOptions where
  /-- The modules that are loaded before any test file. -/
  require : List String
  grep : List Grep
  extra : Entries Document

/-- Options of a transpiler, which always writes its source map into the code. -/
structure TranspileOptions where
  /-- The file that is transpiled. -/
  filename : Option String
  extra : Entries Document

/-- What is transpiled, and how. -/
structure TranspilerConfig where
  includes : List String
  excludes : List String
  options : TranspileOptions

/-- What is instrumented, and which reports are written. -/
structure CoverageConfig where
  directory : String
  /-- The options of each report by its name, in order. -/
  reporters : Entries Document
  collector : Entries Document
  instrumenter : Entries Document
  coverageVariable : String
  /-- Files that are neither annotated nor instrumented. -/
  excludes : List String

/-- A resolved configuration. -/
structure Config where
  tests : List String
  runner : RunnerOptions
  transpiler : TranspilerConfig
  coverage : CoverageConfig

/-- A sequence of texts. -/
def Document.texts (items : List String) : Document :=
  .sequence (items.map .text)

/-- The document of runner options. -/
def RunnerOptions.toDocument (options : RunnerOptions) : Document :=
  .record ([("require", .texts options.require), ("grep", .texts (options.grep.map (·.source)))]
    ++ options.extra)

/-- The document of transpile options. -/
def TranspileOptions.toDocument (options : TranspileOptions) : Document :=
  let filename :=
    match options.filename with
    | some filename => [("filename", Document.text filename)]
    | none => []
  .record (filename ++ [("sourceMap", .text "inline")] ++ options.extra)

/-- The document of a transpiler section. -/
def TranspilerConfig.toDocument (config : TranspilerConfig) : Document :=
  .record [("include", .texts config.includes), ("exclude", .texts config.excludes),
    ("options", config.options.toDocument)]

/-- The document of a coverage section. -/
def CoverageConfig.toDocument (config : CoverageConfig) : Document :=
  .record [("directory", .text config.directory), ("reporters", .record config.reporters),
    ("collector", .record config.collector), ("instrumenter", .record config.instrumenter),
    ("coverageVariable", .text config.coverageVariable), ("exclude", .texts config.excludes)]

/-- The document of a configuration. -/
def Config.toDocument (config : Config) : Document :=
  .record [("tests", .texts config.tests), ("runner", config.runner.toDocument),
    ("transpiler", config.transpiler.toDocument), ("coverage", config.coverage.toDocument)]

/-- Equality up to the order of passed options. -/
def RunnerOptions.same (a b : RunnerOptions) : Bool :=
  a.require == b.require && a.grep.map (·.source) == b.grep.map (·.source)
    && Document.sameRecord a.extra b.extra

/-- Equality of file names as paths, and of options up to their order. -/
def TranspileOptions.same (a b : TranspileOptions) : Bool :=
  (match a.filename, b.filename with
    | some a, some b => Path.same a b
    | none, none => true
    | _, _ => false)
    && Document.sameRecord a.extra b.extra

/-- Equality up to the order of passed options. -/
def TranspilerConfig.same (a b : TranspilerConfig) : Bool :=
  a.includes == b.includes && a.excludes == b.excludes && a.options.same b.options

/-- Equality of directories as paths, and of options up to their order. -/
def CoverageConfig.same (a b : CoverageConfig) : Bool :=
  Path.same a.directory b.directory && Document.sameRecord a.reporters b.reporters
    && Document.sameRecord a.collector b.collector
    && Document.sameRecord a.instrumenter b.instrumenter
    && a.coverageVariable == b.coverageVariable && a.excludes == b.excludes

/-- Equality up to the order of options. -/
def Config.same (a b : Config) : Bool :=
  a.tests == b.tests && a.runner.same b.runner && a.transpiler.same b.transpiler
    && a.coverage.same b.coverage

end MappedCoverage
