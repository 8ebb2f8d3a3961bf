import MappedCoverage.Annotated
import MappedCoverage.CommandLine.Arguments
import MappedCoverage.Config.Resolve
import MappedCoverage.Gate
import MappedCoverage.Glob.Expand
import MappedCoverage.TestPlan

/-!
# Commands

The command annotates a file, shows what the gate makes of a file, lists the test files, or writes
the resolved configuration: the first of these that is asked for. The configuration is not read to
annotate a file, and no test is looked for unless the tests are listed.
-/

namespace MappedCoverage.CommandLine

/-- How a command ends, and what it writes. -/
structure Result where
  code : Nat
  output : String
  /-- What is reported besides the output. -/
  complaint : String
deriving DecidableEq

/-- A command that succeeds. -/
def Result.success (output : String) : Result := ⟨0, output, ""⟩

/-- A command that fails. -/
def Result.failure (complaint : String) : Result := ⟨1, "", s!"Error: {complaint}\n"⟩

/-- A command that cannot be understood. -/
def Result.misuse : Result :=
  ⟨2, "", "error: unexpected arguments\n\nFor more information, try '--help'.\n"⟩

/-- A command that breaks down on the annotation of a file. -/
def Result.breakdown : Result := ⟨101, "", Failure.columnTooWide.message ++ "\n"⟩

/-- The line that names the version. -/
def versionText : String := "transcov 0.1.0\n"

/-- How the command is used. -/
def helpText : String :=
  String.intercalate "\n" [
    "Inspect a transpile-aware coverage setup and its source-mapped annotations",
    "",
    "Usage: transcov [OPTIONS]",
    "",
    "Options:",
    "  -c, --config <FILE>    Configuration file (JSON, or YAML with a .yml/.yaml extension) "
      ++ "[default: .transcov.json]",
    "  -o, --output <OUTPUT>  Output format for the resolved configuration [default: json] "
      ++ "[possible values: json, yaml]",
    "      --list-tests       List the test files the configured globs resolve to",
    "      --annotate <FILE>  Print the side-by-side annotation of a generated file",
    "      --check <FILE>     Show whether a file would be transpiled and instrumented",
    "      --verbose          Enable verbose output",
    "  -h, --help             Print help",
    "  -V, --version          Print version",
    ""]

/-- How a halt ends the command. -/
def Halt.result : Halt → Result
  | .help => .success helpText
  | .version => .success versionText
  | .misuse => .misuse

/-- Lines, each with its end. -/
def writeLines (lines : List String) : String :=
  String.join (lines.map (· ++ "\n"))

/-- A condition in words. -/
def yesNo (condition : Bool) : String :=
  if condition then "yes" else "no"

/-- What the gate makes of a file. -/
def checkLines (gate : Gate) (file : String) : List String :=
  [file, "  transpile: " ++ yesNo (gate.transpiles file),
    "  instrument: " ++ yesNo (gate.instruments file)]

/-- The result of lines or of a failure. -/
def Result.ofLines : Except Failure (List String) → Result
  | .ok lines => .success (writeLines lines)
  | .error failure => .failure failure.message

variable {m : Type → Type} [Monad m]

/-- Writes the annotation of a file. -/
def annotate (files : FileSystem m) (file : String) : m Result := do
  match ← files.readText file with
  | .error fault => return .failure (fault.failure file).message
  | .ok text =>
      match Annotated.annotate? text with
      | some annotated => return .success (writeLines [annotated])
      | none => return .breakdown

/-- Writes what the gate of a configuration makes of a file. -/
def check (files : FileSystem m) (config : Config) (file : String) : m Result := do
  let directory ← files.workingDirectory
  return .ofLines do
    let gate ← Gate.ofConfig config
    return checkLines gate (Path.join directory file)

/-- Expands a pattern in a file system. -/
def expandIn (files : FileSystem m) (pattern : String) : ExceptT Failure m (List String) := do
  match ← ExceptT.lift (Glob.expand files pattern) with
  | .ok found => return found
  | .error message => throw (.invalidPattern pattern message)

/-- Lists the test files of a configuration. -/
def listTests (files : FileSystem m) (config : Config) : m Result := do
  let directory ← files.workingDirectory
  let found ← ExceptT.run ((TestPlan.ofConfig config directory).files (expandIn files))
  return .ofLines found

/-- Does what the settings ask for with a configuration. -/
def inspect (files : FileSystem m) (settings : Settings) (config : Config) : m Result :=
  match settings.check with
  | some file => check files config file
  | none =>
      if settings.listTests then listTests files config
      else return .success (writeLines [settings.format.render config.toDocument])

/-- Does what the settings ask for. -/
def perform (files : FileSystem m) (settings : Settings) : m Result := do
  match settings.annotate with
  | some file => annotate files file
  | none =>
      let text ← files.readText settings.configFile
      match Config.load text.toOption settings.configFile with
      | .error failure => return .failure failure.message
      | .ok document => inspect files settings (Config.resolve document)

/-- Does what the arguments ask for. -/
def execute (files : FileSystem m) (arguments : List String) : m Result :=
  match readArguments {} arguments with
  | .error halt => return halt.result
  | .ok settings => perform files settings

end MappedCoverage.CommandLine
