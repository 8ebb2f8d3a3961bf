import MappedCoverage.Annotated
import MappedCoverage.FileSystem.Basic
import MappedCoverage.Gate
import MappedCoverage.Indentation
import MappedCoverage.Session

/-!
# Pipelines

A pipeline takes a file from its text to executed code. Its text is indented by spaces; a file that
the gate lets through is transpiled; of a file that counts for coverage the annotated text is kept
and the code is instrumented; at last the code is compiled. The first step that fails ends the load.
-/

namespace MappedCoverage

/-- The tools that rewrite code. What they answer may depend on all calls so far. -/
structure Tools where
  transpile (history : List Call) (source : String) (options : TranspileOptions) :
    Except String String
  instrument (history : List Call) (source file : String) : Except String String

/-- Where code is executed: what it records, and the message of its failure, if it fails. -/
structure Host where
  compile (history : List Call) (source file : String) : List Recording × Option String

/-- The gate of a configuration, and the options that every file is transpiled with. -/
structure Pipeline where
  gate : Gate
  options : TranspileOptions

namespace Pipeline

/-- The pipeline of a configuration. -/
def ofConfig (config : Config) : Except Failure Pipeline := do
  let gate ← Gate.ofConfig config
  return ⟨gate, config.transpiler.options⟩

/-- The options that a file is transpiled with. -/
def optionsFor (pipeline : Pipeline) (file : String) : TranspileOptions :=
  { pipeline.options with filename := some file }

/-- Transpiles code, if the gate lets its file through. -/
def transpile (pipeline : Pipeline) (tools : Tools) (file code : String) : Action String := do
  if pipeline.gate.transpiles file then
    let options := pipeline.optionsFor file
    let history ← Action.call (.transpile code options)
    Action.answered (.transpile file) (tools.transpile history code options)
  else return code

/-- Keeps the annotated text of code. -/
def annotate (file code : String) : Action Unit :=
  match Annotated.annotate? code with
  | some annotated => Action.keep file annotated
  | none => throw .columnTooWide

/-- Annotates and instruments code, if its file counts for coverage. -/
def instrument (pipeline : Pipeline) (tools : Tools) (file code : String) : Action String := do
  if pipeline.gate.instruments file then
    annotate file code
    let history ← Action.call (.instrument code file)
    Action.answered (.instrument file) (tools.instrument history code file)
  else return code

/-- The code that the text of a file turns into. -/
def transformText (pipeline : Pipeline) (tools : Tools) (file text : String) : Action String := do
  let code ← pipeline.transpile tools file (Indentation.normalize text)
  pipeline.instrument tools file code

/-- The code that a file turns into. -/
def transform (pipeline : Pipeline) (tools : Tools)
    (readText : String → Except ReadFault String) (file : String) : Action String :=
  match readText file with
  | .ok text => pipeline.transformText tools file text
  | .error fault => throw (fault.failure file)

/-- Compiles the code of a file. -/
def compile (host : Host) (file code : String) : Action Unit := do
  let history ← Action.call (.compile code file)
  let (recordings, failure) := host.compile history code file
  recordings.forM Action.record
  Action.succeeded (.compile file) failure

/-- Loads a file. -/
def load (pipeline : Pipeline) (tools : Tools) (host : Host)
    (readText : String → Except ReadFault String) (file : String) : Action Unit := do
  let code ← pipeline.transform tools readText file
  compile host file code

end Pipeline

end MappedCoverage
