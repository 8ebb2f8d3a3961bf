import MappedCoverage.Glob.Pattern
import MappedCoverage.Path
import MappedCoverage.Session

/-!
# Test plans

A plan says which test files are run and which modules are loaded before them. Relative patterns
and modules are taken from the working directory, whose own characters stand for themselves in a
pattern. A file that several patterns lead to is run once, where it is found first.
-/

namespace MappedCoverage

/-- What is to be run, and from where. -/
structure TestPlan where
  patterns : List String
  options : RunnerOptions
  workingDirectory : String

/-- What a test runner does while it runs. -/
inductive TestStep where
  | load (file : String)
  /-- Code that was loaded before is executed. -/
  | record (recording : Recording)

/-- A test runner: what it does with the files that were added, and whether it reports that it is
done. -/
structure TestRunner where
  steps (options : RunnerOptions) (files : List String) : List TestStep
  completes : Bool

namespace TestPlan

/-- The plan of a configuration. -/
def ofConfig (config : Config) (workingDirectory : String) : TestPlan :=
  ⟨config.tests, config.runner, workingDirectory⟩

/-- A pattern taken from the working directory. -/
def anchored (plan : TestPlan) (pattern : String) : String :=
  if Path.isAbsolute pattern then pattern
  else Path.join (Glob.escape plan.workingDirectory) pattern

/-- The test files, given what each pattern leads to. -/
def files {m : Type → Type} [Monad m] (plan : TestPlan) (expand : String → m (List String)) :
    m (List String) := do
  let found ← plan.patterns.mapM fun pattern => expand (plan.anchored pattern)
  return Path.distinct found.flatten

/-- Expands a pattern; a message stands for a malformed pattern. -/
def expandWith (expand : String → Except String (List String)) (pattern : String) :
    Action (List String) := do
  let _ ← Action.call (.expand pattern)
  Action.answered (.invalidPattern pattern) (expand pattern)

/-- The modules that are loaded before the tests. -/
def required (plan : TestPlan) : List String :=
  plan.options.require.map (Path.join plan.workingDirectory)

/-- Loads a module. -/
def loadWith (load : String → Action Unit) (file : String) : Action Unit := do
  let _ ← Action.call (.load file)
  load file

/-- Does a step of a test runner. -/
def perform (load : String → Action Unit) : TestStep → Action Unit
  | .load file => loadWith load file
  | .record recording => Action.record recording

/-- Runs the tests, and completes the run if the test runner says so. -/
def runTests {α : Type} (plan : TestPlan) (runner : TestRunner) (load : String → Action Unit)
    (complete : Action α) (files : List String) : Action (Option α) := do
  let _ ← Action.call .runTests
  (runner.steps plan.options files).forM (perform load)
  if runner.completes then
    let _ ← Action.call .complete
    some <$> complete
  else return none

/-- Starts a run: finds the test files, hands them to the test runner, loads the required modules
and runs the tests. Answers with the test files and with what completed the run. -/
def start {α : Type} (plan : TestPlan) (expand : String → Except String (List String))
    (runner : TestRunner) (load : String → Action Unit) (complete : Action α) :
    Action (List String × Option α) := do
  let files ← plan.files (expandWith expand)
  let _ ← Action.call (.configure plan.options)
  files.forM fun file => do
    let _ ← Action.call (.addFile file)
  plan.required.forM (loadWith load)
  let completed ← plan.runTests runner load complete files
  return (files, completed)

end TestPlan

end MappedCoverage
