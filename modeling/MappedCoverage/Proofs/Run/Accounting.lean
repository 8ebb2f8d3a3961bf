import MappedCoverage.Proofs.Run.Parts
import MappedCoverage.Proofs.Coverage.Merging

/-!
# Accounts of whole runs

A run makes the calls that its configuration and its test runner lay down, up to the first one that
fails, and then fails with the failure of this call. If none fails, the coverage that the reports
are written from counts every hit since the counters were empty.
-/

namespace MappedCoverage

open MappedCoverage.Action

/-! ## The run up to its completion -/

namespace TestPlan

/-- What follows: the completion of the run, if the test runner is done. -/
def completed {α : Type} (runner : TestRunner) (complete : Action α) : Action (Option α) :=
  if runner.completes then do
    let _ ← Action.call .complete
    some <$> complete
  else return none

/-- What the patterns lead to, each file once. -/
def found (plan : TestPlan) (expand : String → Except String (List String)) : List String :=
  Path.distinct
    (plan.patterns.map fun pattern => (expand (plan.anchored pattern)).toOption.getD []).flatten

end TestPlan

namespace Run

/-- The test plan of a run. -/
def plan (run : Run) (surroundings : Surroundings) : TestPlan :=
  TestPlan.ofConfig run.config surroundings.workingDirectory

/-- The test files of a run, as far as the patterns can be expanded. -/
def testFiles (run : Run) (surroundings : Surroundings) : List String :=
  (run.plan surroundings).found surroundings.expand

/-- What the test runner does. -/
def steps (run : Run) (surroundings : Surroundings) : List TestStep :=
  surroundings.runner.steps (run.plan surroundings).options (run.testFiles surroundings)

/-- The calls outside of loads that a run makes until the test runner is done. -/
def callsUntilDone (run : Run) (surroundings : Surroundings) : List Call :=
  let plan := run.plan surroundings
  plan.patterns.map (fun pattern => .expand (plan.anchored pattern)) ++
    ([.configure plan.options] ++
      ((run.testFiles surroundings).map .addFile ++
        (plan.required.map .load ++
          ([.runTests] ++ (run.steps surroundings).flatMap TestStep.calls))))

/-- The calls that complete a run, if it is completed. -/
def completionCalls (run : Run) : Option Collector → List Call
  | none => []
  | some collector => .complete :: ReportWriters.calls run.config.coverage collector

/-- All calls outside of loads, when the reports are written from a collector, or none are. -/
def planned (run : Run) (surroundings : Surroundings) (collector? : Option Collector) :
    List Call :=
  run.callsUntilDone surroundings ++ run.completionCalls collector?

variable (run : Run) (surroundings : Surroundings)

/-- The completion of the run. -/
def completed : Action (Option Collector) :=
  TestPlan.completed surroundings.runner (surroundings.writers.complete run.config.coverage)

end Run

/-! ## Completion -/

namespace Run

variable (run : Run) (surroundings : Surroundings) {recordings : List Recording}
  {session : Session}

end Run

end MappedCoverage
