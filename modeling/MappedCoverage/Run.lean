import MappedCoverage.Pipeline
import MappedCoverage.Reports
import MappedCoverage.TestPlan

/-!
# Runs

A run finds the tests of a configuration, loads every module that they need through the pipeline,
and writes the reports when the tests are done.
-/

namespace MappedCoverage

/-- All that a run works with but does not do itself. -/
structure Surroundings where
  tools : Tools
  host : Host
  writers : ReportWriters
  runner : TestRunner
  readText (path : String) : Except ReadFault String
  expand (pattern : String) : Except String (List String)
  workingDirectory : String

/-- What a finished run has found; without completion nothing is collected. -/
structure Outcome where
  testFiles : List String
  collector : Option Collector

/-- A configuration whose patterns are all well-formed. -/
structure Run where
  config : Config
  pipeline : Pipeline

namespace Run

/-- The run of a configuration. -/
def ofConfig (config : Config) : Except Failure Run := do
  let pipeline ← Pipeline.ofConfig config
  return ⟨config, pipeline⟩

/-- Loads a module. -/
def load (run : Run) (surroundings : Surroundings) (file : String) : Action Unit :=
  run.pipeline.load surroundings.tools surroundings.host surroundings.readText file

/-- Runs the tests. -/
def execute (run : Run) (surroundings : Surroundings) : Action Outcome := do
  let plan := TestPlan.ofConfig run.config surroundings.workingDirectory
  let (testFiles, collector) ←
    plan.start surroundings.expand surroundings.runner (run.load surroundings)
      (surroundings.writers.complete run.config.coverage)
  return ⟨testFiles, collector⟩

end Run

end MappedCoverage
