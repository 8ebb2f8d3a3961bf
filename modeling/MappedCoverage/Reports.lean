import MappedCoverage.Session

/-!
# Reports

When the tests are done, the recorded coverage is collected once, and each report of the
configuration is created and written in turn. The first report that fails ends the run.
-/

namespace MappedCoverage

/-- What makes and writes reports by their names; a message stands for a failure. What they do may
depend on all calls so far. -/
structure ReportWriters where
  create (history : List Call) (name : String) (options : ReportOptions) : Option String
  write (history : List Call) (name : String) (collector : Collector) : Option String

namespace ReportWriters

/-- Creates and writes one report. -/
def writeOne (writers : ReportWriters) (directory : String) (collector : Collector)
    (name : String) (specific : Document) : Action Unit := do
  let options := ReportOptions.merged directory specific
  let history ← Action.call (.createReport name options)
  Action.succeeded (.report name) (writers.create history name options)
  let history ← Action.call (.writeReport name true collector)
  Action.succeeded (.report name) (writers.write history name collector)

/-- The coverage of a session, collected for the reports of a configuration. -/
def collected? (config : CoverageConfig) (coverage : Coverage) : Option Collector :=
  (Collector.withOptions config.collector).add? coverage

/-- Collects the coverage and writes all reports. -/
def complete (writers : ReportWriters) (config : CoverageConfig) : Action Collector := do
  let session ← get
  match collected? config session.coverage with
  | none => throw .counterTooLarge
  | some collector =>
      config.reporters.forM fun (name, specific) =>
        writers.writeOne config.directory collector name specific
      return collector

end ReportWriters

end MappedCoverage
