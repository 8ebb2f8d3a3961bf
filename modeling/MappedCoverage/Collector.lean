import MappedCoverage.Coverage
import MappedCoverage.Document.Basic

/-!
# Collectors and reports

A collector merges the coverage of several runs for the reports. A report gets the collector and
its own options: the directory and the store that all reports share, overlaid with what the report
says itself.
-/

namespace MappedCoverage

/-- Merged coverage, with the number of merged parts. -/
structure Collector where
  options : Entries Document
  sources : Nat
  merged : Coverage

namespace Collector

/-- A collector that nothing was added to. -/
def withOptions (options : Entries Document) : Collector := ⟨options, 0, .empty⟩

/-- Adds a coverage. -/
def add? (collector : Collector) (coverage : Coverage) : Option Collector := do
  let merged ← collector.merged.merge? coverage
  return { collector with sources := collector.sources + 1, merged }

end Collector

/-- The options of one report. -/
structure ReportOptions where
  directory : String
  /-- Whether the report sees the store of annotated texts. -/
  seesStore : Bool
  extra : Entries Document

/-- The options of a report that says `specific`, where reports go to `directory`: a text `dir`
moves the report, and a `sourceStore` of false or null hides the store. -/
def ReportOptions.merged (directory : String) (specific : Document) : ReportOptions :=
  let entries := (specific.asRecord?).getD []
  { directory := ((Entries.get? "dir" entries).bind Document.asText?).getD directory
    seesStore :=
      match Entries.get? "sourceStore" entries with
      | some (.boolean false) => false
      | some .null => false
      | _ => true
    extra := Entries.removeAll ["dir", "sourceStore"] entries }

end MappedCoverage
