import MappedCoverage.Collector
import MappedCoverage.Proofs.Config.Passing
import MappedCoverage.Proofs.Document.Removal

/-!
# The order of the options that are passed on

What a section or a report says and is not understood here is passed on, in the order in which it
is left when the options that are understood are taken out. This need not be the order in which it
was written.
-/

namespace MappedCoverage.Config

open Entries

/-- Options for the test runner, for the transpiler and for a report are passed on in the order in
which they are left when those are taken out that are understood. -/
theorem passed_settled {document specific : Document} (distinct : document.KeysDistinct)
    (specificDistinct : specific.KeysDistinct) (directory : String) :
    (∃ runner, Chosen "mocha" "runner" document runner ∧
      Settled ["require", "grep"] runner (resolve document).runner.extra) ∧
    (∃ transpiler, Chosen "babel" "transpiler" document transpiler ∧
      Settled ["include", "exclude", "sourceMap", "filename"] transpiler
        (resolve document).transpiler.options.extra) ∧
    Settled ["dir", "sourceStore"] (specific.asRecord?.getD [])
      (ReportOptions.merged directory specific).extra := by
  have runner := (distinct.sectionNamed ["mocha", "runner"]).1
  have transpiler := (distinct.sectionNamed ["babel", "transpiler"]).1
  have report := specificDistinct.asRecord?.1
  refine ⟨⟨_, chosen_sectionNamed .., ?_⟩, ⟨_, chosen_sectionNamed .., ?_⟩, ?_⟩
  · exact settled_removeAll runner (by decide)
  · exact settled_removeAll transpiler (by decide)
  · exact settled_removeAll report (by decide)

/-- Sections that name understood options before others. -/
def understoodFirst : Document :=
  .record
    [("mocha", .record [("require", .text "a"), ("ui", .text "bdd"),
        ("slow", .number (.integer 1))]),
      ("babel", .record [("include", .text "b"), ("presets", .sequence []),
        ("ast", .boolean true)])]

/-- Options of a report that names its directory before others. -/
def directoryFirst : Document :=
  .record [("dir", .text "o"), ("file", .number (.integer 1)), ("skip", .number (.integer 2))]

theorem understoodFirst_keysDistinct : understoodFirst.KeysDistinct := by
  simp [understoodFirst, Document.KeysDistinct, Document.EntriesDistinct, Document.ItemsDistinct]

theorem directoryFirst_keysDistinct : directoryFirst.KeysDistinct := by
  simp [directoryFirst, Document.KeysDistinct, Document.EntriesDistinct]

theorem passed_settled_understoodFirst :
    understoodFirst.KeysDistinct ∧ directoryFirst.KeysDistinct ∧
    keys (resolve understoodFirst).runner.extra = ["slow", "ui"] ∧
    keys (resolve understoodFirst).transpiler.options.extra = ["ast", "presets"] ∧
    keys (ReportOptions.merged "coverage" directoryFirst).extra = ["skip", "file"] ∧
    (∃ runner, Chosen "mocha" "runner" understoodFirst runner ∧
      Settled ["require", "grep"] runner (resolve understoodFirst).runner.extra) ∧
    (∃ transpiler, Chosen "babel" "transpiler" understoodFirst transpiler ∧
      Settled ["include", "exclude", "sourceMap", "filename"] transpiler
        (resolve understoodFirst).transpiler.options.extra) ∧
    Settled ["dir", "sourceStore"] (directoryFirst.asRecord?.getD [])
      (ReportOptions.merged "coverage" directoryFirst).extra :=
  ⟨understoodFirst_keysDistinct, directoryFirst_keysDistinct, rfl, rfl, rfl,
    passed_settled understoodFirst_keysDistinct directoryFirst_keysDistinct "coverage"⟩

/-- Options that are passed on need not keep their order, be they for the test runner, for the
transpiler or for a report. -/
theorem passed_loses_order :
    understoodFirst.KeysDistinct ∧ directoryFirst.KeysDistinct ∧
    (∃ runner, Chosen "mocha" "runner" understoodFirst runner ∧
      ¬ (keys (resolve understoodFirst).runner.extra).Sublist (keys runner)) ∧
    (∃ transpiler, Chosen "babel" "transpiler" understoodFirst transpiler ∧
      ¬ (keys (resolve understoodFirst).transpiler.options.extra).Sublist (keys transpiler)) ∧
    ¬ (keys (ReportOptions.merged "coverage" directoryFirst).extra).Sublist
      (keys (directoryFirst.asRecord?.getD [])) := by
  refine ⟨understoodFirst_keysDistinct, directoryFirst_keysDistinct,
    ⟨_, .first rfl, ?_⟩, ⟨_, .first rfl, ?_⟩, ?_⟩
  · decide
  · decide
  · decide

end MappedCoverage.Config
