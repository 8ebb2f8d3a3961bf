import MappedCoverage.Proofs.Coverage.Sinks
import MappedCoverage.Proofs.Document.Records
import MappedCoverage.Proofs.Run.Parts

/-!
# The reports of a run

Each report is created and written in turn, from one collector that holds what was recorded. The
options of a report overlay what all reports share, and the first call that fails is the last one.
-/

namespace MappedCoverage

/-! ## Options of reports -/

/-- The options of a report, where reports go to a directory and this one says something itself. -/
structure ReportOptions.Overlays (options : ReportOptions) (directory : String)
    (specific : Document) : Prop where
  moved : ∀ own, specific.field? "dir" = some (.text own) → options.directory = own
  stays : (∀ own, specific.field? "dir" ≠ some (.text own)) → options.directory = directory
  hidden : options.seesStore = false ↔
    specific.field? "sourceStore" = some (.boolean false) ∨
      specific.field? "sourceStore" = some .null
  remaining : options.extra.Perm
    ((specific.asRecord?.getD []).filter (·.1 ∉ ["dir", "sourceStore"]))

theorem ReportOptions.overlays_merged {specific : Document} (distinct : specific.KeysDistinct)
    (directory : String) :
    (merged directory specific).Overlays directory specific where
  moved := by
    intro own found
    rw [merged, Document.get?_asRecord?, found]
    rfl
  stays := by
    intro other
    simp only [merged, Document.get?_asRecord?]
    cases found : specific.field? "dir" with
    | none => rfl
    | some value =>
        cases value with
        | text own => exact absurd found (other own)
        | _ => rfl
  hidden := by
    simp only [merged, Document.get?_asRecord?]
    split <;> simp_all
  remaining := Entries.removeAll_perm distinct.asRecord?.1 ["dir", "sourceStore"]

/-! ## Collecting -/

/-- What was recorded is collected as it is. -/
theorem ReportWriters.collected?_of_recorded {recordings : List Recording} {coverage : Coverage}
    (recorded : Coverage.empty.recordAll? recordings = some coverage) (config : CoverageConfig) :
    collected? config coverage = some ⟨config.collector, 1, coverage⟩ := by
  have nothing : Coverage.empty.recordAll? [] = some .empty := rfl
  have alone : Coverage.empty.merge? coverage = some coverage :=
    Coverage.merge?_recorded (List.Perm.refl recordings) nothing recorded recorded
  rw [collected?, Collector.add?, Collector.withOptions, alone]
  rfl

namespace ReportWriters

open MappedCoverage.Action

/-! ## Calls of reports -/

/-- A call of a report fails with a message, which its failure keeps together with the name. -/
inductive Fails (writers : ReportWriters) (history : List Call) : Call → Failure → Prop where
  | create {name : String} {options : ReportOptions} {message : String}
      (refused : writers.create history name options = some message) :
      Fails writers history (.createReport name options) (.report name message)
  | write {name : String} {collector : Collector} {message : String}
      (refused : writers.write history name collector = some message) :
      Fails writers history (.writeReport name true collector) (.report name message)

section

variable {surroundings : Surroundings} {config : CoverageConfig} {collector : Collector}
  {history : List Call} {call : Call} {failure : Failure}

theorem mem_calls :
    call ∈ calls config collector ↔ ∃ name specific, (name, specific) ∈ config.reporters ∧
      (call = .createReport name (.merged config.directory specific) ∨
        call = .writeReport name true collector) := by
  simp [calls]

theorem fails_of_failure? (planned : call ∈ calls config collector)
    (fails : surroundings.failure? history call = some failure) :
    surroundings.writers.Fails history call failure := by
  obtain ⟨name, specific, _, rfl | rfl⟩ := mem_calls.mp planned
  · obtain ⟨message, refused, rfl⟩ := Option.map_eq_some_iff.mp fails
    exact .create refused
  · obtain ⟨message, refused, rfl⟩ := Option.map_eq_some_iff.mp fails
    exact .write refused

end

/-- A failure of a report. -/
def NamesReport (failure : Failure) : Prop :=
  ∃ name message, failure = .report name message

theorem failsLike_writeOne (writers : ReportWriters) (directory : String) (collector : Collector)
    (name : String) (specific : Document) :
    FailsLike NamesReport (writers.writeOne directory collector name specific) := by
  have blames (message : String) : NamesReport (.report name message) := ⟨name, message, rfl⟩
  refine (failsLike_call _).bind fun history => ?_
  refine (failsLike_succeeded blames _).bind fun _ => ?_
  exact (failsLike_call _).bind fun history => failsLike_succeeded blames _

/-- Only a report can fail a run whose coverage is collected. -/
theorem namesReport_of_complete {writers : ReportWriters} {config : CoverageConfig}
    {collector : Collector} {session after : Session} {failure : Failure}
    (collects : collected? config session.coverage = some collector)
    (failed : (writers.complete config).runFrom session = (.error failure, after)) :
    NamesReport failure := by
  rw [runFrom_complete, collects] at failed
  rcases runFrom_bind_eq_error failed with early | ⟨_, between, _, late⟩
  · refine FailsLike.forM (fun entry => ?_) session failure after early
    exact failsLike_writeOne writers config.directory collector entry.1 entry.2
  · exact failsLike_pure collector between failure after late

section

variable {surroundings : Surroundings} {config : CoverageConfig} {session after : Session}
  {result : Except Failure Collector}

/-- The reports make their calls and nothing else, up to the first one that fails. -/
theorem complete_stops {collector : Collector}
    (collects : collected? config session.coverage = some collector)
    (ran : (surroundings.writers.complete config).runFrom session = (result, after)) :
    ∃ made, after = { session with calls := session.calls ++ made } ∧
      made <+: calls config collector ∧
      (result = .ok collector ∧ made = calls config collector ∧
          surroundings.Unbroken session.calls made ∨
        ∃ failure, result = .error failure ∧ surroundings.Breaks session.calls made failure) := by
  have account : Accounted surroundings (calls config collector) [] session (result, after) := by
    rw [← ran]
    exact accounted_complete collects
  obtain ⟨made, rfl, whole⟩ : OnlyReports session after := by
    have reports := preserves_complete surroundings.writers config session session
      ⟨[], by rw [List.append_nil], rfl⟩
    rwa [ran] at reports
  cases result with
  | ok answer =>
      have finished := account.finished rfl
      obtain ⟨rfl, _⟩ := runFrom_complete_eq_ok collects ran
      have all : made = calls config answer := whole.symm.trans finished.outline
      exact ⟨made, rfl, all ▸ List.prefix_refl _, Or.inl ⟨rfl, all, finished.unbroken⟩⟩
  | error failure =>
      have stopped := account.stopped rfl
      have part : made <+: calls config collector := whole ▸ stopped.outline
      obtain ⟨name, message, rfl⟩ := namesReport_of_complete collects ran
      have breaks : surroundings.Breaks session.calls made (.report name message) := by
        rcases stopped.reason with breaks | wide | ⟨full, _⟩
        · exact breaks
        · cases wide
        · cases full
      exact ⟨made, rfl, part, Or.inr ⟨_, rfl, breaks⟩⟩

/--
When a run completes, the calls of its reports are made in the order of the configuration until one
of them fails: for each report, it is created with its overlaid options and written at once from the
collector of all that was recorded, which is the same for all reports. The answer is this collector
if no call fails, and else the failure names the report of the last call and keeps its message;
nothing but the calls is changed.
-/
theorem complete_dispatches {recordings : List Recording}
    (recorded : Coverage.empty.recordAll? recordings = some session.coverage)
    (distinct : (Document.record config.reporters).KeysDistinct)
    (ran : (surroundings.writers.complete config).runFrom session = (result, after)) :
    let collector : Collector := ⟨config.collector, 1, session.coverage⟩
    let planned := calls config collector
    ∃ made, after = { session with calls := session.calls ++ made } ∧ made <+: planned ∧
      (made = planned ↔ surroundings.Unbroken session.calls planned.dropLast) ∧
      (result = .ok collector ↔ surroundings.Unbroken session.calls made) ∧
      (∀ answer, result = .ok answer → answer = collector ∧ made = planned) ∧
      (∀ failure, result = .error failure →
        ∃ earlier last, made = earlier ++ [last] ∧ surroundings.Unbroken session.calls earlier ∧
          surroundings.writers.Fails (session.calls ++ earlier) last failure) ∧
      (∀ name options, .createReport name options ∈ made →
        ∃ specific, (name, specific) ∈ config.reporters ∧
          options.Overlays config.directory specific) ∧
      ∀ name sync written, .writeReport name sync written ∈ made →
        sync = true ∧ written = collector := by
  intro collector planned
  obtain ⟨made, rfl, part, ended⟩ := complete_stops (collected?_of_recorded recorded config) ran
  refine ⟨made, rfl, part, ?_, ?_, ?_, ?_, ?_, ?_⟩
  · apply Surroundings.eq_iff_unbroken_dropLast part
    rcases ended with ⟨_, all, unbroken⟩ | ⟨failure, _, breaks⟩
    · exact Or.inl ⟨all, unbroken⟩
    · exact Or.inr ⟨failure, breaks⟩
  · rcases ended with ⟨rfl, _, unbroken⟩ | ⟨failure, rfl, breaks⟩
    · exact iff_of_true rfl unbroken
    · refine iff_of_false (fun same => ?_) breaks.not_unbroken
      cases same
  · rintro answer rfl
    rcases ended with ⟨same, all, _⟩ | ⟨failure, failed, _⟩
    · cases same
      exact ⟨rfl, all⟩
    · cases failed
  · rintro failure rfl
    rcases ended with ⟨same, _⟩ | ⟨_, same, earlier, last, rfl, unbroken, fails⟩
    · cases same
    · cases same
      exact ⟨earlier, last, rfl, unbroken,
        fails_of_failure? (part.subset List.mem_concat_self) fails⟩
  · intro name options called
    obtain ⟨_, specific, inside, created | written⟩ := mem_calls.mp (part.subset called)
    · cases created
      exact ⟨specific, inside, ReportOptions.overlays_merged (distinct.2.of_mem inside) _⟩
    · cases written
  · intro name sync written called
    obtain ⟨_, specific, _, created | same⟩ := mem_calls.mp (part.subset called)
    · cases created
    · cases same
      exact ⟨rfl, rfl⟩

end

/-- A configuration of two reports, the first of which goes elsewhere and does not see the store. -/
def twoReports : CoverageConfig where
  directory := "coverage"
  reporters :=
    [("text", .record [("dir", .text "out"), ("sourceStore", .null), ("columns", .text "80")]),
      ("html", .null)]
  collector := [("verbose", .boolean true)]
  instrumenter := []
  coverageVariable := "counted"
  excludes := []

/-- Surroundings where the second report cannot be written. -/
def fullDisk : Surroundings where
  tools := ⟨fun _ source _ => .ok source, fun _ source _ => .ok source⟩
  host := ⟨fun _ _ _ => ([], none)⟩
  writers :=
    ⟨fun _ _ _ => none, fun _ name _ => if name = "html" then some "disk full" else none⟩
  runner := ⟨fun _ _ => [], true⟩
  readText := fun _ => .error .missing
  expand := fun _ => .ok []
  workingDirectory := "/"

/-- A run fails with its last write; all calls were made, though not all of them went well. -/
theorem complete_dispatches_full_disk :
    let session : Session := ⟨.empty, ⟨[("a.js", [("s", 1)])]⟩, []⟩
    let collector : Collector := ⟨[("verbose", .boolean true)], 1, session.coverage⟩
    Coverage.empty.recordAll? [.hit "a.js" "s"] = some session.coverage ∧
      (Document.record twoReports.reporters).KeysDistinct ∧
      ∃ after, (fullDisk.writers.complete twoReports).runFrom session =
          (.error (.report "html" "disk full"), after) ∧
        after.calls =
          [.createReport "text" ⟨"out", false, [("columns", .text "80")]⟩,
            .writeReport "text" true collector, .createReport "html" ⟨"coverage", true, []⟩,
            .writeReport "html" true collector] ∧
        ¬ fullDisk.Unbroken [] after.calls := by
  intro session collector
  have recorded : Coverage.empty.recordAll? [.hit "a.js" "s"] = some session.coverage := by decide
  have distinct : (Document.record twoReports.reporters).KeysDistinct := by
    simp [twoReports, Document.KeysDistinct, Document.EntriesDistinct]
  have ended : ((fullDisk.writers.complete twoReports).runFrom session).1 =
      .error (.report "html" "disk full") := rfl
  obtain ⟨after, ran⟩ : ∃ after, (fullDisk.writers.complete twoReports).runFrom session =
      (.error (.report "html" "disk full"), after) := ⟨_, Prod.ext ended rfl⟩
  obtain ⟨made, rfl, part, whole, succeeds, _⟩ := complete_dispatches recorded distinct ran
  refine ⟨recorded, distinct, _, ran, ?_, ?_⟩
  · exact whole.mpr ⟨rfl, rfl, rfl, trivial⟩
  · intro unbroken
    cases succeeds.mpr unbroken

/-- All calls are made, and yet the last one of them fails. -/
theorem complete_calls_all_though_last_fails :
    let session : Session := ⟨.empty, ⟨[("a.js", [("s", 1)])]⟩, []⟩
    let planned := calls twoReports ⟨twoReports.collector, 1, session.coverage⟩
    ∃ made after, (fullDisk.writers.complete twoReports).runFrom session =
        (.error (.report "html" "disk full"), after) ∧
      after.calls = session.calls ++ made ∧
      ¬ (made = planned ↔ fullDisk.Unbroken session.calls made) := by
  intro session planned
  refine ⟨planned, { session with calls := planned }, rfl, rfl, fun whole => ?_⟩
  obtain ⟨_, _, _, failed, _⟩ := whole.mp rfl
  cases failed

end ReportWriters

end MappedCoverage
