import MappedCoverage.Proofs.Run.Accounts
import MappedCoverage.Proofs.Pipeline.Steps

/-!
# Accounts of the parts of a run

A load, an expansion, a step of the test runner and a report each make the calls that they stand
for, and stop at the first of them that fails.
-/

namespace MappedCoverage

open MappedCoverage.Action

variable {surroundings : Surroundings}

/-! ## Loads -/

namespace Pipeline

variable (pipeline : Pipeline) (file code : String) (session : Session)

theorem accounted_transpile :
    Accounted surroundings [] [] session
      ((pipeline.transpile surroundings.tools file code).runFrom session) := by
  rw [runFrom_transpile]
  split
  · exact accounted_single (.transpile code (pipeline.optionsFor file)) rfl rfl rfl rfl
  · exact accounted_pure code session

theorem accounted_instrument :
    Accounted surroundings [] [] session
      ((pipeline.instrument surroundings.tools file code).runFrom session) := by
  rw [runFrom_instrument]
  split
  · cases Annotated.annotate? code with
    | none => exact accounted_tooWide session
    | some text => exact accounted_single (.instrument code file) rfl rfl rfl rfl
  · exact accounted_pure code session

/-- What the host records counts also when its message ends the load. -/
theorem accounted_compile :
    Accounted surroundings [] [] session
      ((compile surroundings.host file code).runFrom session) := by
  let call : Call := .compile code file
  have reported : surroundings.host.reported session.calls [call] ++ [] =
      (surroundings.host.compile session.calls code file).1 := by
    rw [List.append_nil]
    exact List.append_nil _
  cases recorded : session.coverage.recordAll?
      (surroundings.host.compile session.calls code file).1 with
  | none =>
      obtain ⟨coverage, ended⟩ := runFrom_compile_of_none recorded
      rw [ended]
      refine ⟨[call], {
        calls := rfl
        outline := List.prefix_refl _
        reason := Or.inr (Or.inr ⟨rfl, [], List.prefix_refl _, ?_⟩) }⟩
      rw [reported]
      exact Coverage.exceeded_of_recordAll?_eq_none recorded
  | some coverage =>
      rw [runFrom_compile_of_some recorded, Host.verdict, recorded]
      cases fault : (surroundings.host.compile session.calls code file).2 with
      | none =>
          refine ⟨[call], {
            calls := rfl
            unbroken := ⟨?_, trivial⟩
            outline := rfl
            coverage := ?_ }⟩
          · rw [Surroundings.failure?, fault]
            rfl
          · rw [reported]
            exact ⟨_, List.Perm.refl _, recorded⟩
      | some message =>
          refine ⟨[call], {
            calls := rfl
            outline := List.prefix_refl _
            reason := Or.inl ⟨[], call, rfl, trivial, ?_⟩ }⟩
          rw [List.append_nil, Surroundings.failure?, fault]
          rfl

/-- Inside of a load of a file with a text, only its steps can fail. -/
theorem accounted_load {text : String} (read : surroundings.readText file = .ok text) :
    Accounted surroundings [] [] session
      ((pipeline.load surroundings.tools surroundings.host surroundings.readText file).runFrom
        session) := by
  have transformed : Accounted surroundings [] [] session
      ((pipeline.transform surroundings.tools surroundings.readText file).runFrom session) := by
    rw [transform_eq, read]
    exact (accounted_transpile _ _ _ _).bind fun code between _ =>
      accounted_instrument _ _ code between
  exact transformed.bind fun code between _ => accounted_compile file code between

end Pipeline

/-- A load fails at its own call if its file has no text, and else at a call inside of it. -/
theorem Run.accounted_load (run : Run) (file : String) (session : Session) :
    Accounted surroundings [.load file] [] session
      ((TestPlan.loadWith (run.load surroundings) file).runFrom session) := by
  cases read : surroundings.readText file with
  | error fault =>
      let called : Session := { session with calls := session.calls ++ [.load file] }
      have failed : (TestPlan.loadWith (run.load surroundings) file).runFrom session =
          (.error (fault.failure file), called) := by
        rw [TestPlan.loadWith, runFrom_bind_ok (runFrom_call _ _), load, Pipeline.load,
          Pipeline.transform_eq, read, runFrom_bind_error (runFrom_throw _ _)]
      rw [failed]
      refine accounted_single (.load file) rfl rfl rfl ?_
      rw [Surroundings.failure?, read]
      rfl
  | ok text =>
      have opened : Accounted surroundings [.load file] [] session
          ((call (.load file)).runFrom session) := by
        refine accounted_single (.load file) rfl rfl rfl ?_
        rw [Surroundings.failure?, read]
        rfl
      exact opened.bind fun _ between _ => run.pipeline.accounted_load file between read

/-! ## Test plans -/

/-- The calls of a step of the test runner. -/
def TestStep.calls : TestStep → List Call
  | .load file => [.load file]
  | .record _ => []

/-- What a step of the test runner records by itself. -/
def TestStep.recordings : TestStep → List Recording
  | .load _ => []
  | .record recording => [recording]

namespace ReportWriters

/-- The calls that make and write the reports of a configuration. -/
def calls (config : CoverageConfig) (collector : Collector) : List Call :=
  config.reporters.flatMap fun (name, specific) =>
    [.createReport name (ReportOptions.merged config.directory specific),
      .writeReport name true collector]

/-- A call that may fail with a message, and the failure that is made of it. -/
theorem accounted_reported {call : Call} {name : String} {answer : List Call → Option String}
    {session : Session} (silent : surroundings.host.recorded session.calls call = [])
    (fails : surroundings.failure? session.calls call = (answer session.calls).map (.report name)) :
    Accounted surroundings (outline [call]) [] session
      ((Action.call call >>= fun history => succeeded (.report name) (answer history)).runFrom
        session) := by
  rw [runFrom_bind_ok (runFrom_call _ _), runFrom_succeeded]
  refine accounted_single call rfl rfl silent ?_
  rw [fails]
  cases answer session.calls <;> rfl

theorem accounted_writeOne (directory : String) (collector : Collector) (name : String)
    (specific : Document) (session : Session) :
    Accounted surroundings
      [.createReport name (ReportOptions.merged directory specific),
        .writeReport name true collector] [] session
      ((surroundings.writers.writeOne directory collector name specific).runFrom session) := by
  let options := ReportOptions.merged directory specific
  have parts : surroundings.writers.writeOne directory collector name specific =
      (call (.createReport name options) >>= fun history =>
        succeeded (.report name) (surroundings.writers.create history name options)) >>= fun _ =>
      call (.writeReport name true collector) >>= fun history =>
        succeeded (.report name) (surroundings.writers.write history name collector) := by
    rw [bind_assoc]
    rfl
  rw [parts]
  exact (accounted_reported rfl rfl).bind fun _ between _ => accounted_reported rfl rfl

theorem runFrom_complete (writers : ReportWriters) (config : CoverageConfig) (session : Session) :
    (writers.complete config).runFrom session =
      match collected? config session.coverage with
      | none => (.error .counterTooLarge, session)
      | some collector =>
          ((config.reporters.forM fun (name, specific) =>
            writers.writeOne config.directory collector name specific) >>= fun _ =>
              pure collector).runFrom session := by
  have read : (writers.complete config).runFrom session =
      (match collected? config session.coverage with
        | none => throw Failure.counterTooLarge
        | some collector =>
            (config.reporters.forM fun (name, specific) =>
              writers.writeOne config.directory collector name specific) >>= fun _ =>
                (pure collector : Action Collector)).runFrom session := rfl
  rw [read]
  cases collected? config session.coverage <;> rfl

/-- A session has only made calls of reports since then. -/
def OnlyReports (start later : Session) : Prop :=
  ∃ made, later = { start with calls := start.calls ++ made } ∧ outline made = made

theorem OnlyReports.call {start later : Session} (reports : OnlyReports start later) {call : Call}
    (outside : outline [call] = [call]) :
    OnlyReports start { later with calls := later.calls ++ [call] } := by
  obtain ⟨made, rfl, whole⟩ := reports
  refine ⟨made ++ [call], ?_, ?_⟩
  · rw [List.append_assoc]
  · rw [outline_append, whole, outside]

theorem preserves_complete (writers : ReportWriters) (config : CoverageConfig) (start : Session) :
    Preserves (OnlyReports start) (writers.complete config) := by
  intro session reports
  rw [runFrom_complete]
  cases collected? config session.coverage with
  | none => exact reports
  | some collector =>
      have written : Preserves (OnlyReports start)
          (config.reporters.forM fun (name, specific) =>
            writers.writeOne config.directory collector name specific) := by
        refine Preserves.forM fun (name, specific) => ?_
        refine Preserves.bind (fun _ reports => reports.call rfl) fun history => ?_
        refine Preserves.bind (preserves_succeeded _ _) fun _ => ?_
        refine Preserves.bind (fun _ reports => reports.call rfl) fun history => ?_
        exact preserves_succeeded _ _
      exact written.bind (fun _ => preserves_pure collector) session reports

section

variable {config : CoverageConfig} {collector : Collector} {session : Session}

theorem accounted_complete (collects : collected? config session.coverage = some collector) :
    Accounted surroundings (calls config collector) [] session
      ((surroundings.writers.complete config).runFrom session) := by
  rw [runFrom_complete, collects, ← List.append_nil (calls config collector)]
  refine Accounted.bind (Accounted.forM_silent ?_ session) fun _ session _ => ?_
  · exact fun (name, specific) session =>
      accounted_writeOne config.directory collector name specific session
  · exact accounted_pure collector session

/-- Writing the reports answers with what they were written from, and records nothing. -/
theorem runFrom_complete_eq_ok {writers : ReportWriters} {answer : Collector} {after : Session}
    (collects : collected? config session.coverage = some collector)
    (ended : (writers.complete config).runFrom session = (.ok answer, after)) :
    answer = collector ∧ after.coverage = session.coverage := by
  have reports := preserves_complete writers config session session
    ⟨[], by rw [List.append_nil], rfl⟩
  rw [ended] at reports
  obtain ⟨made, rfl, _⟩ := reports
  rw [runFrom_complete, collects] at ended
  obtain ⟨_, between, _, answered⟩ := runFrom_bind_eq_ok ended
  cases answered
  exact ⟨rfl, rfl⟩

end

end ReportWriters

end MappedCoverage
