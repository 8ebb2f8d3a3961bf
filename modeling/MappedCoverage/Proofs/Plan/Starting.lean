import MappedCoverage.Proofs.Gate.Tests
import MappedCoverage.Proofs.Plan.Files
import MappedCoverage.Proofs.Run.Parts

/-!
# How a start goes

A start asks for the test files, hands them to the test runner, has the required modules loaded and
lets the test runner run, in this order. What fails first ends it, and its calls up to there are all
that it has made. The completion belongs to the test runner alone.
-/

namespace MappedCoverage

open MappedCoverage.Action

namespace TestPlan

variable {α : Type}

/-- The calls that hand a test runner its options and its files. -/
def handover (plan : TestPlan) (files : List String) : List Call :=
  .configure plan.options :: files.map .addFile

/-- The path of a required module: an absolute one stays, any other is taken from a directory. -/
structure Located (directory file path : String) : Prop where
  kept : Path.isAbsolute file = true → path = file
  joined : Path.isAbsolute file = false →
    path.toList = directoryStart directory.toList ++ file.toList

/-- The patterns of a plan lead to these test files. -/
def Finds (plan : TestPlan) (expander : Expander) (session : Session) (files : List String)
    (found : Session) : Prop :=
  ∃ lists, plan.Expands expander plan.patterns session lists found ∧
    Path.FirstSpellings lists.flatten files

/-- Modules are loaded one after another. -/
def Loads (parties : Parties α) (modules : List String) (session after : Session) : Prop :=
  ∃ done, InTurn .load parties.load modules session done after

/-- The ways in which a start goes from a session: the calls that it makes, what it comes to, and
the session that it leaves. -/
inductive Course (plan : TestPlan) (parties : Parties α) (session : Session) :
    List Call → Except Failure (List String × Option α) → Session → Prop where
  /-- The first pattern that cannot be expanded ends the start; nobody else is called. -/
  | unexpanded {earlier later : List String} {pattern : String} {lists : List (List String)}
      {before after : Session} {failure : Failure}
      (listed : plan.patterns = earlier ++ pattern :: later)
      (expanded : plan.Expands parties.expander earlier session lists before)
      (failed : (parties.expander.expand (plan.anchored pattern)).runFrom
        (before.noting [.expand (plan.anchored pattern)]) = (.error failure, after)) :
      Course plan parties session (plan.asked (earlier ++ [pattern])) (.error failure) after
  /-- The first required module that cannot be loaded ends the start before the tests run. -/
  | unloaded {earlier later files : List String} {file : String} {found before after : Session}
      {failure : Failure}
      (finds : plan.Finds parties.expander session files found)
      (required : plan.required = earlier ++ file :: later)
      (loaded : Loads parties earlier (found.noting (plan.handover files)) before)
      (failed : (parties.load file).runFrom (before.noting [.load file]) =
        (.error failure, after)) :
      Course plan parties session
        (plan.asked plan.patterns ++ plan.handover files ++ (earlier ++ [file]).map .load)
        (.error failure) after
  /-- The test runner runs once, and the start comes to what it reports. -/
  | ran {files : List String} {within : List Call} {found before after : Session}
      {report : Except Failure (Option α)}
      (finds : plan.Finds parties.expander session files found)
      (loaded : Loads parties plan.required (found.noting (plan.handover files)) before)
      (goes : (parties.conduct plan.options files).Goes parties.load parties.complete none
        (before.noting [.runTests]) within report after)
      (runner : RunnerCalls 1 within) :
      Course plan parties session
        (plan.asked plan.patterns ++ plan.handover files ++ plan.required.map .load ++
          .runTests :: within)
        (report.map fun completed => (files, completed)) after

section

variable {plan : TestPlan} {parties : Parties α} {session found before after : Session}
  {files modules : List String} {failure : Failure} {made : List Call}
  {result : Except Failure (List String × Option α)}

/-! ## Finding, handing over and loading -/

theorem finds_of_files
    (listed : (plan.files parties.expander.ask).runFrom session = (.ok files, found)) :
    plan.Finds parties.expander session files found := by
  rw [files_eq] at listed
  obtain ⟨lists, _, expanded, answered⟩ := runFrom_bind_eq_ok listed
  cases answered
  exact ⟨lists, runFrom_expandAll_eq_ok_iff.mp expanded, Path.firstSpellings_distinct _⟩

theorem Finds.adds (finds : plan.Finds parties.expander session files found) :
    Adds session (plan.asked plan.patterns) found := by
  obtain ⟨_, expanded, _⟩ := finds
  exact expanded.adds

theorem adds_handover (plan : TestPlan) (files : List String) (session : Session) :
    Adds session (plan.handover files) (session.noting (plan.handover files)) := by
  apply adds_noting
  intro call inside
  rcases List.mem_cons.mp inside with rfl | added
  · rfl
  · obtain ⟨file, _, rfl⟩ := List.mem_map.mp added
    rfl

theorem runFrom_handover {β : Type} (plan : TestPlan) (files : List String)
    (next : Unit → Action β) (session : Session) :
    (do
      let _ ← Action.call (.configure plan.options)
      (files.forM fun file => do let _ ← Action.call (.addFile file)) >>= next).runFrom session =
      (next ()).runFrom (session.noting (plan.handover files)) := by
  rw [runFrom_bind_ok (runFrom_call _ _), runFrom_bind_ok (runFrom_forM_call _ _ _)]
  congr 1
  simp [Session.noting, handover]

theorem loads_of_forM
    (loaded : (modules.forM (loadWith parties.load)).runFrom session = (.ok (), after)) :
    Loads parties modules session after := by
  rw [forM_eq_mapM] at loaded
  obtain ⟨done, _, answered, same⟩ := runFrom_bind_eq_ok loaded
  cases same
  exact ⟨done, runFrom_mapM_eq_ok_iff.mp answered⟩

theorem exists_loads_of_forM
    (stopped : (modules.forM (loadWith parties.load)).runFrom session = (.error failure, after)) :
    ∃ earlier file later before, modules = earlier ++ file :: later ∧
      Loads parties earlier session before ∧
      (parties.load file).runFrom (before.noting [.load file]) = (.error failure, after) := by
  rw [forM_eq_mapM] at stopped
  rcases runFrom_bind_eq_error stopped with within | ⟨_, _, _, never⟩
  · obtain ⟨earlier, file, later, done, before, listed, turns, failed⟩ :=
      exists_inTurn_of_mapM within
    exact ⟨earlier, file, later, before, listed, ⟨done, turns⟩, failed⟩
  · cases never

/-! ## The courses -/

/-- The calls of a course are all that a start makes. -/
theorem Course.adds (course : plan.Course parties session made result after) :
    Adds session made after := by
  cases course with
  | unexpanded _ expanded failed => exact expanded.adds_stopped failed
  | unloaded finds _ loaded failed =>
      obtain ⟨_, turns⟩ := loaded
      refine (finds.adds.trans (plan.adds_handover _ _)).trans ?_
      exact turns.adds_stopped (fun _ => rfl) parties.loads_discreet failed
  | @ran _ _ _ before _ _ finds loaded goes _ =>
      obtain ⟨_, turns⟩ := loaded
      have loads := turns.adds (fun _ => rfl) parties.loads_discreet
      have called : Adds before [.runTests] (before.noting [.runTests]) :=
        adds_noting before (by simp [Call.ofStart])
      have tested := called.trans (goes.adds parties.loads_discreet parties.complete_discreet)
      exact ((finds.adds.trans (plan.adds_handover _ _)).trans loads).trans tested

/-- What a start does once it has the test files. -/
def startFrom (plan : TestPlan) (parties : Parties α) (files : List String) :
    Action (List String × Option α) := do
  plan.required.forM (loadWith parties.load)
  let completed ← plan.runTestsWith parties files
  return (files, completed)

theorem runFrom_startWith_of_listed
    (listed : (plan.files parties.expander.ask).runFrom session = (.ok files, found)) :
    (plan.startWith parties).runFrom session =
      (plan.startFrom parties files).runFrom (found.noting (plan.handover files)) := by
  rw [startWith, runFrom_bind_ok listed]
  exact plan.runFrom_handover files (fun _ => plan.startFrom parties files) found

theorem runFrom_startFrom_of_loaded {report : Except Failure (Option α)}
    (loaded : (plan.required.forM (loadWith parties.load)).runFrom session = (.ok (), before))
    (tested : ((parties.conduct plan.options files).perform parties.load parties.complete
      none).runFrom (before.noting [.runTests]) = (report, after)) :
    (plan.startFrom parties files).runFrom session =
      (report.map fun completed => (files, completed), after) := by
  rw [startFrom, runFrom_bind_ok loaded, runFrom_bind, runTestsWith, runFrom_announced, tested]
  cases report <;> rfl

theorem exists_course_of_unlisted
    (unlisted : (plan.files parties.expander.ask).runFrom session = (.error failure, after)) :
    ∃ made, plan.Course parties session made (.error failure) after := by
  rw [files_eq] at unlisted
  rcases runFrom_bind_eq_error unlisted with stopped | ⟨_, _, _, never⟩
  · obtain ⟨earlier, pattern, later, lists, before, listed, expanded, failed⟩ :=
      exists_inTurn_of_mapM stopped
    exact ⟨_, .unexpanded listed expanded failed⟩
  · cases never

theorem exists_course_of_found (finds : plan.Finds parties.expander session files found) :
    let ran := (plan.startFrom parties files).runFrom (found.noting (plan.handover files))
    ∃ made, plan.Course parties session made ran.1 ran.2 := by
  intro ran
  cases loading : (plan.required.forM (loadWith parties.load)).runFrom
      (found.noting (plan.handover files)) with
  | mk result before =>
      cases result with
      | error failure =>
          obtain ⟨earlier, file, later, between, required, loaded, failed⟩ :=
            exists_loads_of_forM loading
          have ended : ran = (.error failure, before) := runFrom_bind_error loading _
          rw [ended]
          exact ⟨_, .unloaded finds required loaded failed⟩
      | ok _ =>
          obtain ⟨within, goes⟩ := (parties.conduct plan.options files).exists_goes parties.load
            parties.complete none (before.noting [.runTests])
          have ended : ran = _ := runFrom_startFrom_of_loaded loading rfl
          rw [ended]
          exact ⟨_, .ran finds (loads_of_forM loading) goes goes.runnerCalls⟩

theorem exists_course (plan : TestPlan) (parties : Parties α) (session : Session) :
    let ran := (plan.startWith parties).runFrom session
    ∃ made, plan.Course parties session made ran.1 ran.2 := by
  intro ran
  cases listed : (plan.files parties.expander.ask).runFrom session with
  | mk result found =>
      cases result with
      | error failure =>
          have ended : ran = (.error failure, found) := runFrom_bind_error listed _
          rw [ended]
          exact exists_course_of_unlisted listed
      | ok files =>
          have ended : ran = _ := runFrom_startWith_of_listed listed
          rw [ended]
          exact exists_course_of_found (finds_of_files listed)

end

theorem located_join (directory file : String) :
    Located directory file (Path.join directory file) where
  kept absolute := if_pos absolute
  joined relative := toList_join relative directory

/-- Every start takes one of its courses, and makes its calls and no others. If a pattern cannot be
expanded, the first such pattern fails it before anyone else is called. Otherwise the test runner is
handed its options and then the test files in order, and the required modules, taken from the
working directory, are loaded in order; the first one that cannot be loaded fails the start, and the
test runner does not run. If all are loaded, the test runner runs once, and the start comes to the
test files exactly if the test runner reports success. The run is completed at most once, and only
by the test runner while it runs. The start of a program is one of these. -/
theorem startWith_takes_course (plan : TestPlan) (parties : Parties α) (session : Session) :
    List.Forall₂ (Located plan.workingDirectory) plan.options.require plan.required ∧
      (let ran := (plan.startWith parties).runFrom session
      ∃ made, Adds session made ran.2 ∧ plan.Course parties session made ran.1 ran.2) ∧
      ∀ expand runner load complete (loads : ∀ file, (load file).Discreet)
        (completes : complete.Discreet),
        plan.start expand runner load complete =
          plan.startWith (.fixed expand runner loads completes : Parties α) := by
  refine ⟨List.forall₂_map_right_iff.mpr (List.forall₂_same.mpr fun file _ => ?_), ?_, ?_⟩
  · exact located_join plan.workingDirectory file
  · obtain ⟨made, course⟩ := plan.exists_course parties session
    exact ⟨made, course.adds, course⟩
  · exact fun expand runner load complete loads completes =>
      plan.start_eq_startWith expand runner loads completes

/-- A plan with two required modules, one of them beside the tests. -/
def hooked : TestPlan :=
  ⟨["a*"], ⟨["setup", "/lib/hook"], [], []⟩, "/p"⟩

/-- Parties that cannot load one module. The test runner loads the first test file, completes the
run and reports how the load went. -/
def withoutModule (missing : String) : Parties Unit where
  expander.expand _ := pure ["/p/a1", "/p//a1", "/p/a2"]
  expander.discreet _ := discreet_pure _
  load file := if file = missing then throw (.fileNotFound file) else pure ()
  loads_discreet file := by
    split
    · exact discreet_throw _
    · exact discreet_pure ()
  complete := pure ()
  complete_discreet := discreet_pure ()
  conduct _ _ := .load "/p/a1" fun result => .complete fun _ => .ends result

/-- The test runner reports a test file that cannot be loaded, after the run was completed; where a
required module is missing, it does not run. -/
theorem startWith_takes_course_hooked :
    let handed : List Call :=
      [.expand "/p/a*", .configure hooked.options, .addFile "/p/a1", .addFile "/p/a2",
        .load "/p/setup", .load "/lib/hook"]
    let comesTo (missing : String) (calls : List Call) result :=
      ∃ after, (hooked.startWith (withoutModule missing)).runFrom .initial = (result, after) ∧
        hooked.Course (withoutModule missing) .initial calls result after
    comesTo "" (handed ++ [.runTests, .load "/p/a1", .complete])
        (.ok (["/p/a1", "/p/a2"], some ())) ∧
      comesTo "/p/a1" (handed ++ [.runTests, .load "/p/a1", .complete])
        (.error (.fileNotFound "/p/a1")) ∧
      comesTo "/lib/hook" handed (.error (.fileNotFound "/lib/hook")) := by
  intro handed comesTo
  have taken {missing : String} {calls : List Call}
      {result : Except Failure (List String × Option Unit)} {after : Session}
      (ran : (hooked.startWith (withoutModule missing)).runFrom .initial = (result, after))
      (called : after.calls.filter Call.ofStart = calls) : comesTo missing calls result := by
    obtain ⟨_, ⟨made, ⟨all, whole, own⟩, course⟩, _⟩ :=
      startWith_takes_course hooked (withoutModule missing) .initial
    rw [ran] at whole course
    obtain rfl : after.calls = all := whole
    obtain rfl : made = calls := own.symm.trans called
    exact ⟨after, ran, course⟩
  exact ⟨taken rfl rfl, taken rfl rfl, taken rfl rfl⟩

end TestPlan

/-! ## Runs -/

namespace Pipeline

variable (pipeline : Pipeline) (tools : Tools) (file code : String)

theorem discreet_transpile : (pipeline.transpile tools file code).Discreet := by
  rw [transpile]
  split
  · exact (discreet_call rfl).bind fun history => discreet_answered _ _
  · exact discreet_pure code

theorem discreet_instrument : (pipeline.instrument tools file code).Discreet := by
  have annotates : (annotate file code).Discreet := by
    rw [annotate]
    split
    · exact discreet_keep _ _
    · exact discreet_throw _
  rw [instrument]
  split
  · exact annotates.bind fun _ => (discreet_call rfl).bind fun history => discreet_answered _ _
  · exact discreet_pure code

/-- A load makes no call of a start. -/
theorem discreet_load (host : Host) (readText : String → Except ReadFault String) :
    (pipeline.load tools host readText file).Discreet := by
  refine Discreet.bind ?_ fun code => ?_
  · rw [transform]
    split
    · exact (pipeline.discreet_transpile tools file _).bind fun code =>
        pipeline.discreet_instrument tools file code
    · exact discreet_throw _
  · refine (discreet_call rfl).bind fun history => ?_
    exact (Discreet.forM discreet_record).bind fun _ => discreet_succeeded _ _

end Pipeline

namespace ReportWriters

variable (writers : ReportWriters)

theorem discreet_writeOne (directory : String) (collector : Collector) (name : String)
    (specific : Document) : (writers.writeOne directory collector name specific).Discreet := by
  refine (discreet_call rfl).bind fun history => (discreet_succeeded _ _).bind fun _ => ?_
  exact (discreet_call rfl).bind fun history => discreet_succeeded _ _

/-- The completion of a run makes no call of a start. -/
theorem discreet_complete (config : CoverageConfig) : (writers.complete config).Discreet := by
  intro session
  rw [runFrom_complete]
  split
  · exact Adds.refl session
  · next collector _ =>
      refine Discreet.bind (Discreet.forM fun entry => ?_) (fun _ => discreet_pure _) session
      exact writers.discreet_writeOne config.directory collector entry.1 entry.2

end ReportWriters

namespace Run

theorem discreet_load (run : Run) (surroundings : Surroundings) (file : String) :
    (run.load surroundings file).Discreet :=
  run.pipeline.discreet_load _ file _ _

/-- The parties of a run. -/
def parties (run : Run) (surroundings : Surroundings) : Parties Collector :=
  .fixed surroundings.expand surroundings.runner (run.discreet_load surroundings)
    (surroundings.writers.discreet_complete run.config.coverage)

/-- A run is a start with its parties. -/
theorem execute_eq_startWith (run : Run) (surroundings : Surroundings) :
    run.execute surroundings =
      (TestPlan.ofConfig run.config surroundings.workingDirectory).startWith
        (run.parties surroundings) >>= fun (testFiles, collector) =>
          pure ⟨testFiles, collector⟩ := by
  rw [execute, TestPlan.start_eq_startWith _ _ _ (run.discreet_load surroundings)
    (surroundings.writers.discreet_complete run.config.coverage)]
  rfl

end Run

end MappedCoverage
