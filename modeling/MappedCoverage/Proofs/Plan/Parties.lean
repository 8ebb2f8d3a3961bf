import MappedCoverage.TestPlan
import MappedCoverage.Proofs.Session.Actions

/-!
# The parties of a start

A start deals with others: they expand patterns, load modules, run the tests and complete the run.
What they do between two calls of the start is their own, and so is what they make of its calls. A
test runner may go on in any way as its loads turn out, and may complete the run at any time, but
only once: what completes the run is used up by it. What comes of all this is told by two relations,
one for actions in turn and one for a test runner.
-/

namespace MappedCoverage

open MappedCoverage.Action

variable {α β : Type}

/-! ## Calls of a start -/

/-- Whether a call is made by a start, or by the test runner that it runs. -/
def Call.ofStart : Call → Bool
  | .expand _ | .configure _ | .addFile _ | .load _ | .runTests | .complete => true
  | .transpile .. | .instrument .. | .compile .. | .createReport .. | .writeReport .. => false

/-- These calls of a start were added to a session, and maybe other calls between them. -/
def Adds (before : Session) (made : List Call) (after : Session) : Prop :=
  ∃ all, after.calls = before.calls ++ all ∧ all.filter Call.ofStart = made

section

variable {before between after : Session} {made later : List Call}

theorem Adds.refl (session : Session) : Adds session [] session :=
  ⟨[], (List.append_nil _).symm, rfl⟩

theorem Adds.trans (first : Adds before made between) (second : Adds between later after) :
    Adds before (made ++ later) after := by
  obtain ⟨all, calls, rfl⟩ := first
  obtain ⟨others, more, rfl⟩ := second
  exact ⟨all ++ others, by rw [more, calls, List.append_assoc], List.filter_append ..⟩

/-- A session in which more calls were noted. -/
def Session.noting (session : Session) (calls : List Call) : Session :=
  { session with calls := session.calls ++ calls }

theorem adds_noting (session : Session) {calls : List Call}
    (own : ∀ call ∈ calls, call.ofStart = true) : Adds session calls (session.noting calls) :=
  ⟨calls, rfl, List.filter_eq_self.mpr own⟩

end

/-- An action that leaves the calls of a start to others. -/
def Action.Discreet (action : Action α) : Prop :=
  ∀ session, Adds session [] (action.runFrom session).2

namespace Action

theorem discreet_iff_preserves {action : Action α} :
    action.Discreet ↔ ∀ start, Preserves (Adds start []) action :=
  ⟨fun discreet _ session added => added.trans (discreet session),
    fun preserves session => preserves session session (.refl session)⟩

theorem Discreet.bind {action : Action α} {next : α → Action β} (first : action.Discreet)
    (second : ∀ answer, (next answer).Discreet) : (action >>= next).Discreet :=
  discreet_iff_preserves.mpr fun start =>
    (discreet_iff_preserves.mp first start).bind fun answer =>
      discreet_iff_preserves.mp (second answer) start

theorem Discreet.forM {items : List β} {action : β → Action Unit}
    (each : ∀ item, (action item).Discreet) : (items.forM action).Discreet :=
  discreet_iff_preserves.mpr fun start =>
    Preserves.forM fun item => discreet_iff_preserves.mp (each item) start

theorem discreet_pure (answer : α) : (pure answer : Action α).Discreet :=
  Adds.refl

theorem discreet_throw (failure : Failure) : (throw failure : Action α).Discreet :=
  Adds.refl

theorem discreet_call {noted : Call} (other : noted.ofStart = false) : (call noted).Discreet :=
  fun _ => ⟨[noted], rfl, List.filter_cons_of_neg (by simp [other])⟩

theorem discreet_keep (file text : String) : (keep file text).Discreet :=
  fun _ => ⟨[], (List.append_nil _).symm, rfl⟩

theorem discreet_record (recording : Recording) : (record recording).Discreet := by
  intro session
  rw [runFrom_record]
  split <;> exact ⟨[], (List.append_nil _).symm, rfl⟩

theorem discreet_answered (failure : String → Failure) (answer : Except String α) :
    (answered failure answer).Discreet := by
  intro session
  rw [runFrom_answered]
  exact Adds.refl session

theorem discreet_succeeded (failure : String → Failure) (fault : Option String) :
    (succeeded failure fault).Discreet := by
  intro session
  rw [runFrom_succeeded]
  exact Adds.refl session

end Action

/-! ## Actions in turn -/

theorem runFrom_announced (noted : Call) (action : Action α) (session : Session) :
    (do let _ ← Action.call noted; action).runFrom session =
      action.runFrom (session.noting [noted]) := by
  rw [runFrom_bind_ok (runFrom_call _ _)]
  rfl

theorem adds_announced {noted : Call} {action : Action α} {session after : Session}
    {result : Except Failure α} (own : noted.ofStart = true) (discreet : action.Discreet)
    (ran : action.runFrom (session.noting [noted]) = (result, after)) :
    Adds session [noted] after := by
  have called := adds_noting session (List.forall_mem_singleton.mpr own)
  have added : Adds session [noted] _ := called.trans (discreet _)
  rwa [ran] at added

/-- Actions are done one after another, each of them once its call was noted, and all of them
answer. -/
inductive InTurn (noted : β → Call) (action : β → Action α) :
    List β → Session → List α → Session → Prop where
  | none {session : Session} : InTurn noted action [] session [] session
  | next {item : β} {rest : List β} {session between after : Session} {answer : α}
      {answers : List α}
      (answered : (action item).runFrom (session.noting [noted item]) = (.ok answer, between))
      (others : InTurn noted action rest between answers after) :
      InTurn noted action (item :: rest) session (answer :: answers) after

section

variable {noted : β → Call} {action : β → Action α} {items : List β} {item : β}
  {session before after : Session} {answers : List α} {failure : Failure}

/-- A traversal answers where its actions do in turn. -/
theorem runFrom_mapM_eq_ok_iff :
    (items.mapM fun item => do let _ ← Action.call (noted item); action item).runFrom session =
        (.ok answers, after) ↔
      InTurn noted action items session answers after := by
  constructor
  · intro answered
    induction items generalizing session answers with
    | nil =>
        cases answered
        exact .none
    | cons item rest ih =>
        rw [List.mapM_cons] at answered
        obtain ⟨answer, between, first, others⟩ := runFrom_bind_eq_ok answered
        obtain ⟨_, _, further, whole⟩ := runFrom_bind_eq_ok others
        cases whole
        rw [runFrom_announced] at first
        exact .next first (ih further)
  · intro turns
    induction turns with
    | none => rfl
    | next answered _ ih =>
        rw [List.mapM_cons, runFrom_bind, runFrom_announced, answered]
        dsimp only
        rw [runFrom_bind_ok ih, runFrom_pure]

theorem exists_inTurn_of_mapM
    (failed : (items.mapM fun item => do let _ ← Action.call (noted item); action item).runFrom
      session = (.error failure, after)) :
    ∃ earlier item later answers before, items = earlier ++ item :: later ∧
      InTurn noted action earlier session answers before ∧
      (action item).runFrom (before.noting [noted item]) = (.error failure, after) := by
  obtain ⟨earlier, item, later, answers, before, listed, answered, stopped⟩ :=
    exists_of_runFrom_mapM failed
  rw [runFrom_announced] at stopped
  exact ⟨earlier, item, later, answers, before, listed,
    runFrom_mapM_eq_ok_iff.mp answered, stopped⟩

variable (own : ∀ item, (noted item).ofStart = true) (discreet : ∀ item, (action item).Discreet)

include own discreet

theorem InTurn.adds (turns : InTurn noted action items session answers after) :
    Adds session (items.map noted) after := by
  induction turns with
  | none => exact Adds.refl _
  | next answered _ ih => exact (adds_announced (own _) (discreet _) answered).trans ih

theorem InTurn.adds_stopped (turns : InTurn noted action items session answers before)
    (failed : (action item).runFrom (before.noting [noted item]) = (.error failure, after)) :
    Adds session ((items ++ [item]).map noted) after := by
  rw [List.map_append]
  exact (turns.adds own discreet).trans (adds_announced (own item) (discreet item) failed)

end

/-! ## Test runners of any kind -/

/-- What an action comes to, as an answer that is there in any case. -/
def Action.attempt (action : Action α) : Action (Except Failure α) :=
  ExceptT.lift (ExceptT.run action)

@[simp] theorem Action.runFrom_attempt (action : Action α) (session : Session) :
    (attempt action).runFrom session =
      (.ok (action.runFrom session).1, (action.runFrom session).2) := rfl

theorem Action.ext {first second : Action α}
    (same : ∀ session, first.runFrom session = second.runFrom session) : first = second :=
  funext same

/-- What a test runner does while it runs, and whether the run can still be completed. -/
inductive Conduct : Bool → Type where
  /-- The test runner reports success or a failure. -/
  | ends {ready : Bool} (result : Except Failure Unit) : Conduct ready
  /-- The test runner does something that is not seen from outside. -/
  | act {ready : Bool} (action : Action Unit) (discreet : action.Discreet)
      (next : Except Failure Unit → Conduct ready) : Conduct ready
  | load {ready : Bool} (file : String) (next : Except Failure Unit → Conduct ready) : Conduct ready
  | complete (next : Except Failure Unit → Conduct false) : Conduct true

/-- Runs the tests; answers with what completed the run, if it was completed. -/
def Conduct.perform (load : String → Action Unit) (complete : Action α) :
    {ready : Bool} → Conduct ready → Option α → Action (Option α)
  | _, .ends (.ok _), completed => return completed
  | _, .ends (.error failure), _ => throw failure
  | _, .act action _ next, completed => do
      let result ← attempt action
      (next result).perform load complete completed
  | _, .load file next, completed => do
      let result ← attempt (TestPlan.loadWith load file)
      (next result).perform load complete completed
  | _, .complete next, _ => do
      let _ ← Action.call .complete
      let result ← attempt complete
      (next (result.map fun _ => ())).perform load complete result.toOption

/-- Calls of a test runner while it runs: it loads files, and completes the run at most so often. -/
structure RunnerCalls (completions : Nat) (calls : List Call) : Prop where
  kind : ∀ call ∈ calls, call = .complete ∨ ∃ file, call = .load file
  completes : (calls.filter fun call => call matches .complete).length ≤ completions

theorem RunnerCalls.nil (completions : Nat) : RunnerCalls completions [] :=
  ⟨nofun, Nat.zero_le _⟩

theorem RunnerCalls.load {completions : Nat} {calls : List Call} (file : String)
    (runner : RunnerCalls completions calls) :
    RunnerCalls completions (.load file :: calls) where
  kind := List.forall_mem_cons.mpr ⟨Or.inr ⟨file, rfl⟩, runner.kind⟩
  completes := runner.completes

theorem RunnerCalls.complete {calls : List Call} (runner : RunnerCalls 0 calls) :
    RunnerCalls 1 (.complete :: calls) where
  kind := List.forall_mem_cons.mpr ⟨Or.inl rfl, runner.kind⟩
  completes := Nat.succ_le_succ runner.completes

/-- How a test runner goes on from a session: with which calls, to which report, and to which
session. A completion that answers is kept for the report of success. -/
inductive Conduct.Goes (load : String → Action Unit) (complete : Action α) :
    {ready : Bool} → Conduct ready → Option α → Session →
      List Call → Except Failure (Option α) → Session → Prop where
  | succeeds {ready : Bool} {completed : Option α} {session : Session} :
      Goes load complete (.ends (.ok ()) : Conduct ready) completed session
        [] (.ok completed) session
  | fails {ready : Bool} {completed : Option α} {session : Session} {failure : Failure} :
      Goes load complete (.ends (.error failure) : Conduct ready) completed session
        [] (.error failure) session
  | acts {ready : Bool} {action : Action Unit} {discreet : action.Discreet}
      {next : Except Failure Unit → Conduct ready} {completed : Option α}
      {session between after : Session} {result : Except Failure Unit} {made : List Call}
      {report : Except Failure (Option α)}
      (acted : action.runFrom session = (result, between))
      (later : Goes load complete (next result) completed between made report after) :
      Goes load complete (.act action discreet next) completed session made report after
  | loads {ready : Bool} {file : String} {next : Except Failure Unit → Conduct ready}
      {completed : Option α} {session between after : Session} {result : Except Failure Unit}
      {made : List Call} {report : Except Failure (Option α)}
      (loaded : (load file).runFrom (session.noting [.load file]) = (result, between))
      (later : Goes load complete (next result) completed between made report after) :
      Goes load complete (.load file next) completed session (.load file :: made) report after
  | completes {next : Except Failure Unit → Conduct false} {completed : Option α}
      {session between after : Session} {result : Except Failure α} {made : List Call}
      {report : Except Failure (Option α)}
      (ended : complete.runFrom (session.noting [.complete]) = (result, between))
      (later : Goes load complete (next (result.map fun _ => ())) result.toOption between
        made report after) :
      Goes load complete (.complete next) completed session (.complete :: made) report after

namespace Conduct

variable {load : String → Action Unit} {complete : Action α} {ready : Bool}
  {conduct : Conduct ready} {completed : Option α} {session after : Session} {made : List Call}
  {report : Except Failure (Option α)}

/-- A test runner that is run goes on in this way. -/
theorem exists_goes (load : String → Action Unit) (complete : Action α) (conduct : Conduct ready)
    (completed : Option α) (session : Session) :
    let ran := (conduct.perform load complete completed).runFrom session
    ∃ made, conduct.Goes load complete completed session made ran.1 ran.2 := by
  induction conduct generalizing completed session with
  | ends result =>
      cases result with
      | ok _ => exact ⟨[], .succeeds⟩
      | error failure => exact ⟨[], .fails⟩
  | act action discreet next ih =>
      obtain ⟨made, goes⟩ := ih (action.runFrom session).1 completed (action.runFrom session).2
      rw [perform, runFrom_bind_ok (runFrom_attempt _ _)]
      exact ⟨made, .acts rfl goes⟩
  | load file next ih =>
      let ran := (load file).runFrom (session.noting [.load file])
      obtain ⟨made, goes⟩ := ih ran.1 completed ran.2
      rw [perform, runFrom_bind_ok (runFrom_attempt _ _), TestPlan.loadWith, runFrom_announced]
      exact ⟨.load file :: made, .loads rfl goes⟩
  | complete next ih =>
      let ran := complete.runFrom (session.noting [.complete])
      obtain ⟨made, goes⟩ := ih (ran.1.map fun _ => ()) ran.1.toOption ran.2
      rw [perform, runFrom_announced, runFrom_bind_ok (runFrom_attempt _ _)]
      exact ⟨.complete :: made, .completes rfl goes⟩

/-- Whatever a test runner does, it calls for loads alone and once at most for the completion. -/
theorem Goes.runnerCalls (goes : conduct.Goes load complete completed session made report after) :
    RunnerCalls ready.toNat made := by
  induction goes with
  | succeeds => exact .nil _
  | fails => exact .nil _
  | acts _ _ ih => exact ih
  | loads _ _ ih => exact ih.load _
  | completes _ _ ih => exact ih.complete

theorem Goes.adds (loads : ∀ file, (load file).Discreet) (completes : complete.Discreet)
    (goes : conduct.Goes load complete completed session made report after) :
    Adds session made after := by
  induction goes with
  | succeeds => exact Adds.refl _
  | fails => exact Adds.refl _
  | @acts _ _ discreet _ _ session _ _ _ _ _ acted _ ih =>
      have added := discreet session
      rw [acted] at added
      exact added.trans ih
  | loads loaded _ ih => exact (adds_announced rfl (loads _) loaded).trans ih
  | completes ended _ ih => exact (adds_announced rfl completes ended).trans ih

end Conduct

/-! ## Starts with parties of any kind -/

/-- Whoever finds the files that a pattern leads to. -/
structure Expander where
  expand (pattern : String) : Action (List String)
  discreet (pattern : String) : (expand pattern).Discreet

/-- Has a pattern expanded. -/
def Expander.ask (expander : Expander) (pattern : String) : Action (List String) := do
  let _ ← Action.call (.expand pattern)
  expander.expand pattern

/-- All that a start deals with. -/
structure Parties (α : Type) where
  expander : Expander
  load (file : String) : Action Unit
  loads_discreet (file : String) : (load file).Discreet
  complete : Action α
  complete_discreet : complete.Discreet
  /-- What the test runner does with its options and the files that were added. -/
  conduct (options : RunnerOptions) (files : List String) : Conduct true

namespace TestPlan

/-- Runs the tests. -/
def runTestsWith (plan : TestPlan) (parties : Parties α) (files : List String) :
    Action (Option α) := do
  let _ ← Action.call .runTests
  (parties.conduct plan.options files).perform parties.load parties.complete none

/-- Starts a run. -/
def startWith (plan : TestPlan) (parties : Parties α) : Action (List String × Option α) := do
  let files ← plan.files parties.expander.ask
  let _ ← Action.call (.configure plan.options)
  files.forM fun file => do
    let _ ← Action.call (.addFile file)
  plan.required.forM (loadWith parties.load)
  let completed ← plan.runTestsWith parties files
  return (files, completed)

end TestPlan

/-! ## Test runners with fixed steps -/

/-- A step of a test runner that goes on only if the step succeeds. -/
def TestStep.before (step : TestStep) (rest : Conduct true) : Conduct true :=
  let next := fun
    | .ok _ => rest
    | .error failure => .ends (.error failure)
  match step with
  | .load file => .load file next
  | .record recording => .act (Action.record recording) (discreet_record recording) next

/-- What a test runner with fixed steps does: it takes them one after another and then reports how
the completion went, or success without it. -/
def TestRunner.conduct (runner : TestRunner) (options : RunnerOptions) (files : List String) :
    Conduct true :=
  (runner.steps options files).foldr TestStep.before
    (if runner.completes then .complete .ends else .ends (.ok ()))

section

variable {load : String → Action Unit} {complete : Action α} {completed : Option α}

theorem perform_before (step : TestStep) (rest : Conduct true) :
    (step.before rest).perform load complete completed =
      TestPlan.perform load step >>= fun _ => rest.perform load complete completed := by
  apply Action.ext
  intro session
  cases step with
  | load file =>
      rw [TestStep.before, Conduct.perform, runFrom_bind_ok (runFrom_attempt _ _), runFrom_bind,
        TestPlan.perform]
      rcases (TestPlan.loadWith load file).runFrom session with ⟨failure | _, after⟩ <;> rfl
  | record recording =>
      rw [TestStep.before, Conduct.perform, runFrom_bind_ok (runFrom_attempt _ _), runFrom_bind,
        TestPlan.perform]
      rcases (Action.record recording).runFrom session with ⟨failure | _, after⟩ <;> rfl

theorem perform_foldr_before (steps : List TestStep) (last : Conduct true) :
    (steps.foldr TestStep.before last).perform load complete completed =
      steps.forM (TestPlan.perform load) >>= fun _ => last.perform load complete completed := by
  induction steps with
  | nil => rfl
  | cons step rest ih =>
      rw [List.foldr_cons, perform_before, ih]
      exact (bind_assoc _ _ _).symm

theorem perform_complete_ends :
    (Conduct.complete .ends).perform load complete completed =
      Action.call .complete >>= fun _ => some <$> complete := by
  apply Action.ext
  intro session
  rw [Conduct.perform, runFrom_bind_ok (runFrom_call _ _), runFrom_bind_ok (runFrom_call _ _),
    runFrom_bind_ok (runFrom_attempt _ _), ← bind_pure_comp, runFrom_bind]
  rcases complete.runFrom _ with ⟨failure | answer, after⟩ <;> rfl

end

namespace TestPlan

theorem runTests_eq (plan : TestPlan) (runner : TestRunner) (load : String → Action Unit)
    (complete : Action α) (files : List String) :
    plan.runTests runner load complete files =
      Action.call .runTests >>= fun _ =>
        (runner.conduct plan.options files).perform load complete none := by
  rw [TestRunner.conduct, perform_foldr_before, runTests]
  by_cases completes : runner.completes = true
  · simp only [if_pos completes, perform_complete_ends]
  · simp only [if_neg completes]
    rfl

end TestPlan

/-- The parties of a start whose expander answers by the pattern alone, and whose test runner has
fixed steps. -/
def Parties.fixed (expand : String → Except String (List String)) (runner : TestRunner)
    {load : String → Action Unit} (loads : ∀ file, (load file).Discreet)
    {complete : Action α} (completes : complete.Discreet) : Parties α where
  expander.expand pattern := answered (.invalidPattern pattern) (expand pattern)
  expander.discreet pattern := discreet_answered _ (expand pattern)
  load := load
  loads_discreet := loads
  complete := complete
  complete_discreet := completes
  conduct := runner.conduct

theorem TestPlan.start_eq_startWith (plan : TestPlan)
    (expand : String → Except String (List String)) (runner : TestRunner)
    {load : String → Action Unit} (loads : ∀ file, (load file).Discreet) {complete : Action α}
    (completes : complete.Discreet) :
    plan.start expand runner load complete =
      plan.startWith (.fixed expand runner loads completes) := by
  simp only [start, runTests_eq]
  rfl

end MappedCoverage
