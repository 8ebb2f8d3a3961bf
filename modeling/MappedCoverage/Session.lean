import MappedCoverage.Collector
import MappedCoverage.Config.Basic
import MappedCoverage.Failure
import MappedCoverage.Store

/-!
# Sessions

A session is what one run has done so far: the annotated texts, the recorded coverage, and the calls
to the tools around it, in order. An action changes a session and either answers or fails; what it
did before it failed stays done.
-/

namespace MappedCoverage

/-- A call to something outside. -/
inductive Call where
  | expand (pattern : String)
  | configure (options : RunnerOptions)
  | addFile (file : String)
  | runTests
  | load (file : String)
  | transpile (source : String) (options : TranspileOptions)
  | instrument (source file : String)
  | compile (source file : String)
  | complete
  | createReport (name : String) (options : ReportOptions)
  | writeReport (name : String) (sync : Bool) (collector : Collector)

/-- What a run has done so far. -/
structure Session where
  store : Store
  coverage : Coverage
  /-- The calls, the first one first. -/
  calls : List Call

/-- A session that has done nothing. -/
def Session.initial : Session := ⟨.empty, .empty, []⟩

/-- A step of a run. -/
abbrev Action (α : Type) := ExceptT Failure (StateM Session) α

namespace Action

/-- The answer or the failure of an action, and the session after it. -/
def runFrom {α : Type} (action : Action α) (session : Session) : Except Failure α × Session :=
  (ExceptT.run action).run session

/-- Notes a call, and answers with the calls before it. -/
def call (call : Call) : Action (List Call) := do
  let session ← get
  set { session with calls := session.calls ++ [call] }
  return session.calls

/-- Keeps the annotated text of a file. -/
def keep (file text : String) : Action Unit :=
  modify fun session => { session with store := session.store.set file text }

/-- Records what code reports while it is executed. -/
def record (recording : Recording) : Action Unit := do
  let session ← get
  match session.coverage.record? recording with
  | some coverage => set { session with coverage }
  | none => throw .counterTooLarge

/-- An answer, or a failure made of the message of whatever was called. -/
def answered {α : Type} (failure : String → Failure) : Except String α → Action α
  | .ok answer => return answer
  | .error message => throw (failure message)

/-- Success, or a failure made of the message of whatever was called. -/
def succeeded (failure : String → Failure) : Option String → Action Unit
  | none => return
  | some message => throw (failure message)

end Action

end MappedCoverage
