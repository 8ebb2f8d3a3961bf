import MappedCoverage.Pipeline
import MappedCoverage.Proofs.Session.Actions

/-!
# The steps of a load

What each step of a load answers and leaves behind. Only annotating writes to the store, and the
instrumenter is called right after it with the same code.
-/

namespace MappedCoverage.Pipeline

open MappedCoverage.Action

variable (pipeline : Pipeline) (tools : Tools) (file code : String) (session : Session)

/-! ## Rewriting code -/

theorem runFrom_transpile :
    (pipeline.transpile tools file code).runFrom session =
      if pipeline.gate.transpiles file then
        ((tools.transpile session.calls code (pipeline.optionsFor file)).mapError (.transpile file),
          { session with calls := session.calls ++ [.transpile code (pipeline.optionsFor file)] })
      else (.ok code, session) := by
  rw [transpile]
  split
  · rw [runFrom_bind_ok (runFrom_call _ session), runFrom_answered]
  · rfl

theorem runFrom_annotate :
    (annotate file code).runFrom session =
      match Annotated.annotate? code with
      | some text => (.ok (), { session with store := session.store.set file text })
      | none => (.error .columnTooWide, session) := by
  rw [annotate]
  cases Annotated.annotate? code with
  | none => exact runFrom_throw .columnTooWide session
  | some text => exact runFrom_keep file text session

theorem runFrom_instrument :
    (pipeline.instrument tools file code).runFrom session =
      if pipeline.gate.instruments file then
        match Annotated.annotate? code with
        | some text =>
            ((tools.instrument session.calls code file).mapError (.instrument file),
              { session with
                store := session.store.set file text
                calls := session.calls ++ [.instrument code file] })
        | none => (.error .columnTooWide, session)
      else (.ok code, session) := by
  rw [instrument]
  split
  · cases annotated : Annotated.annotate? code with
    | none =>
        have refused : (annotate file code).runFrom session = (.error .columnTooWide, session) := by
          rw [runFrom_annotate, annotated]
        rw [runFrom_bind_error refused]
    | some text =>
        have kept : (annotate file code).runFrom session =
            (.ok (), { session with store := session.store.set file text }) := by
          rw [runFrom_annotate, annotated]
        rw [runFrom_bind_ok kept, runFrom_bind_ok (runFrom_call _ _), runFrom_answered]
  · rfl

theorem transform_eq (readText : String → Except ReadFault String) :
    pipeline.transform tools readText file =
      match readText file with
      | .ok text =>
          pipeline.transpile tools file (Indentation.normalize text) >>=
            pipeline.instrument tools file
      | .error fault => throw (fault.failure file) := rfl

end MappedCoverage.Pipeline

namespace MappedCoverage

/-! ## Executing code -/

/-- How the execution of code ends, given what was recorded and called before. Earlier recordings
matter only to counters that are full, earlier calls only to a host that remembers them. -/
def Host.verdict (host : Host) (coverage : Coverage) (history : List Call) (file code : String) :
    Except Failure Unit :=
  match coverage.recordAll? (host.compile history code file).1,
      (host.compile history code file).2 with
  | none, _ => .error .counterTooLarge
  | some _, none => .ok ()
  | some _, some message => .error (.compile file message)

namespace Pipeline

open MappedCoverage.Action

variable {host : Host} {file code : String} {session : Session}

theorem compile_eq :
    compile host file code =
      call (.compile code file) >>= fun history =>
        (host.compile history code file).1.forM record >>= fun _ =>
          succeeded (.compile file) (host.compile history code file).2 := rfl

/-- The recordings of the host are kept before its message counts. -/
theorem runFrom_compile_of_some {coverage : Coverage}
    (recorded : session.coverage.recordAll? (host.compile session.calls code file).1 =
      some coverage) :
    (compile host file code).runFrom session =
      (host.verdict session.coverage session.calls file code,
        { session with coverage, calls := session.calls ++ [.compile code file] }) := by
  let called : Session := { session with calls := session.calls ++ [.compile code file] }
  have kept : ((host.compile session.calls code file).1.forM record).runFrom called =
      (.ok (), { called with coverage }) := runFrom_forM_record_of_some recorded
  rw [compile_eq, runFrom_bind_ok (runFrom_call _ _), runFrom_bind_ok kept, runFrom_succeeded,
    Host.verdict, recorded]
  cases (host.compile session.calls code file).2 <;> rfl

theorem runFrom_compile_of_none
    (exceeded : session.coverage.recordAll? (host.compile session.calls code file).1 = none) :
    ∃ coverage, (compile host file code).runFrom session =
      (.error .counterTooLarge,
        { session with coverage, calls := session.calls ++ [.compile code file] }) := by
  let called : Session := { session with calls := session.calls ++ [.compile code file] }
  obtain ⟨coverage, ended⟩ : ∃ coverage,
      ((host.compile session.calls code file).1.forM record).runFrom called =
        (.error .counterTooLarge, { called with coverage }) := runFrom_forM_record_of_none exceeded
  exact ⟨coverage, by
    rw [compile_eq, runFrom_bind_ok (runFrom_call _ _), runFrom_bind_error ended]⟩

/-- Compiling only adds its call and what the host records. -/
theorem runFrom_compile (host : Host) (file code : String) (session : Session) :
    ∃ coverage, (compile host file code).runFrom session =
      (host.verdict session.coverage session.calls file code,
        { session with coverage, calls := session.calls ++ [.compile code file] }) := by
  cases recorded : session.coverage.recordAll? (host.compile session.calls code file).1 with
  | some coverage => exact ⟨coverage, runFrom_compile_of_some recorded⟩
  | none =>
      obtain ⟨coverage, ended⟩ := runFrom_compile_of_none recorded
      exact ⟨coverage, by rw [ended, Host.verdict, recorded]⟩

/-! ## What stays true -/

section

variable {pipeline : Pipeline} {tools : Tools} {property : Session → Prop}

theorem preserves_transpile (file code : String)
    (called : ∀ session options, property session →
      property { session with calls := session.calls ++ [.transpile code options] }) :
    Preserves property (pipeline.transpile tools file code) := by
  intro session holds
  rw [runFrom_transpile]
  split
  · exact called session _ holds
  · exact holds

theorem preserves_transform {readText : String → Except ReadFault String} {file : String}
    (transpiled : ∀ code, Preserves property (pipeline.transpile tools file code))
    (instrumented : ∀ code, Preserves property (pipeline.instrument tools file code)) :
    Preserves property (pipeline.transform tools readText file) := by
  rw [transform_eq]
  cases readText file with
  | error fault => exact preserves_throw _
  | ok text => exact (transpiled _).bind instrumented

theorem preserves_compile (host : Host) (file code : String)
    (blind : ∀ session coverage, property session → property { session with coverage })
    (called : ∀ session, property session →
      property { session with calls := session.calls ++ [.compile code file] }) :
    Preserves property (compile host file code) := by
  intro session holds
  obtain ⟨coverage, ended⟩ := runFrom_compile host file code session
  rw [ended]
  exact blind _ coverage (called session holds)

/-- Rewriting code records nothing. -/
theorem coverage_transform (readText : String → Except ReadFault String) (file : String)
    (session : Session) :
    ((pipeline.transform tools readText file).runFrom session).2.coverage = session.coverage := by
  have kept : Preserves (fun later => later.coverage = session.coverage)
      (pipeline.transform tools readText file) := by
    refine preserves_transform ?_ ?_
    · exact fun code => preserves_transpile file code fun _ _ same => same
    · intro code later same
      rw [runFrom_instrument]
      split
      · cases Annotated.annotate? code <;> exact same
      · exact same
  exact kept session rfl

end

end Pipeline

end MappedCoverage
