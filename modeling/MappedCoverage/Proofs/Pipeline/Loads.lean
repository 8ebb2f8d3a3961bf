import MappedCoverage.Proofs.Pipeline.Stores

/-!
# Loads one after another

When the tools answer by what they are given, a load makes the same calls and comes to the same code
from every session. Together with the store, which mirrors the calls of the instrumenter, this says
all about how loads can meet.
-/

namespace MappedCoverage

/-- Tools that answer by what they are given and not by the calls before. -/
structure Tools.Forgetful (tools : Tools) : Prop where
  transpile : ∀ history source options,
    tools.transpile history source options = tools.transpile [] source options
  instrument : ∀ history source file,
    tools.instrument history source file = tools.instrument [] source file

namespace Pipeline

open MappedCoverage.Action

variable {pipeline : Pipeline} {tools : Tools}

theorem steady_transpile (forgetful : tools.Forgetful) (file code : String) :
    ∃ calls answer, Steady calls answer (pipeline.transpile tools file code) := by
  cases selected : pipeline.gate.transpiles file with
  | false =>
      refine ⟨[], .ok code, fun session => ?_⟩
      rw [runFrom_transpile, selected]
      exact steady_pure code session
  | true =>
      let options := pipeline.optionsFor file
      refine ⟨[.transpile code options],
        (tools.transpile [] code options).mapError (.transpile file), fun session => ?_⟩
      rw [runFrom_transpile, selected, forgetful.transpile]
      exact ⟨rfl, rfl⟩

theorem steady_instrument (forgetful : tools.Forgetful) (file code : String) :
    ∃ calls answer, Steady calls answer (pipeline.instrument tools file code) := by
  cases counts : pipeline.gate.instruments file with
  | false =>
      refine ⟨[], .ok code, fun session => ?_⟩
      rw [runFrom_instrument, counts]
      exact steady_pure code session
  | true =>
      cases annotated : Annotated.annotate? code with
      | none =>
          refine ⟨[], .error .columnTooWide, fun session => ?_⟩
          rw [runFrom_instrument, counts, annotated]
          exact steady_throw .columnTooWide session
      | some text =>
          refine ⟨[.instrument code file],
            (tools.instrument [] code file).mapError (.instrument file), fun session => ?_⟩
          rw [runFrom_instrument, counts, annotated]
          exact ⟨by rw [forgetful.instrument]; rfl, rfl⟩

theorem steady_transform (forgetful : tools.Forgetful)
    (readText : String → Except ReadFault String) (file : String) :
    ∃ calls answer, Steady calls answer (pipeline.transform tools readText file) := by
  rw [transform_eq]
  cases readText file with
  | error fault => exact ⟨[], _, steady_throw (fault.failure file)⟩
  | ok text =>
      exact Steady.bind (steady_transpile forgetful _ _) (steady_instrument forgetful file)

/-- The call that executes what a load came to, if it came to code. -/
def compileCalls (file : String) : Except Failure String → List Call
  | .ok code => [.compile code file]
  | .error _ => []

/-- From every session a load makes the same calls to the tools and comes to the same code or to the
same failure; only the host, which is given this code, still decides. -/
def Repeats (pipeline : Pipeline) (tools : Tools) (loading : Loading) : Prop :=
  ∃ calls outcome, ∀ session : Session,
    let ran := (pipeline.perform tools loading).runFrom session
    ran.1 = outcome.bind
        (loading.host.verdict session.coverage (session.calls ++ calls) loading.file) ∧
      ran.2.calls = session.calls ++ calls ++ compileCalls loading.file outcome

theorem repeats_of_forgetful (forgetful : tools.Forgetful) (loading : Loading) :
    pipeline.Repeats tools loading := by
  obtain ⟨calls, outcome, steady⟩ : ∃ calls outcome,
      Steady calls outcome (pipeline.transform tools loading.readText loading.file) :=
    steady_transform forgetful loading.readText loading.file
  refine ⟨calls, outcome, fun session => ?_⟩
  obtain ⟨answered, called⟩ := steady session
  cases outcome with
  | error failure =>
      have failed := runFrom_bind_error (Prod.ext answered rfl) (compile loading.host loading.file)
      dsimp only [perform, load]
      rw [failed]
      exact ⟨rfl, by rw [called, compileCalls, List.append_nil]⟩
  | ok code =>
      have went := runFrom_bind_ok (Prod.ext answered rfl) (compile loading.host loading.file)
      obtain ⟨coverage, compiled⟩ := runFrom_compile loading.host loading.file code
        ((pipeline.transform tools loading.readText loading.file).runFrom session).2
      dsimp only [perform, load]
      rw [went, compiled, coverage_transform, called]
      exact ⟨rfl, rfl⟩

/--
After any loads from an empty store, the store shows what the instrumenter was given last for each
path and lists only files that count for coverage. Another load leaves it alone if the file has no
text, if the transpiler fails or if the file does not count; and if the tools answer by what they
are given, the load does the same as from any other session.
-/
theorem sessionAfter_mirrors (pipeline : Pipeline) (tools : Tools) (loadings : List Loading)
    {session : Session} (unstored : session.store = .empty) :
    let after := pipeline.sessionAfter tools loadings session
    (∃ made, after.calls = session.calls ++ made ∧ Mirrors pipeline.gate made after.store) ∧
      ∀ loading : Loading,
        let ran := (pipeline.perform tools loading).runFrom after
        ((∃ fault, loading.readText loading.file = .error fault) ∨
              (∃ message, ran.1 = .error (.transpile loading.file message)) ∨
              pipeline.gate.instruments loading.file = false →
            ran.2.store = after.store) ∧
          (tools.Forgetful → pipeline.Repeats tools loading) := by
  have start : MirrorsSince pipeline.gate session.calls session := by
    refine ⟨[], (List.append_nil _).symm, ?_⟩
    rw [unstored]
    exact Mirrors.nothing
  refine ⟨mirrorsSince_sessionAfter loadings start, fun loading => ⟨?_, ?_⟩⟩
  · rintro (⟨fault, unread⟩ | ⟨message, untranspiled⟩ | uncounted)
    · exact store_perform_of_unread unread _
    · exact store_perform_of_untranspiled (Prod.ext untranspiled rfl)
    · exact store_perform_of_not_instruments uncounted _
  · exact fun forgetful => repeats_of_forgetful forgetful loading

/-- A file that is loaded under two spellings of its path is listed once, under the first of them,
with its second text, though the instrumenter refuses all code. -/
theorem sessionAfter_mirrors_two_spellings :
    let pipeline : Pipeline := ⟨⟨⟨[]⟩, ⟨[]⟩, ⟨[]⟩⟩, ⟨none, []⟩⟩
    let tools : Tools := ⟨fun _ source _ => .ok source, fun _ _ _ => .error "refused"⟩
    let host : Host := ⟨fun _ _ _ => ([], none)⟩
    let second : Loading := ⟨"src//a.js", fun _ => .ok "two", host⟩
    let first : Loading := ⟨"src/a.js", fun _ => .ok "one", host⟩
    let after := pipeline.sessionAfter tools [first, second] .initial
    Session.initial.store = .empty ∧ tools.Forgetful ∧
      after.store.files = ["src/a.js"] ∧ after.store.get? "src/./a.js" = some "two" ∧
      (∃ made, after.calls = made ∧ Mirrors pipeline.gate made after.store) ∧
      pipeline.Repeats tools second := by
  intro pipeline tools host second first after
  have forgetful : tools.Forgetful := ⟨fun _ _ _ => rfl, fun _ _ _ => rfl⟩
  have unstored : Session.initial.store = .empty := rfl
  obtain ⟨mirrors, next⟩ := sessionAfter_mirrors pipeline tools [first, second] unstored
  exact ⟨unstored, forgetful, by decide, by decide, mirrors, (next second).2 forgetful⟩

end Pipeline

end MappedCoverage
