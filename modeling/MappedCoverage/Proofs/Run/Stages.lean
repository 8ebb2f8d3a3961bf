import MappedCoverage.Proofs.Pipeline.Loads
import MappedCoverage.Proofs.Run.Parts

/-!
# The stages of a load

A load hands the text of a file to the transpiler, the instrumenter and the host, each at most once
and in this order. What a stage is given is what the last stage before it answered; a stage that
fails is the last one.
-/

namespace MappedCoverage

/-- Where a load hands code to. -/
inductive Stage where
  | transpiler
  | instrumenter
  | host
deriving DecidableEq

/-- The stage that is called, if a stage is. -/
def Call.stage? : Call → Option Stage
  | .transpile .. => some .transpiler
  | .instrument .. => some .instrumenter
  | .compile .. => some .host
  | _ => none

/-- The stages in their order. -/
def Stage.all : List Stage := [.transpiler, .instrumenter, .host]

namespace Pipeline

open MappedCoverage.Action

/-! ## Rewriting code -/

section

variable (pipeline : Pipeline) (tools : Tools) (history : List Call) (file code : String)

/-- The call to the transpiler, if the gate lets the file through. -/
def transpilerCalls : List Call :=
  if pipeline.gate.transpiles file then [.transpile code (pipeline.optionsFor file)] else []

/-- What the transpiler makes of code; the code of other files stays as it is. -/
def transpiled : Except Failure String :=
  if pipeline.gate.transpiles file then
    (tools.transpile history code (pipeline.optionsFor file)).mapError (.transpile file)
  else .ok code

/-- The call to the instrumenter, if there is code and its file counts for coverage. -/
def instrumenterCalls : Except Failure String → List Call
  | .ok code => if pipeline.gate.instruments file then [.instrument code file] else []
  | .error _ => []

/-- What the instrumenter makes of code; the code of other files stays as it is. -/
def instrumented : Except Failure String :=
  if pipeline.gate.instruments file then
    (tools.instrument history code file).mapError (.instrument file)
  else .ok code

/-- Code that counts for coverage has an annotated text. -/
def Annotates : Prop :=
  pipeline.gate.instruments file = true → (Annotated.annotate? code).isSome = true

theorem runFrom_transpile_eq (session : Session) :
    (pipeline.transpile tools file code).runFrom session =
      (pipeline.transpiled tools session.calls file code,
        { session with calls := session.calls ++ pipeline.transpilerCalls file code }) := by
  rw [runFrom_transpile, transpiled, transpilerCalls]
  split
  case isTrue => rfl
  case isFalse => rw [List.append_nil]

end

section

variable {pipeline : Pipeline} {tools : Tools} {history : List Call} {file code : String}
  {call : Call} {outcome : Except Failure String}

theorem runFrom_instrument_eq (annotates : pipeline.Annotates file code) (session : Session) :
    ∃ store, (pipeline.instrument tools file code).runFrom session =
      (pipeline.instrumented tools session.calls file code,
        { session with
          store
          calls := session.calls ++ pipeline.instrumenterCalls file (.ok code) }) := by
  rw [runFrom_instrument, instrumented, instrumenterCalls]
  split
  case isTrue counts =>
    obtain ⟨text, annotated⟩ := Option.isSome_iff_exists.mp (annotates counts)
    exact ⟨session.store.set file text, by rw [annotated]⟩
  case isFalse => exact ⟨session.store, by rw [List.append_nil]⟩

theorem mem_transpilerCalls :
    call ∈ pipeline.transpilerCalls file code ↔
      pipeline.gate.transpiles file = true ∧ call = .transpile code (pipeline.optionsFor file) := by
  rw [transpilerCalls]
  split <;> simp [*]

theorem mem_instrumenterCalls :
    call ∈ pipeline.instrumenterCalls file outcome ↔
      pipeline.gate.instruments file = true ∧
        ∃ code, outcome = .ok code ∧ call = .instrument code file := by
  cases outcome with
  | error failure => simp [instrumenterCalls]
  | ok code =>
      rw [instrumenterCalls]
      split <;> simp [*]

theorem mem_compileCalls :
    call ∈ compileCalls file outcome ↔ ∃ code, outcome = .ok code ∧ call = .compile code file := by
  cases outcome <;> simp [compileCalls]

end

/-! ## All stages -/

section

variable (pipeline : Pipeline) (tools : Tools) (history : List Call) (file text : String)

/-- What the transpiler makes of a text whose indentation is normal. -/
def generated : Except Failure String :=
  pipeline.transpiled tools history file (Indentation.normalize text)

/-- What the instrumenter makes of this. -/
def prepared : Except Failure String :=
  (pipeline.generated tools history file text).bind
    (pipeline.instrumented tools
      (history ++ pipeline.transpilerCalls file (Indentation.normalize text)) file)

/-- The calls to the tools. -/
def toolCalls : List Call :=
  pipeline.transpilerCalls file (Indentation.normalize text) ++
    pipeline.instrumenterCalls file (pipeline.generated tools history file text)

/-- The calls of a load, where each stage is given what the stages before it came to. -/
structure Stages (made : List Call) : Prop where
  /-- Only the stages are called, each at most once and in order. -/
  ordered : (made.map Call.stage?).Sublist (Stage.all.map some)
  transpiles : ∀ source options, .transpile source options ∈ made ↔
    pipeline.gate.transpiles file = true ∧ source = Indentation.normalize text ∧
      options = pipeline.optionsFor file
  /-- The transpiler writes its map into the code. -/
  asks : ∀ source options, .transpile source options ∈ made →
    options.filename = some file ∧ options.toDocument.field? "sourceMap" = some (.text "inline")
  instruments : ∀ source path, .instrument source path ∈ made ↔
    pipeline.gate.instruments file = true ∧ path = file ∧
      pipeline.generated tools history file text = .ok source
  compiles : ∀ source path, .compile source path ∈ made ↔
    path = file ∧ pipeline.prepared tools history file text = .ok source

theorem optionsFor_asks :
    (pipeline.optionsFor file).filename = some file ∧
      (pipeline.optionsFor file).toDocument.field? "sourceMap" = some (.text "inline") := by
  refine ⟨rfl, ?_⟩
  simp [optionsFor, TranspileOptions.toDocument, Document.field?, Entries.get?]

theorem stages_calls :
    pipeline.Stages tools history file text
      (pipeline.toolCalls tools history file text ++
        compileCalls file (pipeline.prepared tools history file text)) := by
  have transpiles (source : String) (options : TranspileOptions) :
      .transpile source options ∈ pipeline.toolCalls tools history file text ++
          compileCalls file (pipeline.prepared tools history file text) ↔
        pipeline.gate.transpiles file = true ∧ source = Indentation.normalize text ∧
          options = pipeline.optionsFor file := by
    simp [toolCalls, mem_transpilerCalls, mem_instrumenterCalls, mem_compileCalls]
  constructor
  case ordered =>
    rw [toolCalls, List.map_append, List.map_append]
    change List.Sublist _
      ([some Stage.transpiler] ++ [some Stage.instrumenter] ++ [some Stage.host])
    refine (List.Sublist.append ?_ ?_).append ?_
    · rw [transpilerCalls]
      split <;> simp [Call.stage?]
    · cases pipeline.generated tools history file text with
      | error failure => exact List.nil_sublist _
      | ok code =>
          rw [instrumenterCalls]
          split <;> simp [Call.stage?]
    · cases pipeline.prepared tools history file text <;> simp [compileCalls, Call.stage?]
  case transpiles => exact transpiles
  case asks =>
    intro source options called
    obtain ⟨_, _, rfl⟩ := (transpiles source options).mp called
    exact pipeline.optionsFor_asks file
  case instruments =>
    intro source path
    simp only [toolCalls, List.mem_append, mem_transpilerCalls, mem_instrumenterCalls,
      mem_compileCalls]
    grind
  case compiles =>
    intro source path
    simp only [toolCalls, List.mem_append, mem_transpilerCalls, mem_instrumenterCalls,
      mem_compileCalls]
    grind

end

section

variable {pipeline : Pipeline} {tools : Tools} {file text : String}
  {readText : String → Except ReadFault String}

theorem runFrom_transform_eq (read : readText file = .ok text) (session : Session)
    (annotates : ∀ code, pipeline.generated tools session.calls file text = .ok code →
      pipeline.Annotates file code) :
    ∃ store, (pipeline.transform tools readText file).runFrom session =
      (pipeline.prepared tools session.calls file text,
        { session with
          store
          calls := session.calls ++ pipeline.toolCalls tools session.calls file text }) := by
  have first := pipeline.runFrom_transpile_eq tools file (Indentation.normalize text) session
  cases answer : pipeline.generated tools session.calls file text with
  | error failure =>
      have refused : pipeline.transpiled tools session.calls file (Indentation.normalize text) =
          .error failure := answer
      rw [refused] at first
      refine ⟨session.store, ?_⟩
      rw [transform_eq, read, runFrom_bind_error first, prepared, toolCalls, answer,
        instrumenterCalls, List.append_nil]
      rfl
  | ok code =>
      have transpiles : pipeline.transpiled tools session.calls file (Indentation.normalize text) =
          .ok code := answer
      rw [transpiles] at first
      let between : Session := { session with
        calls := session.calls ++ pipeline.transpilerCalls file (Indentation.normalize text) }
      obtain ⟨store, second⟩ : ∃ store, (pipeline.instrument tools file code).runFrom between =
          (pipeline.instrumented tools between.calls file code,
            { between with
              store
              calls := between.calls ++ pipeline.instrumenterCalls file (.ok code) }) :=
        runFrom_instrument_eq (annotates code answer) between
      refine ⟨store, ?_⟩
      rw [transform_eq, read, runFrom_bind_ok first, second, prepared, toolCalls, answer,
        ← List.append_assoc]
      rfl

/-- What a load comes to, and its calls. -/
theorem runFrom_load_eq (host : Host) (read : readText file = .ok text) (session : Session)
    (annotates : ∀ code, pipeline.generated tools session.calls file text = .ok code →
      pipeline.Annotates file code) :
    let history := session.calls ++ pipeline.toolCalls tools session.calls file text
    let prepared := pipeline.prepared tools session.calls file text
    let ran := (pipeline.load tools host readText file).runFrom session
    ran.1 = prepared.bind (host.verdict session.coverage history file) ∧
      ran.2.calls = history ++ compileCalls file prepared := by
  obtain ⟨store, transformed⟩ := runFrom_transform_eq read session annotates
  cases outcome : pipeline.prepared tools session.calls file text with
  | error failure =>
      rw [outcome] at transformed
      dsimp only
      rw [load, runFrom_bind_error transformed]
      exact ⟨rfl, (List.append_nil _).symm⟩
  | ok code =>
      rw [outcome] at transformed
      dsimp only
      rw [load, runFrom_bind_ok transformed]
      obtain ⟨coverage, compiled⟩ := runFrom_compile host file code _
      rw [compiled]
      exact ⟨rfl, rfl⟩

/-! ## Failures -/

/-- The failure of a stage says which stage and which file. -/
def StageFailure (file : String) (failure : Failure) : Prop :=
  ∃ message, failure = .transpile file message ∨ failure = .instrument file message ∨
    failure = .compile file message

variable {history later : List Call} {failure : Failure}

theorem exists_of_mapError {make : String → Failure} {result : Except String String}
    (failed : result.mapError make = .error failure) : ∃ message, failure = make message := by
  cases result with
  | error message =>
      cases failed
      exact ⟨message, rfl⟩
  | ok code => cases failed

theorem stageFailure_of_transpiled {code : String}
    (failed : pipeline.transpiled tools history file code = .error failure) :
    StageFailure file failure := by
  rw [transpiled] at failed
  split at failed
  case isTrue =>
    obtain ⟨message, rfl⟩ := exists_of_mapError failed
    exact ⟨message, Or.inl rfl⟩
  case isFalse => cases failed

theorem stageFailure_of_instrumented {code : String}
    (failed : pipeline.instrumented tools history file code = .error failure) :
    StageFailure file failure := by
  rw [instrumented] at failed
  split at failed
  case isTrue =>
    obtain ⟨message, rfl⟩ := exists_of_mapError failed
    exact ⟨message, Or.inr (Or.inl rfl)⟩
  case isFalse => cases failed

theorem stageFailure_of_prepared
    (failed : pipeline.prepared tools history file text = .error failure) :
    StageFailure file failure := by
  rw [prepared] at failed
  cases answer : pipeline.generated tools history file text with
  | error other =>
      rw [answer] at failed
      cases failed
      exact stageFailure_of_transpiled answer
  | ok code =>
      rw [answer] at failed
      exact stageFailure_of_instrumented failed

theorem stageFailure_of_verdict {host : Host} {coverage : Coverage} {code : String}
    (failed : host.verdict coverage history file code = .error failure) :
    failure = .counterTooLarge ∨ StageFailure file failure := by
  rw [Host.verdict] at failed
  split at failed
  case h_1 =>
    cases failed
    exact Or.inl rfl
  case h_2 => cases failed
  case h_3 message _ _ =>
    cases failed
    exact Or.inr ⟨message, Or.inr (Or.inr rfl)⟩

/-- How a load fails once its text is read and annotated. -/
theorem stageFailure_of_load {host : Host} {coverage : Coverage}
    (failed : (pipeline.prepared tools history file text).bind
      (host.verdict coverage later file) = .error failure) :
    failure = .counterTooLarge ∨ StageFailure file failure := by
  cases outcome : pipeline.prepared tools history file text with
  | error other =>
      rw [outcome] at failed
      cases failed
      exact Or.inr (stageFailure_of_prepared outcome)
  | ok code =>
      rw [outcome] at failed
      exact stageFailure_of_verdict failed

end

section

variable {pipeline : Pipeline} {surroundings : Surroundings} {file : String}
  {session after : Session} {result : Except Failure Unit}

/-- The load of a file that cannot be read makes no call. -/
theorem runFrom_load_unread {fault : ReadFault} (unread : surroundings.readText file = .error fault)
    (session : Session) :
    (pipeline.load surroundings.tools surroundings.host surroundings.readText file).runFrom
      session = (.error (fault.failure file), session) := by
  have failed : (pipeline.transform surroundings.tools surroundings.readText file).runFrom session =
      (.error (fault.failure file), session) := by
    rw [transform_eq, unread, runFrom_throw]
  rw [load, runFrom_bind_error failed]

theorem StageFailure.ne_counterTooLarge {failure : Failure} (blamed : StageFailure file failure) :
    failure ≠ .counterTooLarge := by
  obtain ⟨message, rfl | rfl | rfl⟩ := blamed <;> simp

/-- The load of a readable file calls its stages, and its last call is the first one that fails. -/
theorem load_stops {text : String} (read : surroundings.readText file = .ok text)
    (annotates : ∀ code,
      pipeline.generated surroundings.tools session.calls file text = .ok code →
        pipeline.Annotates file code)
    (ran : (pipeline.load surroundings.tools surroundings.host surroundings.readText file).runFrom
      session = (result, after)) :
    ∃ made, after.calls = session.calls ++ made ∧
      pipeline.Stages surroundings.tools session.calls file text made ∧
      (result = .ok () ∧ surroundings.Unbroken session.calls made ∨
        result = .error .counterTooLarge ∧
            Coverage.Overfull (surroundings.host.reported session.calls made) session.coverage ∨
          ∃ failure, result = .error failure ∧ surroundings.Breaks session.calls made failure ∧
            StageFailure file failure) := by
  obtain ⟨answer, calls⟩ := runFrom_load_eq surroundings.host read session annotates
  have account := pipeline.accounted_load file session read
  have stages := pipeline.stages_calls surroundings.tools session.calls file text
  rw [ran] at answer calls account
  rw [List.append_assoc] at calls
  generalize pipeline.toolCalls surroundings.tools session.calls file text ++ _ = made
    at calls stages
  refine ⟨made, calls, stages, ?_⟩
  cases result with
  | ok _ => exact Or.inl ⟨rfl, (account.finished calls).unbroken⟩
  | error failure =>
      have stopped := account.stopped calls
      refine Or.inr ?_
      rcases stageFailure_of_load answer.symm with rfl | blamed
      · exact Or.inl ⟨rfl, stopped.overfull⟩
      · rcases stopped.reason with breaks | rfl | ⟨rfl, _⟩
        · exact Or.inr ⟨failure, rfl, breaks, blamed⟩
        · obtain ⟨message, named⟩ := blamed
          simp at named
        · exact absurd rfl blamed.ne_counterTooLarge

/--
A file that cannot be read fails the load without any call. The load of a readable file calls the
transpiler, the instrumenter and the host, each at most once and in this order: the transpiler for a
file that the gate lets through, with the text in normal indentation and options for this file that
ask for an inline map; the instrumenter for a file that counts for coverage, with the code so far;
and the host with the code that comes out. Unless the host records more than a counter holds, the
load succeeds if and only if none of the called stages fails, and else fails like the first one that
does.
-/
theorem load_stages
    (ran : (pipeline.load surroundings.tools surroundings.host surroundings.readText file).runFrom
      session = (result, after)) :
    (∀ fault, surroundings.readText file = .error fault →
        result = .error (fault.failure file) ∧ after = session) ∧
      ∀ text, surroundings.readText file = .ok text →
        (∀ code, pipeline.generated surroundings.tools session.calls file text = .ok code →
          pipeline.Annotates file code) →
        ∃ made, after.calls = session.calls ++ made ∧
          pipeline.Stages surroundings.tools session.calls file text made ∧
          (result = .error .counterTooLarge →
            Coverage.Overfull (surroundings.host.reported session.calls made) session.coverage) ∧
          (result ≠ .error .counterTooLarge →
            (result = .ok () ↔ surroundings.Unbroken session.calls made) ∧
            ∀ failure, result = .error failure →
              surroundings.Breaks session.calls made failure ∧ StageFailure file failure) := by
  constructor
  · intro fault unread
    rw [runFrom_load_unread unread] at ran
    cases ran
    exact ⟨rfl, rfl⟩
  intro text read annotates
  obtain ⟨made, calls, stages, ended⟩ := load_stops read annotates ran
  refine ⟨made, calls, stages, ?_⟩
  rcases ended with ⟨rfl, unbroken⟩ | ⟨rfl, overfull⟩ | ⟨failure, rfl, breaks, blamed⟩
  · constructor
    · intro full
      cases full
    · intro _
      refine ⟨iff_of_true rfl unbroken, ?_⟩
      intro failure failed
      cases failed
  · exact ⟨fun _ => overfull, fun notFull => absurd rfl notFull⟩
  · constructor
    · intro full
      cases full
      exact absurd rfl blamed.ne_counterTooLarge
    · intro _
      constructor
      · refine iff_of_false (fun same => ?_) breaks.not_unbroken
        cases same
      · intro other same
        cases same
        exact ⟨breaks, blamed⟩

/-- A pipeline that transpiles files in JSX. -/
def ofJsx : Pipeline :=
  ⟨⟨⟨[⟨"**/*.jsx", [.anyPieces, .anyRun, .char '.', .char 'j', .char 's', .char 'x']⟩]⟩, ⟨[]⟩,
    ⟨[]⟩⟩, ⟨none, []⟩⟩

/-- Surroundings where the instrumenter refuses all code. -/
def refusingSurroundings : Surroundings where
  tools := ⟨fun _ source _ => .ok (source ++ ";"), fun _ _ _ => .error "refused"⟩
  host := ⟨fun _ _ _ => ([], none)⟩
  writers := ⟨fun _ _ _ => none, fun _ _ _ => none⟩
  runner := ⟨fun _ _ => [], false⟩
  readText := fun _ => .ok "\ta"
  expand := fun _ => .ok []
  workingDirectory := "/"

/-- A file that is transpiled, and whose code the instrumenter refuses, does not reach the host. -/
theorem load_stages_refused :
    ∃ after, (ofJsx.load refusingSurroundings.tools refusingSurroundings.host
        refusingSurroundings.readText "a.jsx").runFrom .initial =
          (.error (.instrument "a.jsx" "refused"), after) ∧
      ofJsx.Stages refusingSurroundings.tools [] "a.jsx" "\ta" after.calls ∧
      .transpile "  a" (ofJsx.optionsFor "a.jsx") ∈ after.calls ∧
      .instrument "  a;" "a.jsx" ∈ after.calls ∧
      refusingSurroundings.Breaks [] after.calls (.instrument "a.jsx" "refused") := by
  have generated : ofJsx.generated refusingSurroundings.tools [] "a.jsx" "\ta" = .ok "  a;" :=
    rfl
  have annotates : ∀ code,
      ofJsx.generated refusingSurroundings.tools [] "a.jsx" "\ta" = .ok code →
        ofJsx.Annotates "a.jsx" code := by
    intro code answer _
    rw [generated] at answer
    cases answer
    decide
  have ended : ((ofJsx.load refusingSurroundings.tools refusingSurroundings.host
      refusingSurroundings.readText "a.jsx").runFrom .initial).1 =
        .error (.instrument "a.jsx" "refused") :=
    rfl
  obtain ⟨after, ran⟩ : ∃ after, (ofJsx.load refusingSurroundings.tools refusingSurroundings.host
      refusingSurroundings.readText "a.jsx").runFrom .initial =
        (.error (.instrument "a.jsx" "refused"), after) := ⟨_, Prod.ext ended rfl⟩
  obtain ⟨made, calls, stages, _, outcome⟩ := (load_stages ran).2 "\ta" rfl annotates
  obtain rfl : after.calls = made := calls
  refine ⟨after, ran, stages, ?_, ?_, ?_⟩
  · exact (stages.transpiles _ _).mpr ⟨by decide, by decide, rfl⟩
  · exact (stages.instruments _ _).mpr ⟨by decide, rfl, generated⟩
  · have other : (.error (.instrument "a.jsx" "refused") : Except Failure Unit) ≠
        .error .counterTooLarge := by
      intro same
      cases same
    exact ((outcome other).2 _ rfl).1

end

end Pipeline

end MappedCoverage
