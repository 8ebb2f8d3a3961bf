import MappedCoverage.Proofs.Pipeline.Steps
import MappedCoverage.Proofs.Store.Paths

/-!
# The store of a pipeline

A pipeline writes to the store exactly when it is about to call the instrumenter. So after any loads
the store shows, for every path, the annotated code that the instrumenter was given last for this
path, whether the instrumenter and the host accepted it or not.
-/

namespace MappedCoverage

/-! ## Calls of the instrumenter -/

/-- The code and the file that the instrumenter was given by a call of it. -/
def Call.instrumented? : Call → Option (String × String)
  | .instrument code file => some (code, file)
  | _ => none

/-- The code that the instrumenter was given last for a path, however the path was spelled. -/
def lastInstrumented? (calls : List Call) (path : String) : Option String :=
  ((calls.filterMap Call.instrumented?).reverse.find? fun given => Path.same path given.2).map (·.1)

theorem lastInstrumented?_append_other {call : Call} (other : call.instrumented? = none)
    (calls : List Call) (path : String) :
    lastInstrumented? (calls ++ [call]) path = lastInstrumented? calls path := by
  simp [lastInstrumented?, other]

theorem lastInstrumented?_append_instrument (calls : List Call) (code file path : String) :
    lastInstrumented? (calls ++ [.instrument code file]) path =
      if Path.same path file then some code else lastInstrumented? calls path := by
  cases same : Path.same path file <;> simp [lastInstrumented?, Call.instrumented?, same]

/-- A store shows what calls gave to the instrumenter. -/
structure Mirrors (gate : Gate) (made : List Call) (store : Store) : Prop where
  /-- Only files that count for coverage are listed. -/
  listed : ∀ file ∈ store.files, gate.instruments file = true
  /-- Every path has the annotated text of what the instrumenter was given last for it. -/
  kept : ∀ path,
    (store.get? path).map some = (lastInstrumented? made path).map Annotated.annotate?

namespace Mirrors

variable {gate : Gate} {made : List Call} {store : Store}

theorem nothing : Mirrors gate [] .empty where
  listed := fun _ inside => nomatch inside
  kept := fun _ => rfl

theorem other (mirrors : Mirrors gate made store) {call : Call}
    (other : call.instrumented? = none) : Mirrors gate (made ++ [call]) store where
  listed := mirrors.listed
  kept := fun path => by rw [lastInstrumented?_append_other other, mirrors.kept]

/-- The same code goes to the store, annotated, and to the instrumenter. -/
theorem instrument (mirrors : Mirrors gate made store) {code file text : String}
    (counts : gate.instruments file = true) (annotated : Annotated.annotate? code = some text) :
    Mirrors gate (made ++ [.instrument code file]) (store.set file text) where
  listed := by
    intro path inside
    rcases Store.mem_files_of_mem_files_set inside with rfl | earlier
    · exact counts
    · exact mirrors.listed path earlier
  kept := by
    intro path
    rw [Store.get?_set, lastInstrumented?_append_instrument]
    cases Path.same path file with
    | false => exact mirrors.kept path
    | true => simp [annotated]

end Mirrors

/-! ## Loads -/

/-- A load: the file, what files contain at that time, and the host that executes the code. -/
structure Loading where
  file : String
  readText : String → Except ReadFault String
  host : Host

namespace Pipeline

open MappedCoverage.Action

variable {pipeline : Pipeline} {tools : Tools}

/-- The load as an action. -/
def perform (pipeline : Pipeline) (tools : Tools) (loading : Loading) : Action Unit :=
  pipeline.load tools loading.host loading.readText loading.file

/-- The session after loads, each done whether the ones before it failed or not. -/
def sessionAfter (pipeline : Pipeline) (tools : Tools) (loadings : List Loading)
    (session : Session) : Session :=
  loadings.foldl (fun before loading => ((pipeline.perform tools loading).runFrom before).2) session

/-- The calls since a session mirror in the store. -/
def MirrorsSince (gate : Gate) (start : List Call) (session : Session) : Prop :=
  ∃ made, session.calls = start ++ made ∧ Mirrors gate made session.store

theorem MirrorsSince.other {gate : Gate} {start : List Call} {session : Session}
    (mirrors : MirrorsSince gate start session) {call : Call} (other : call.instrumented? = none) :
    MirrorsSince gate start { session with calls := session.calls ++ [call] } := by
  obtain ⟨made, calls, mirrored⟩ := mirrors
  refine ⟨made ++ [call], ?_, mirrored.other other⟩
  rw [calls, List.append_assoc]

theorem preserves_instrument (start : List Call) (file code : String) :
    Preserves (MirrorsSince pipeline.gate start) (pipeline.instrument tools file code) := by
  rintro session ⟨made, calls, mirrors⟩
  rw [runFrom_instrument]
  split
  case isFalse => exact ⟨made, calls, mirrors⟩
  case isTrue counts =>
    cases annotated : Annotated.annotate? code with
    | none => exact ⟨made, calls, mirrors⟩
    | some text =>
        refine ⟨made ++ [.instrument code file], ?_, mirrors.instrument counts annotated⟩
        simp only [calls, List.append_assoc]

theorem preserves_perform (start : List Call) (loading : Loading) :
    Preserves (MirrorsSince pipeline.gate start) (pipeline.perform tools loading) := by
  refine Preserves.bind ?_ fun code => ?_
  · refine preserves_transform (fun code => ?_) (preserves_instrument start loading.file)
    exact preserves_transpile _ _ fun session options mirrors => mirrors.other rfl
  · refine preserves_compile _ _ _ ?_ ?_
    · exact fun session coverage mirrors => mirrors
    · exact fun session mirrors => mirrors.other rfl

theorem mirrorsSince_sessionAfter {start : List Call} {session : Session} (loadings : List Loading)
    (mirrors : MirrorsSince pipeline.gate start session) :
    MirrorsSince pipeline.gate start (pipeline.sessionAfter tools loadings session) := by
  induction loadings generalizing session with
  | nil => exact mirrors
  | cons loading rest ih => exact ih (preserves_perform start loading session mirrors)

/-! ## Loads that leave the store alone -/

theorem instrument_ne_transpile (file code : String) (session : Session) (path message : String) :
    ((pipeline.instrument tools file code).runFrom session).1 ≠
      .error (.transpile path message) := by
  rw [runFrom_instrument]
  split
  case isFalse => simp
  case isTrue =>
    cases Annotated.annotate? code with
    | none => exact nofun
    | some text => cases tools.instrument session.calls code file <;> exact nofun

theorem verdict_ne_transpile (host : Host) (coverage : Coverage) (history : List Call)
    (file code path message : String) :
    host.verdict coverage history file code ≠ .error (.transpile path message) := by
  rw [Host.verdict]
  split <;> simp

theorem store_perform_of_unread {loading : Loading} {fault : ReadFault}
    (unread : loading.readText loading.file = .error fault) (session : Session) :
    ((pipeline.perform tools loading).runFrom session).2.store = session.store := by
  have failed : (pipeline.transform tools loading.readText loading.file).runFrom session =
      (.error (fault.failure loading.file), session) := by
    rw [transform_eq, unread, runFrom_throw]
  rw [perform, load, runFrom_bind_error failed]

/-- A load that fails in the transpiler has not come to the store yet. -/
theorem store_perform_of_untranspiled {loading : Loading} {session after : Session}
    {path message : String}
    (failed : (pipeline.perform tools loading).runFrom session =
      (.error (.transpile path message), after)) :
    after.store = session.store := by
  -- Only the transpiler fails in this way, so the later steps cannot be where the load ended.
  rcases runFrom_bind_eq_error failed with untransformed | ⟨code, between, _, ended⟩
  · rw [transform_eq] at untransformed
    cases read : loading.readText loading.file with
    | error fault =>
        rw [read] at untransformed
        have same : session = after := congrArg Prod.snd untransformed
        rw [same]
    | ok text =>
        rw [read] at untransformed
        rcases runFrom_bind_eq_error untransformed with untranspiled | ⟨code, between, _, ended⟩
        · have same := congrArg (fun ran => ran.2.store) untranspiled
          rw [runFrom_transpile] at same
          split at same <;> exact same.symm
        · exact absurd (congrArg Prod.fst ended) (instrument_ne_transpile _ _ _ _ _)
  · obtain ⟨coverage, compiled⟩ := runFrom_compile loading.host loading.file code between
    rw [compiled] at ended
    exact absurd (congrArg Prod.fst ended) (verdict_ne_transpile _ _ _ _ _ _ _)

theorem store_perform_of_not_instruments {loading : Loading}
    (uncounted : pipeline.gate.instruments loading.file = false) (session : Session) :
    ((pipeline.perform tools loading).runFrom session).2.store = session.store := by
  have spared : Preserves (fun later => later.store = session.store)
      (pipeline.perform tools loading) := by
    refine Preserves.bind (preserves_transform ?_ ?_) fun code => ?_
    · exact fun code => preserves_transpile _ _ fun _ _ kept => kept
    · intro code later kept
      rw [runFrom_instrument, uncounted]
      exact kept
    · exact preserves_compile _ _ _ (fun _ _ kept => kept) fun _ kept => kept
  exact spared session rfl

end Pipeline

end MappedCoverage
