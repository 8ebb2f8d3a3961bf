import MappedCoverage.Run
import MappedCoverage.Proofs.Coverage.Recordings
import MappedCoverage.Proofs.Failure.Attempts
import MappedCoverage.Proofs.Session.Actions

/-!
# Accounts of runs

Which calls fail is said by the surroundings of a run alone, given the calls before. An account says
that an action made the calls of its plan one after another, none of them failing, and that the
coverage gained what was recorded by the host meanwhile and by the test runner; or that the action
stopped at the first call that failed, and failed with the failure of this call.
-/

namespace MappedCoverage

/-! ## Calls that fail -/

namespace Surroundings

/-- The failure of a call, given the calls before it. -/
def failure? (surroundings : Surroundings) (history : List Call) : Call → Option Failure
  | .expand pattern =>
      failureOf? ((surroundings.expand pattern).mapError (.invalidPattern pattern))
  | .load file => failureOf? ((surroundings.readText file).mapError (·.failure file))
  | .transpile source options =>
      failureOf? ((surroundings.tools.transpile history source options).mapError
        (.transpile (options.filename.getD "")))
  | .instrument source file =>
      failureOf? ((surroundings.tools.instrument history source file).mapError (.instrument file))
  | .compile source file => (surroundings.host.compile history source file).2.map (.compile file)
  | .createReport name options =>
      (surroundings.writers.create history name options).map (.report name)
  | .writeReport name _ collector =>
      (surroundings.writers.write history name collector).map (.report name)
  | .configure _ | .addFile _ | .runTests | .complete => none

/-- No call fails, where each is made after the history and the calls before it. -/
def Unbroken (surroundings : Surroundings) : List Call → List Call → Prop
  | _, [] => True
  | history, call :: rest =>
      surroundings.failure? history call = none ∧ surroundings.Unbroken (history ++ [call]) rest

/-- The last call is the first one that fails, and this is its failure. -/
def Breaks (surroundings : Surroundings) (history calls : List Call) (failure : Failure) : Prop :=
  ∃ earlier last, calls = earlier ++ [last] ∧ surroundings.Unbroken history earlier ∧
    surroundings.failure? (history ++ earlier) last = some failure

variable {surroundings : Surroundings} {history earlier later : List Call} {failure : Failure}

theorem unbroken_append :
    surroundings.Unbroken history (earlier ++ later) ↔
      surroundings.Unbroken history earlier ∧ surroundings.Unbroken (history ++ earlier) later := by
  induction earlier generalizing history with
  | nil => simp [Unbroken]
  | cons call rest ih =>
      rw [List.cons_append, Unbroken, Unbroken, ih, and_assoc, List.append_assoc,
        List.singleton_append]

theorem Unbroken.breaks (unbroken : surroundings.Unbroken history earlier)
    (breaks : surroundings.Breaks (history ++ earlier) later failure) :
    surroundings.Breaks history (earlier ++ later) failure := by
  obtain ⟨before, last, rfl, whole, fails⟩ := breaks
  refine ⟨earlier ++ before, last, (List.append_assoc _ _ _).symm, ?_, ?_⟩
  · exact unbroken_append.mpr ⟨unbroken, whole⟩
  · rwa [← List.append_assoc]

/-- Where a call fails, not all of them go well. -/
theorem Breaks.not_unbroken (breaks : surroundings.Breaks history earlier failure) :
    ¬ surroundings.Unbroken history earlier := by
  obtain ⟨before, last, rfl, _, fails⟩ := breaks
  intro unbroken
  obtain ⟨passes, _⟩ := (unbroken_append.mp unbroken).2
  rw [passes] at fails
  cases fails

theorem Unbroken.of_prefix (unbroken : surroundings.Unbroken history later)
    (part : earlier <+: later) : surroundings.Unbroken history earlier := by
  obtain ⟨rest, rfl⟩ := part
  exact (unbroken_append.mp unbroken).1

/-- Calls that stop at the first failure are all that were planned exactly if none before the last
one fails, whether the last one does or not. -/
theorem eq_iff_unbroken_dropLast {made planned : List Call} (part : made <+: planned)
    (stops : made = planned ∧ surroundings.Unbroken history made ∨
      ∃ failure, surroundings.Breaks history made failure) :
    made = planned ↔ surroundings.Unbroken history planned.dropLast := by
  constructor
  · rintro rfl
    rcases stops with ⟨_, unbroken⟩ | ⟨failure, before, last, rfl, unbroken, _⟩
    · exact unbroken.of_prefix (List.dropLast_prefix made)
    · rwa [List.dropLast_concat]
  · intro unbroken
    rcases stops with ⟨all, _⟩ | ⟨failure, breaks⟩
    · exact all
    · rcases List.eq_nil_or_concat planned with rfl | ⟨others, last, rfl⟩
      · exact List.prefix_nil.mp part
      · rw [List.concat_eq_append] at part unbroken ⊢
        rw [List.dropLast_concat] at unbroken
        rcases List.prefix_concat_iff.mp part with all | shorter
        · exact all
        · exact absurd (unbroken.of_prefix shorter) breaks.not_unbroken

/-- No call fails for a counter. -/
theorem failure?_ne_counterTooLarge (call : Call) :
    surroundings.failure? history call ≠ some .counterTooLarge := by
  cases call with
  | load file =>
      simp only [failure?, ne_eq, failureOf?_mapError_eq_some_iff, not_exists, not_and]
      rintro (_ | _) _ <;> exact nofun
  | _ => simp [failure?, failureOf?_mapError_eq_some_iff]

end Surroundings

/-! ## Calls and recordings -/

/-- Whether a call belongs to the inside of a load. -/
def Call.insideLoad : Call → Bool
  | .transpile .. | .instrument .. | .compile .. => true
  | _ => false

/-- The calls outside of loads. -/
def outline (calls : List Call) : List Call :=
  calls.filter (!·.insideLoad)

theorem outline_append (earlier later : List Call) :
    outline (earlier ++ later) = outline earlier ++ outline later :=
  List.filter_append ..

/-- What the host records when it is called after a history. -/
def Host.recorded (host : Host) (history : List Call) : Call → List Recording
  | .compile source file => (host.compile history source file).1
  | _ => []

/-- What the host records in the course of calls. -/
def Host.reported (host : Host) : List Call → List Call → List Recording
  | _, [] => []
  | history, call :: rest => host.recorded history call ++ host.reported (history ++ [call]) rest

theorem Host.reported_append (host : Host) (history earlier later : List Call) :
    host.reported history (earlier ++ later) =
      host.reported history earlier ++ host.reported (history ++ earlier) later := by
  induction earlier generalizing history with
  | nil => simp [reported]
  | cons call rest ih =>
      rw [List.cons_append, reported, reported, ih, List.append_assoc, List.append_assoc,
        List.singleton_append]

/-! ## Accounts -/

/-- The calls of a plan were made and none failed. -/
structure Finished (surroundings : Surroundings) (plan : List Call) (own : List Recording)
    (before : Session) (made : List Call) (after : Session) : Prop where
  calls : after.calls = before.calls ++ made
  unbroken : surroundings.Unbroken before.calls made
  outline : outline made = plan
  coverage : Coverage.Gains (surroundings.host.reported before.calls made ++ own) before.coverage
    after.coverage

/-- Calls were made up to one that failed, unless an annotated text or a counter did not fit. -/
structure Stopped (surroundings : Surroundings) (plan : List Call) (own : List Recording)
    (before : Session) (made : List Call) (failure : Failure) (after : Session) : Prop where
  calls : after.calls = before.calls ++ made
  outline : outline made <+: plan
  reason : surroundings.Breaks before.calls made failure ∨ failure = .columnTooWide ∨
    failure = .counterTooLarge ∧ ∃ performed, performed <+: own ∧
      Coverage.Overfull (surroundings.host.reported before.calls made ++ performed)
        before.coverage

/-- What an action did, which was to make the calls of a plan while the test runner recorded. -/
def Accounted {α : Type} (surroundings : Surroundings) (plan : List Call) (own : List Recording)
    (before : Session) : Except Failure α × Session → Prop
  | (.ok _, after) => ∃ made, Finished surroundings plan own before made after
  | (.error failure, after) => ∃ made, Stopped surroundings plan own before made failure after

variable {surroundings : Surroundings} {plan rest : List Call} {own others : List Recording}
  {before between after : Session} {made later : List Call} {failure : Failure}

/-- Recordings of two parts of a run, put together by where they come from. -/
theorem perm_exchange (reported own reportedNext ownNext : List Recording) :
    (reported ++ own ++ (reportedNext ++ ownNext)).Perm
      (reported ++ reportedNext ++ (own ++ ownNext)) := by
  rw [List.append_assoc, List.append_assoc]
  exact (List.perm_append_comm_assoc own reportedNext ownNext).append_left reported

/-- Calls that broke off without recordings of their own broke off at a call, or at what the host
recorded. -/
theorem Stopped.overfull
    (stopped : Stopped surroundings plan [] before made .counterTooLarge after) :
    Coverage.Overfull (surroundings.host.reported before.calls made) before.coverage := by
  rcases stopped.reason with ⟨_, last, _, _, fails⟩ | wide | ⟨_, performed, part, overfull⟩
  · exact absurd fails (Surroundings.failure?_ne_counterTooLarge last)
  · cases wide
  · obtain rfl := List.prefix_nil.mp part
    rwa [List.append_nil] at overfull

theorem Finished.trans (first : Finished surroundings plan own before made between)
    (second : Finished surroundings rest others between later after) :
    Finished surroundings (plan ++ rest) (own ++ others) before (made ++ later) after where
  calls := by rw [second.calls, first.calls, List.append_assoc]
  unbroken := by
    refine Surroundings.unbroken_append.mpr ⟨first.unbroken, ?_⟩
    rw [← first.calls]
    exact second.unbroken
  outline := by rw [outline_append, first.outline, second.outline]
  coverage := by
    rw [Host.reported_append, ← first.calls]
    exact (first.coverage.trans second.coverage).perm (perm_exchange _ _ _ _)

theorem Finished.stopped (first : Finished surroundings plan own before made between)
    (second : Stopped surroundings rest others between later failure after) :
    Stopped surroundings (plan ++ rest) (own ++ others) before (made ++ later) failure after where
  calls := by rw [second.calls, first.calls, List.append_assoc]
  outline := by
    rw [outline_append, first.outline]
    exact (List.prefix_append_right_inj plan).mpr second.outline
  reason := by
    rcases second.reason with breaks | wide | ⟨full, performed, part, overfull⟩
    · rw [first.calls] at breaks
      exact Or.inl (first.unbroken.breaks breaks)
    · exact Or.inr (Or.inl wide)
    · refine Or.inr (Or.inr ⟨full, own ++ performed, ?_, ?_⟩)
      · exact (List.prefix_append_right_inj own).mpr part
      · rw [Host.reported_append, ← first.calls]
        exact (first.coverage.overfull overfull).perm (perm_exchange _ _ _ _)

theorem Stopped.extend (stopped : Stopped surroundings plan own before made failure after)
    (rest : List Call) (others : List Recording) :
    Stopped surroundings (plan ++ rest) (own ++ others) before made failure after where
  calls := stopped.calls
  outline := stopped.outline.trans (List.prefix_append plan rest)
  reason := by
    rcases stopped.reason with breaks | wide | ⟨full, performed, part, overfull⟩
    · exact Or.inl breaks
    · exact Or.inr (Or.inl wide)
    · have further : performed <+: own ++ others := part.trans (List.prefix_append own others)
      exact Or.inr (Or.inr ⟨full, performed, further, overfull⟩)

/-! ## Accounts of actions -/

section

variable {α β : Type}

theorem accounted_pure (answer : α) (session : Session) :
    Accounted surroundings [] [] session (.ok answer, session) :=
  ⟨[], {
    calls := (List.append_nil _).symm
    unbroken := trivial
    outline := rfl
    coverage := Coverage.gains_nil _ }⟩

/-- An annotated text that does not fit stops an action before the next call. -/
theorem accounted_tooWide (session : Session) :
    Accounted surroundings [] [] session
      ((.error .columnTooWide, session) : Except Failure α × Session) :=
  ⟨[], {
    calls := (List.append_nil _).symm
    outline := List.prefix_refl _
    reason := Or.inr (Or.inl rfl) }⟩

/-- One call, which fails as the result says. -/
theorem accounted_single (call : Call) {session after : Session} {result : Except Failure α}
    (calls : after.calls = session.calls ++ [call]) (coverage : after.coverage = session.coverage)
    (silent : surroundings.host.recorded session.calls call = [])
    (ends : surroundings.failure? session.calls call = failureOf? result) :
    Accounted surroundings (outline [call]) [] session (result, after) := by
  cases result with
  | ok answer =>
      refine ⟨[call], { calls, unbroken := ⟨ends, trivial⟩, outline := rfl, coverage := ?_ }⟩
      rw [Host.reported, Host.reported, silent, coverage]
      exact Coverage.gains_nil _
  | error failure =>
      refine ⟨[call], { calls, outline := List.prefix_refl _, reason := Or.inl ?_ }⟩
      refine ⟨[], call, rfl, trivial, ?_⟩
      rw [List.append_nil, ends]
      rfl

/-- The calls that were made are those that the session has more than before. -/
theorem Accounted.finished {answer : α}
    (account : Accounted surroundings plan own before (.ok answer, after))
    (calls : after.calls = before.calls ++ made) :
    Finished surroundings plan own before made after := by
  obtain ⟨others, finished⟩ := account
  obtain rfl : others = made := List.append_cancel_left (finished.calls.symm.trans calls)
  exact finished

theorem Accounted.stopped
    (account : Accounted surroundings plan own before
      ((.error failure, after) : Except Failure α × Session))
    (calls : after.calls = before.calls ++ made) :
    Stopped surroundings plan own before made failure after := by
  obtain ⟨others, stopped⟩ := account
  obtain rfl : others = made := List.append_cancel_left (stopped.calls.symm.trans calls)
  exact stopped

/-- An account of a sequence, where the plan of its second part may depend on the first answer. -/
theorem Accounted.bind {action : Action α} {next : α → Action β} {session : Session}
    (first : Accounted surroundings plan own session (action.runFrom session))
    (second : ∀ answer between, action.runFrom session = (.ok answer, between) →
      Accounted surroundings rest others between ((next answer).runFrom between)) :
    Accounted surroundings (plan ++ rest) (own ++ others) session
      ((action >>= next).runFrom session) := by
  -- A failure of the first part ends the sequence; its answer hands its session to the second part.
  rw [Action.runFrom_bind]
  cases ran : action.runFrom session with
  | mk result between =>
      rw [ran] at first
      cases result with
      | error failure =>
          obtain ⟨made, stopped⟩ := first
          exact ⟨made, stopped.extend rest others⟩
      | ok answer =>
          obtain ⟨made, finished⟩ := first
          have goesOn := second answer between ran
          dsimp only
          cases ended : (next answer).runFrom between with
          | mk result after =>
              rw [ended] at goesOn
              cases result with
              | error failure =>
                  obtain ⟨later, stopped⟩ := goesOn
                  exact ⟨made ++ later, finished.stopped stopped⟩
              | ok answer =>
                  obtain ⟨later, finishedNext⟩ := goesOn
                  exact ⟨made ++ later, finished.trans finishedNext⟩

theorem Accounted.forM {items : List β} {action : β → Action Unit} {plan : β → List Call}
    {own : β → List Recording}
    (each : ∀ item session,
      Accounted surroundings (plan item) (own item) session ((action item).runFrom session))
    (session : Session) :
    Accounted surroundings (items.flatMap plan) (items.flatMap own) session
      ((items.forM action).runFrom session) := by
  induction items generalizing session with
  | nil => exact accounted_pure () session
  | cons item rest ih =>
      rw [Action.runFrom_forM_cons, List.flatMap_cons, List.flatMap_cons]
      exact (each item session).bind fun _ between _ => ih between

/-- Actions without recordings of their own. -/
theorem Accounted.forM_silent {items : List β} {action : β → Action Unit} {plan : β → List Call}
    (each : ∀ item session,
      Accounted surroundings (plan item) [] session ((action item).runFrom session))
    (session : Session) :
    Accounted surroundings (items.flatMap plan) [] session
      ((items.forM action).runFrom session) := by
  have silent : items.flatMap (fun _ => ([] : List Recording)) = [] :=
    List.flatMap_eq_nil_iff.mpr fun _ _ => rfl
  rw [← silent]
  exact Accounted.forM each session

theorem Accounted.mapM {items : List β} {action : β → Action α} {plan : β → List Call}
    (each : ∀ item session,
      Accounted surroundings (plan item) [] session ((action item).runFrom session))
    (session : Session) :
    Accounted surroundings (items.flatMap plan) [] session
      ((items.mapM action).runFrom session) := by
  induction items generalizing session with
  | nil => exact accounted_pure [] session
  | cons item rest ih =>
      rw [List.mapM_cons, List.flatMap_cons]
      refine (each item session).bind fun answer between _ => ?_
      rw [← List.append_nil (rest.flatMap plan)]
      exact (ih between).bind fun answers after _ => accounted_pure _ after

end

end MappedCoverage
