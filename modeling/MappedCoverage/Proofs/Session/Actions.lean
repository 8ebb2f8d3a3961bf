import MappedCoverage.Session

/-!
# Running actions

What each action answers and what it leaves behind, and how the actions of a sequence follow one
another: the first failure ends the sequence, and what was done before it stays done.
-/

namespace MappedCoverage.Action

variable {α β : Type}

/-! ## Sequences -/

@[simp] theorem runFrom_pure (answer : α) (session : Session) :
    (pure answer : Action α).runFrom session = (.ok answer, session) := rfl

@[simp] theorem runFrom_throw (failure : Failure) (session : Session) :
    (throw failure : Action α).runFrom session = (.error failure, session) := rfl

/-- The second action goes on where the first one answered; a failure ends both. -/
theorem runFrom_bind (action : Action α) (next : α → Action β) (session : Session) :
    (action >>= next).runFrom session =
      match action.runFrom session with
      | (.ok answer, after) => (next answer).runFrom after
      | (.error failure, after) => (.error failure, after) := by
  simp only [runFrom, ExceptT.run_bind, StateT.run_bind]
  cases (ExceptT.run action).run session with
  | mk result after => cases result <;> rfl

theorem runFrom_bind_ok {action : Action α} {session after : Session} {answer : α}
    (answered : action.runFrom session = (.ok answer, after)) (next : α → Action β) :
    (action >>= next).runFrom session = (next answer).runFrom after := by
  rw [runFrom_bind, answered]

theorem runFrom_bind_error {action : Action α} {session after : Session} {failure : Failure}
    (failed : action.runFrom session = (.error failure, after)) (next : α → Action β) :
    (action >>= next).runFrom session = (.error failure, after) := by
  rw [runFrom_bind, failed]

/-- A sequence answers where both of its parts do. -/
theorem runFrom_bind_eq_ok {action : Action α} {next : α → Action β} {session after : Session}
    {answer : β} (ended : (action >>= next).runFrom session = (.ok answer, after)) :
    ∃ first between, action.runFrom session = (.ok first, between) ∧
      (next first).runFrom between = (.ok answer, after) := by
  rw [runFrom_bind] at ended
  cases ran : action.runFrom session with
  | mk result between =>
      rw [ran] at ended
      cases result with
      | error _ => cases ended
      | ok first => exact ⟨first, between, rfl, ended⟩

/-- A sequence fails where one of its parts does. -/
theorem runFrom_bind_eq_error {action : Action α} {next : α → Action β} {session after : Session}
    {failure : Failure} (failed : (action >>= next).runFrom session = (.error failure, after)) :
    action.runFrom session = (.error failure, after) ∨
      ∃ answer between, action.runFrom session = (.ok answer, between) ∧
        (next answer).runFrom between = (.error failure, after) := by
  rw [runFrom_bind] at failed
  cases ran : action.runFrom session with
  | mk result between =>
      rw [ran] at failed
      cases result with
      | error _ =>
          cases failed
          exact Or.inl rfl
      | ok answer => exact Or.inr ⟨answer, between, rfl, failed⟩

/-- A traversal stops at the first item that fails. -/
theorem runFrom_mapM_stops {earlier later : List β} {item : β} {action : β → Action α}
    {session before after : Session} {answers : List α} {failure : Failure}
    (answered : (earlier.mapM action).runFrom session = (.ok answers, before))
    (failed : (action item).runFrom before = (.error failure, after)) :
    ((earlier ++ item :: later).mapM action).runFrom session = (.error failure, after) := by
  have stopped : ((item :: later).mapM action).runFrom before = (.error failure, after) := by
    rw [List.mapM_cons, runFrom_bind_error failed]
  rw [List.mapM_append, runFrom_bind_ok answered, runFrom_bind_error stopped]

/-- A traversal that fails has stopped at an item that fails. -/
theorem exists_of_runFrom_mapM {items : List β} {action : β → Action α} {session after : Session}
    {failure : Failure} (failed : (items.mapM action).runFrom session = (.error failure, after)) :
    ∃ earlier item later answers before, items = earlier ++ item :: later ∧
      (earlier.mapM action).runFrom session = (.ok answers, before) ∧
      (action item).runFrom before = (.error failure, after) := by
  induction items generalizing session with
  | nil => cases failed
  | cons first rest ih =>
      rw [List.mapM_cons] at failed
      rcases runFrom_bind_eq_error failed with here | ⟨answer, between, answered, further⟩
      · exact ⟨[], first, rest, [], session, rfl, rfl, here⟩
      · rcases runFrom_bind_eq_error further with there | ⟨_, _, _, never⟩
        · obtain ⟨earlier, item, later, answers, before, rfl, others, stopped⟩ := ih there
          refine ⟨first :: earlier, item, later, answer :: answers, before, rfl, ?_, stopped⟩
          rw [List.mapM_cons, runFrom_bind_ok answered, runFrom_bind_ok others, runFrom_pure]
        · cases never

/-- If the items answer by themselves alone, so does the traversal. -/
theorem fst_runFrom_mapM {action : β → Action α} {answer : β → Except Failure α}
    (steady : ∀ item session, ((action item).runFrom session).1 = answer item) (items : List β)
    (session : Session) : ((items.mapM action).runFrom session).1 = items.mapM answer := by
  induction items generalizing session with
  | nil => rfl
  | cons item rest ih =>
      rw [List.mapM_cons, List.mapM_cons, runFrom_bind, ← steady item session]
      rcases (action item).runFrom session with ⟨failure | first, between⟩
      · rfl
      · dsimp only
        rw [runFrom_bind, ← ih between]
        rcases (rest.mapM action).runFrom between with ⟨failure | others, after⟩ <;> rfl

theorem runFrom_forM_cons (item : β) (rest : List β) (action : β → Action Unit)
    (session : Session) :
    ((item :: rest).forM action).runFrom session =
      (action item >>= fun _ => rest.forM action).runFrom session := rfl

theorem forM_eq_mapM (items : List β) (action : β → Action Unit) :
    items.forM action = items.mapM action >>= fun _ => pure () := by
  induction items with
  | nil => rfl
  | cons item rest ih =>
      have first : (item :: rest).forM action = action item >>= fun _ => rest.forM action := rfl
      simp [first, ih, List.mapM_cons]

/-! ## Single actions -/

@[simp] theorem runFrom_call (noted : Call) (session : Session) :
    (call noted).runFrom session =
      (.ok session.calls, { session with calls := session.calls ++ [noted] }) := rfl

theorem runFrom_forM_call (noted : β → Call) (items : List β) (session : Session) :
    (items.forM fun item => do let _ ← call (noted item)).runFrom session =
      (.ok (), { session with calls := session.calls ++ items.map noted }) := by
  induction items generalizing session with
  | nil => simp [List.forM]
  | cons item rest ih =>
      let after : Session := { session with calls := session.calls ++ [noted item] }
      have called : (do let _ ← call (noted item) : Action Unit).runFrom session = (.ok (), after) :=
        rfl
      rw [runFrom_forM_cons, runFrom_bind_ok called, ih]
      simp [after]

@[simp] theorem runFrom_keep (file text : String) (session : Session) :
    (keep file text).runFrom session =
      (.ok (), { session with store := session.store.set file text }) := rfl

theorem runFrom_record (recording : Recording) (session : Session) :
    (record recording).runFrom session =
      match session.coverage.record? recording with
      | some coverage => (.ok (), { session with coverage })
      | none => (.error .counterTooLarge, session) := by
  have read : (record recording).runFrom session =
      (match session.coverage.record? recording with
        | some coverage => (set { session with coverage } : Action Unit)
        | none => throw Failure.counterTooLarge).runFrom session := rfl
  rw [read]
  cases session.coverage.record? recording <;> rfl

@[simp] theorem runFrom_answered (failure : String → Failure) (answer : Except String α)
    (session : Session) :
    (answered failure answer).runFrom session = (answer.mapError failure, session) := by
  cases answer <;> rfl

@[simp] theorem runFrom_succeeded (failure : String → Failure) (fault : Option String)
    (session : Session) :
    (succeeded failure fault).runFrom session =
      (match fault with
        | none => .ok ()
        | some message => .error (failure message), session) := by
  cases fault <;> rfl

/-- Recordings are kept one after another. -/
theorem runFrom_forM_record_of_some {recordings : List Recording} {session : Session}
    {coverage : Coverage} (recorded : session.coverage.recordAll? recordings = some coverage) :
    (recordings.forM record).runFrom session = (.ok (), { session with coverage }) := by
  induction recordings generalizing session with
  | nil =>
      obtain rfl := Option.some.inj recorded
      rfl
  | cons recording rest ih =>
      rw [Coverage.recordAll?, List.foldlM_cons] at recorded
      cases first : session.coverage.record? recording with
      | none =>
          rw [first] at recorded
          cases recorded
      | some between =>
          rw [first] at recorded
          have kept : (record recording).runFrom session =
              (.ok (), { session with coverage := between }) := by
            rw [runFrom_record, first]
          rw [runFrom_forM_cons, runFrom_bind_ok kept]
          exact ih recorded

/-- The first recording that no counter can hold ends them all. -/
theorem runFrom_forM_record_of_none {recordings : List Recording} {session : Session}
    (exceeded : session.coverage.recordAll? recordings = none) :
    ∃ coverage, (recordings.forM record).runFrom session =
      (.error .counterTooLarge, { session with coverage }) := by
  induction recordings generalizing session with
  | nil => cases exceeded
  | cons recording rest ih =>
      rw [Coverage.recordAll?, List.foldlM_cons] at exceeded
      rw [runFrom_forM_cons]
      cases first : session.coverage.record? recording with
      | none =>
          have failed : (record recording).runFrom session =
              (.error .counterTooLarge, session) := by
            rw [runFrom_record, first]
          exact ⟨session.coverage, runFrom_bind_error failed _⟩
      | some between =>
          rw [first] at exceeded
          have kept : (record recording).runFrom session =
              (.ok (), { session with coverage := between }) := by
            rw [runFrom_record, first]
          obtain ⟨coverage, ended⟩ := @ih { session with coverage := between } exceeded
          exact ⟨coverage, by rw [runFrom_bind_ok kept, ended]⟩

/-! ## What stays true -/

/-- Whatever the action answers, the property still holds after it. -/
def Preserves (property : Session → Prop) (action : Action α) : Prop :=
  ∀ session, property session → property (action.runFrom session).2

variable {property : Session → Prop}

theorem preserves_pure (answer : α) : Preserves property (pure answer : Action α) :=
  fun _ holds => holds

theorem preserves_throw (failure : Failure) : Preserves property (throw failure : Action α) :=
  fun _ holds => holds

theorem Preserves.bind {action : Action α} {next : α → Action β}
    (first : Preserves property action) (second : ∀ answer, Preserves property (next answer)) :
    Preserves property (action >>= next) := by
  intro session holds
  have between := first session holds
  rw [runFrom_bind]
  cases ran : action.runFrom session with
  | mk result after =>
      rw [ran] at between
      cases result with
      | error failure => exact between
      | ok answer => exact second answer after between

theorem Preserves.forM {items : List β} {action : β → Action Unit}
    (each : ∀ item, Preserves property (action item)) : Preserves property (items.forM action) := by
  induction items with
  | nil => exact preserves_pure ()
  | cons item rest ih => exact (each item).bind fun _ => ih

theorem preserves_succeeded (failure : String → Failure) (fault : Option String) :
    Preserves property (succeeded failure fault) := by
  intro session holds
  rw [runFrom_succeeded]
  exact holds

/-! ## How actions fail -/

/-- Wherever the action starts from, it fails only in this way. -/
def FailsLike (property : Failure → Prop) (action : Action α) : Prop :=
  ∀ session failure after, action.runFrom session = (.error failure, after) → property failure

section

variable {property : Failure → Prop}

theorem failsLike_pure (answer : α) : FailsLike property (pure answer : Action α) := nofun

theorem failsLike_call (noted : Call) : FailsLike property (call noted) := nofun

theorem failsLike_succeeded {failure : String → Failure}
    (each : ∀ message, property (failure message)) (fault : Option String) :
    FailsLike property (succeeded failure fault) := by
  intro session other after failed
  rw [runFrom_succeeded] at failed
  cases fault with
  | none => cases failed
  | some message =>
      cases failed
      exact each message

theorem FailsLike.bind {action : Action α} {next : α → Action β}
    (first : FailsLike property action) (second : ∀ answer, FailsLike property (next answer)) :
    FailsLike property (action >>= next) := by
  intro session failure after failed
  rcases runFrom_bind_eq_error failed with early | ⟨answer, between, _, late⟩
  · exact first session failure after early
  · exact second answer between failure after late

theorem FailsLike.forM {items : List β} {action : β → Action Unit}
    (each : ∀ item, FailsLike property (action item)) :
    FailsLike property (items.forM action) := by
  induction items with
  | nil => exact failsLike_pure ()
  | cons item rest ih => exact (each item).bind fun _ => ih

end

/-! ## What does not depend on the session -/

/-- From every session the action makes the same calls and gives the same answer. -/
def Steady (calls : List Call) (answer : Except Failure α) (action : Action α) : Prop :=
  ∀ session, (action.runFrom session).1 = answer ∧
    (action.runFrom session).2.calls = session.calls ++ calls

theorem steady_pure (answer : α) : Steady [] (.ok answer) (pure answer : Action α) :=
  fun session => ⟨rfl, (List.append_nil session.calls).symm⟩

theorem steady_throw (failure : Failure) : Steady [] (.error failure) (throw failure : Action α) :=
  fun session => ⟨rfl, (List.append_nil session.calls).symm⟩

theorem Steady.bind {action : Action α} {next : α → Action β}
    (first : ∃ calls answer, Steady calls answer action)
    (second : ∀ answer, ∃ calls later, Steady calls later (next answer)) :
    ∃ calls answer, Steady calls answer (action >>= next) := by
  obtain ⟨calls, answer, steady⟩ := first
  cases answer with
  | error failure =>
      refine ⟨calls, .error failure, fun session => ?_⟩
      obtain ⟨failed, called⟩ := steady session
      rw [runFrom_bind_error (Prod.ext failed rfl)]
      exact ⟨rfl, called⟩
  | ok answer =>
      obtain ⟨others, later, steadily⟩ := second answer
      refine ⟨calls ++ others, later, fun session => ?_⟩
      obtain ⟨answered, called⟩ := steady session
      obtain ⟨ended, calledNext⟩ := steadily (action.runFrom session).2
      rw [runFrom_bind_ok (Prod.ext answered rfl)]
      refine ⟨ended, ?_⟩
      rw [calledNext, called, List.append_assoc]

end MappedCoverage.Action
