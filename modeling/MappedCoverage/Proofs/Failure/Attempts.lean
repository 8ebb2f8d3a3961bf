import Mathlib.Data.List.Forall2
import MappedCoverage.Failure

/-!
# Attempts that may fail

A sequence of attempts answers when each of them does, and otherwise fails as the first one that
fails.
-/

namespace MappedCoverage

/-! ## Answers -/

theorem mapM_eq_ok_iff {ε α β : Type} {step : α → Except ε β} {items : List α} {results : List β} :
    items.mapM step = .ok results ↔
      List.Forall₂ (fun item result => step item = .ok result) items results := by
  induction items generalizing results with
  | nil => simp [pure, Except.pure, eq_comm]
  | cons item items ih =>
      rw [List.mapM_cons, List.forall₂_cons_left_iff]
      simp only [← ih]
      cases first : step item with
      | error failure => simp [bind, Except.bind]
      | ok result =>
          cases items.mapM step with
          | error failure => simp [bind, Except.bind]
          | ok others => simp [bind, Except.bind, pure, Except.pure, eq_comm]

/-- A traversal answers exactly when each of its steps does. -/
theorem exists_mapM_eq_ok_iff {ε α β : Type} {step : α → Except ε β} {items : List α} :
    (∃ results, items.mapM step = .ok results) ↔
      ∀ item ∈ items, ∃ result, step item = .ok result := by
  simp only [mapM_eq_ok_iff]
  induction items with
  | nil => simp
  | cons item items ih =>
      rw [List.forall_mem_cons, ← ih]
      simp only [List.forall₂_cons_left_iff]
      constructor
      · rintro ⟨_, result, results, own, others, rfl⟩
        exact ⟨⟨result, own⟩, results, others⟩
      · rintro ⟨⟨result, own⟩, results, others⟩
        exact ⟨_, result, results, own, others, rfl⟩

theorem exists_mem_of_forall₂ {α β : Type} {related : α → β → Prop} {items : List α}
    {others : List β} (each : List.Forall₂ related items others) {item : α}
    (inside : item ∈ items) :
    ∃ other ∈ others, related item other := by
  induction each with
  | nil => cases inside
  | cons first _ ih =>
      rcases List.mem_cons.mp inside with rfl | later
      · exact ⟨_, List.mem_cons_self, first⟩
      · obtain ⟨other, listed, holds⟩ := ih later
        exact ⟨other, List.mem_cons_of_mem _ listed, holds⟩

/-! ## Failures -/

/-- The failure of a result. -/
def failureOf? {α : Type} : Except Failure α → Option Failure
  | .ok _ => none
  | .error failure => some failure

theorem failureOf?_eq_none_iff {α : Type} {result : Except Failure α} :
    failureOf? result = none ↔ ∃ answer, result = .ok answer := by
  cases result with
  | ok answer => simp [failureOf?]
  | error failure => simp [failureOf?]

theorem failureOf?_eq_some_iff {α : Type} {result : Except Failure α} {failure : Failure} :
    failureOf? result = some failure ↔ result = .error failure := by
  cases result with
  | ok answer => simp [failureOf?]
  | error other => simp [failureOf?]

theorem failureOf?_mapError_eq_some_iff {α ε : Type} {result : Except ε α} {make : ε → Failure}
    {failure : Failure} :
    failureOf? (result.mapError make) = some failure ↔
      ∃ message, result = .error message ∧ make message = failure := by
  cases result with
  | ok answer =>
      constructor
      · intro same
        cases same
      · rintro ⟨_, same, _⟩
        cases same
  | error fault =>
      constructor
      · intro same
        exact ⟨fault, rfl, Option.some.inj same⟩
      · rintro ⟨_, same, rfl⟩
        cases same
        rfl

/-- An attempt that fails the same whatever was answered before fails only after what was before. -/
theorem failureOf?_bind {α β : Type} {first : Except Failure α} {next : α → Except Failure β}
    {later : Option Failure} (same : ∀ answer, failureOf? (next answer) = later) :
    failureOf? (first >>= next) = (failureOf? first).or later := by
  cases first with
  | ok answer => exact same answer
  | error failure => rfl

theorem failureOf?_bind_pure {α β : Type} (first : Except Failure α) (convert : α → β) :
    failureOf? (first >>= fun answer => pure (convert answer)) = failureOf? first := by
  cases first with
  | ok answer => rfl
  | error failure => rfl

/-- A traversal fails at the first item whose step fails. -/
theorem failureOf?_mapM {α β : Type} {step : α → Except Failure β} (items : List α) :
    failureOf? (items.mapM step) = items.findSome? fun item => failureOf? (step item) := by
  induction items with
  | nil => rfl
  | cons item items ih =>
      rw [List.mapM_cons, failureOf?_bind fun _ => failureOf?_bind_pure _ _, ih,
        List.findSome?_cons]
      cases failureOf? (step item) with
      | none => rfl
      | some failure => rfl

end MappedCoverage
