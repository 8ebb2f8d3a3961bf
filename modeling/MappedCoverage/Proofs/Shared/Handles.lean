import MappedCoverage.Shared

/-!
# Handles and cells

A handle leads to the cell that it was created with, or to the cell of the handle that it was cloned
from. Which cell this is depends on the handles alone, and a value set through a handle is that of
its cell and of no other.
-/

namespace MappedCoverage.Shared

variable {κ α : Type}

/-- No handle leads out of the cells. -/
def Grounded (shared : Shared κ α) : Prop :=
  ∀ entry ∈ shared.handles, entry.2 < shared.cells.length

/-- Two states have the same handles, to as many cells. -/
structure SameHandles (first second : Shared κ α) : Prop where
  handles : first.handles = second.handles
  size : first.cells.length = second.cells.length

variable {shared first second : Shared κ α}

theorem grounded_empty : (Shared.empty : Shared κ α).Grounded := fun _ inside => nomatch inside

theorem Grounded.of_sameHandles (grounded : second.Grounded) (same : SameHandles first second) :
    first.Grounded := by
  intro entry inside
  rw [same.handles] at inside
  rw [same.size]
  exact grounded entry inside

/-! ## New cells -/

theorem Grounded.create (grounded : shared.Grounded) (handle : κ) (value : α) :
    (shared.create handle value).Grounded := by
  intro entry inside
  rw [Shared.create, List.length_append, List.length_singleton]
  rcases List.mem_cons.mp inside with rfl | old
  · exact Nat.lt_succ_self _
  · exact Nat.lt_succ_of_lt (grounded entry old)

theorem SameHandles.create (same : SameHandles first second) (handle : κ) (value other : α) :
    SameHandles (first.create handle value) (second.create handle other) where
  handles := by rw [Shared.create, Shared.create, same.handles, same.size]
  size := by simp [Shared.create, same.size]

theorem getElem?_cells_create (shared : Shared κ α) (handle : κ) (value : α) (cell : Nat) :
    (shared.create handle value).cells[cell]? =
      if cell = shared.cells.length then some value else shared.cells[cell]? := by
  rw [create, List.getElem?_append]
  by_cases last : cell = shared.cells.length
  · simp [last]
  · rw [if_neg last]
    split
    · rfl
    · next outside =>
        rw [List.getElem?_eq_none (by rw [List.length_singleton]; omega),
          List.getElem?_eq_none (by omega)]

/-! ## The cell of a handle -/

section

variable [DecidableEq κ] {handle : κ} {own : Nat}

theorem Grounded.cell_lt (grounded : shared.Grounded) (leads : shared.cell? handle = some own) :
    own < shared.cells.length := by
  obtain ⟨entry, found, rfl⟩ := Option.map_eq_some_iff.mp leads
  exact grounded entry (List.mem_of_find?_eq_some found)

theorem SameHandles.cell?_eq (same : SameHandles first second) (handle : κ) :
    first.cell? handle = second.cell? handle := by
  rw [cell?, cell?, same.handles]

theorem get?_of_cell? (leads : shared.cell? handle = some own) :
    shared.get? handle = shared.cells[own]? := by
  rw [Shared.get?, leads]
  rfl

theorem get?_of_cell?_eq_none (nowhere : shared.cell? handle = none) :
    shared.get? handle = none := by
  rw [Shared.get?, nowhere]
  rfl

/-- A created handle leads to its new cell, and no other handle is moved. -/
theorem cell?_create (shared : Shared κ α) (handle : κ) (value : α) (other : κ) :
    (shared.create handle value).cell? other =
      if handle = other then some shared.cells.length else shared.cell? other := by
  rw [cell?, create, List.find?_cons]
  by_cases same : handle = other <;> simp [same, cell?]

/-! ## Clones -/

/-- A clone leads to the cell of the handle that it was cloned from, and no other handle is
moved. -/
theorem cell?_clone (leads : shared.cell? handle = some own) (clone other : κ) :
    (shared.clone clone handle).cell? other =
      if clone = other then some own else shared.cell? other := by
  rw [Shared.clone, leads, cell?, List.find?_cons]
  by_cases same : clone = other <;> simp [same, cell?]

theorem cells_clone (shared : Shared κ α) (handle other : κ) :
    (shared.clone handle other).cells = shared.cells := by
  rw [clone]
  split <;> rfl

theorem Grounded.clone (grounded : shared.Grounded) (handle other : κ) :
    (shared.clone handle other).Grounded := by
  rw [Shared.clone]
  cases leads : shared.cell? other with
  | none => exact grounded
  | some cell =>
      intro entry inside
      rcases List.mem_cons.mp inside with rfl | old
      · exact grounded.cell_lt leads
      · exact grounded entry old

theorem SameHandles.clone (same : SameHandles first second) (handle other : κ) :
    SameHandles (first.clone handle other) (second.clone handle other) where
  handles := by
    rw [Shared.clone, Shared.clone, same.cell?_eq]
    split
    · exact same.handles
    · rw [same.handles]
  size := by rw [cells_clone, cells_clone, same.size]

/-! ## Set values -/

/-- Setting a value moves no handle. -/
theorem sameHandles_set (shared : Shared κ α) (handle : κ) (value : α) :
    SameHandles (shared.set handle value) shared := by
  rw [set]
  split
  · exact ⟨rfl, rfl⟩
  · exact ⟨rfl, List.length_set⟩

/-- A value is set in the cell of its handle and in no other. -/
theorem Grounded.getElem?_cells_set (grounded : shared.Grounded)
    (leads : shared.cell? handle = some own) (value : α) (cell : Nat) :
    (shared.set handle value).cells[cell]? =
      if own = cell then some value else shared.cells[cell]? := by
  rw [set, leads]
  dsimp only
  rw [List.getElem?_set, if_pos (grounded.cell_lt leads)]

end

end MappedCoverage.Shared
