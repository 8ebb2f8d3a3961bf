/-!
# Shared values

Values that several handles lead to. A clone of a handle leads to the same value, so a change
through one of them is seen through all; handles that are not clones of each other never meet.
-/

namespace MappedCoverage

/-- Cells, and handles with the place of the cell that each leads to; the newest handle first. -/
structure Shared (κ α : Type) where
  cells : List α
  handles : List (κ × Nat)

namespace Shared

variable {κ α : Type}

/-- No cells and no handles. -/
def empty : Shared κ α := ⟨[], []⟩

variable [DecidableEq κ]

/-- The cell that a handle leads to. -/
def cell? (shared : Shared κ α) (handle : κ) : Option Nat :=
  (shared.handles.find? (·.1 = handle)).map (·.2)

/-- The value that a handle leads to. -/
def get? (shared : Shared κ α) (handle : κ) : Option α := do
  let cell ← shared.cell? handle
  shared.cells[cell]?

/-- A handle that leads to a new cell. -/
def create (shared : Shared κ α) (handle : κ) (value : α) : Shared κ α :=
  ⟨shared.cells ++ [value], (handle, shared.cells.length) :: shared.handles⟩

/-- A handle that leads to the cell of another. -/
def clone (shared : Shared κ α) (handle other : κ) : Shared κ α :=
  match shared.cell? other with
  | none => shared
  | some cell => { shared with handles := (handle, cell) :: shared.handles }

/-- Replaces the value that a handle leads to. -/
def set (shared : Shared κ α) (handle : κ) (value : α) : Shared κ α :=
  match shared.cell? handle with
  | none => shared
  | some cell => { shared with cells := shared.cells.set cell value }

/-- Whether two handles lead to one cell. -/
def same (shared : Shared κ α) (a b : κ) : Bool :=
  match shared.cell? a, shared.cell? b with
  | some a, some b => a = b
  | _, _ => false

end Shared

end MappedCoverage
