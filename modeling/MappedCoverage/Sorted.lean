/-!
# Sorted tables

A table is a list of keys and values in strictly increasing order of keys. Keys may be equal in the
order and yet differ: a table then keeps the spelling that was written first.
-/

namespace MappedCoverage.Sorted

variable {κ α : Type}

/-- The value under a key. -/
def get? (order : κ → κ → Ordering) (key : κ) : List (κ × α) → Option α
  | [] => none
  | (other, value) :: rest =>
      match order key other with
      | .lt => none
      | .eq => some value
      | .gt => get? order key rest

/-- Writes a value under a key; an equal key that is there already keeps its spelling. -/
def insert (order : κ → κ → Ordering) (key : κ) (value : α) : List (κ × α) → List (κ × α)
  | [] => [(key, value)]
  | (other, old) :: rest =>
      match order key other with
      | .lt => (key, value) :: (other, old) :: rest
      | .eq => (other, value) :: rest
      | .gt => (other, old) :: insert order key value rest

@[simp] theorem get?_nil (order : κ → κ → Ordering) (key : κ) :
    get? order key ([] : List (κ × α)) = none := rfl

@[simp] theorem insert_nil (order : κ → κ → Ordering) (key : κ) (value : α) :
    insert order key value [] = [(key, value)] := rfl

end MappedCoverage.Sorted
