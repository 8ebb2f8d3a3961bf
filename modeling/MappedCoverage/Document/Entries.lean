/-!
# Entries of a record

A record is the list of its entries in the order in which they were first written. Replacing a
value keeps the place of its key; taking an entry out moves the last entry into the place that
becomes free, so removal takes constant time at the cost of the order.
-/

namespace MappedCoverage

/-- The entries of a record, in order. -/
abbrev Entries (α : Type) := List (String × α)

namespace Entries

variable {α : Type}

/-- The keys, in order. -/
def keys (entries : Entries α) : List String :=
  entries.map (·.1)

/-- The value under a key. -/
def get? (key : String) : Entries α → Option α
  | [] => none
  | entry :: rest => if entry.1 = key then some entry.2 else get? key rest

/-- Writes a value under a key: in place when the key is present, else at the end. -/
def insert (key : String) (value : α) : Entries α → Entries α
  | [] => [(key, value)]
  | entry :: rest =>
      if entry.1 = key then (key, value) :: rest else entry :: insert key value rest

/-- Fills a free first place with the last entry. -/
def closeGap (rest : Entries α) : Entries α :=
  match rest.getLast? with
  | none => []
  | some last => last :: rest.dropLast

/-- Takes a key out; the last entry moves into its place. -/
def remove (key : String) : Entries α → Entries α
  | [] => []
  | entry :: rest => if entry.1 = key then closeGap rest else entry :: remove key rest

/-- Takes several keys out, one after another. -/
def removeAll (removed : List String) (entries : Entries α) : Entries α :=
  removed.foldl (fun remaining key => remove key remaining) entries

/-- The record that results from writing the given entries one after another. -/
def ofList (entries : List (String × α)) : Entries α :=
  entries.foldl (fun written entry => insert entry.1 entry.2 written) []

@[simp] theorem get?_nil (key : String) : get? key ([] : Entries α) = none := rfl

@[simp] theorem keys_nil : keys ([] : Entries α) = [] := rfl

@[simp] theorem keys_cons (entry : String × α) (rest : Entries α) :
    keys (entry :: rest) = entry.1 :: keys rest := rfl

theorem get?_insert
    (key : String)
    (value : α)
    (entries : Entries α)
    (other : String) :
    get? other (insert key value entries) =
      if key = other then some value else get? other entries := by
  induction entries with
  | nil => rfl
  | cons entry rest ih =>
      unfold insert
      grind [get?]

end Entries

end MappedCoverage
