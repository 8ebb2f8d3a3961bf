import MappedCoverage.Path
import MappedCoverage.Shared
import MappedCoverage.Sorted

/-!
# Store of annotated texts

The annotated text of each file, in the order of paths. Files are told apart by the components of
their paths; the last text written for a file counts, under the spelling of its path that was
written first.
-/

namespace MappedCoverage

/-- Texts by path. -/
structure Store where
  entries : List (String × String)
deriving DecidableEq

namespace Store

/-- A store without files. -/
def empty : Store := ⟨[]⟩

/-- The order of paths. -/
def order (a b : String) : Ordering :=
  Path.compareComponents (Path.components a) (Path.components b)

/-- The text of a file. -/
def get? (store : Store) (file : String) : Option String :=
  Sorted.get? order file store.entries

/-- Whether a file has a text. -/
def contains (store : Store) (file : String) : Bool :=
  (store.get? file).isSome

/-- Writes the text of a file. -/
def set (store : Store) (file text : String) : Store :=
  ⟨Sorted.insert order file text store.entries⟩

/-- The paths in order. -/
def files (store : Store) : List String :=
  store.entries.map (·.1)

/-- The number of files. -/
def size (store : Store) : Nat :=
  store.entries.length

end Store

/-- Stores behind handles. -/
abbrev Stores := Shared Nat Store

namespace Stores

/-- One empty store behind the handle zero. -/
def initial : Stores :=
  Shared.empty.create 0 Store.empty

/-- The number of the next handle. -/
def next (stores : Stores) : Nat :=
  stores.handles.length

/-- The store behind a handle. -/
def store (stores : Stores) (handle : Nat) : Store :=
  (stores.get? handle).getD Store.empty

/-- Writes the text of a file through a handle. -/
def setText (stores : Stores) (handle : Nat) (file text : String) : Stores :=
  stores.set handle ((stores.store handle).set file text)

/-- Writes the text of a file through a handle, and answers with the text that it replaces. -/
def replaceText (stores : Stores) (handle : Nat) (file text : String) : Option String × Stores :=
  ((stores.store handle).get? file, stores.setText handle file text)

end Stores

end MappedCoverage
