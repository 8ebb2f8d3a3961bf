import MappedCoverage.Failure

/-!
# File systems

What is asked of a file system: the working directory, what a path leads to, the names in a
directory, and the text of a file. The effect that answers come with is left open, so one walk over
files serves a file system in memory and one on a disk.
-/

namespace MappedCoverage

/-- What a path leads to. -/
inductive FileKind where
  | file
  | directory
deriving DecidableEq

/-- Why a path gives no text. -/
inductive ReadFault where
  /-- Nothing is there. -/
  | missing
  /-- Something is there that is no file with a text. -/
  | unreadable
deriving DecidableEq

/-- A read fault as the failure of whatever needed the text. -/
def ReadFault.failure (path : String) : ReadFault → Failure
  | .missing => .fileNotFound path
  | .unreadable => .unreadable

/-- A file system whose answers come with the effect `m`. -/
structure FileSystem (m : Type → Type) where
  workingDirectory : m String
  /-- What a path leads to, if anything. -/
  kind? (path : String) : m (Option FileKind)
  /-- The names in a directory, in any order. -/
  names (path : String) : m (List String)
  readText (path : String) : m (Except ReadFault String)

end MappedCoverage
