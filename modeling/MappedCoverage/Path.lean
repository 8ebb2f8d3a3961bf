import MappedCoverage.Text.Pieces

/-!
# Paths

A path is a text; two paths are equal when they have the same components. Repeated and trailing
separators and the component `.` make no component, except that a relative path keeps a leading
`.`; the component `..` is kept. Paths are ordered by their components, not by their texts.
-/

namespace MappedCoverage.Path

/-- A part of a path. -/
inductive Component where
  | root
  | current
  | parent
  | name (text : String)
deriving DecidableEq

/-- Whether a path starts at the root. -/
def isAbsolute (path : String) : Bool :=
  path.toList.head? = some '/'

/-- The component that a piece between separators makes, where `.` makes none. -/
def Component.ofPiece? (piece : List Char) : Option Component :=
  if piece = [] ∨ piece = ['.'] then none
  else if piece = ['.', '.'] then some .parent
  else some (.name (String.ofList piece))

/-- The components of a path. -/
def components (path : String) : List Component :=
  let pieces := Text.split '/' path.toList
  let inner := pieces.filterMap Component.ofPiece?
  if isAbsolute path then .root :: inner
  else if pieces.head? = some ['.'] then .current :: inner
  else inner

/-- The place of a kind of component in the order of paths. -/
def Component.rank : Component → Nat
  | .root => 0
  | .current => 1
  | .parent => 2
  | .name _ => 3

/-- The text of a name; other components have none. -/
def Component.label : Component → String
  | .name text => text
  | _ => ""

/-- Components are ordered by kind, names among themselves by their code points. -/
def Component.compare (a b : Component) : Ordering :=
  (Ord.compare a.rank b.rank).then (Ord.compare a.label b.label)

/-- Lists of components are ordered by their first difference, a shorter list before its
extensions. -/
def compareComponents : List Component → List Component → Ordering
  | [], [] => .eq
  | [], _ :: _ => .lt
  | _ :: _, [] => .gt
  | a :: restA, b :: restB => (a.compare b).then (compareComponents restA restB)

/-- Whether two paths have the same components. -/
def same (a b : String) : Bool :=
  components a = components b

/-- Drops every path that has the components of an earlier one. -/
def distinct : List String → List String
  | [] => []
  | path :: rest => path :: (distinct rest).filter fun other => !same path other

/-- A path taken from a base directory: an absolute path stays, any other is appended. -/
def join (base path : String) : String :=
  if isAbsolute path then path
  else if base.isEmpty ∨ base.toList.getLast? = some '/' then base ++ path
  else base ++ "/" ++ path

/-- The name of the file that a path leads to, if its last component is a name. -/
def fileName? (path : String) : Option String :=
  match (components path).getLast? with
  | some (.name text) => some text
  | _ => none

/-- What follows the last dot of the file name; a dot at its start does not count. -/
def extension? (path : String) : Option String := do
  let name ← fileName? path
  let pieces := Text.split '.' name.toList
  let last ← pieces.getLast?
  let stem := Text.join '.' pieces.dropLast
  if stem = [] then none else some (String.ofList last)

end MappedCoverage.Path
