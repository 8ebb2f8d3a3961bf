import MappedCoverage.FileSystem.Basic
import MappedCoverage.Glob.Match
import MappedCoverage.Path

/-!
# Expanding glob patterns

A pattern is expanded piece by piece: a piece without wildcards is looked up, any other is matched
against the names of a directory, in the order of their characters, and `**` goes through all
directories below. The names `.` and `..` are found only by a pattern that starts with a dot.
-/

namespace MappedCoverage.Glob

/-- A piece of a pattern between separators. -/
inductive Part where
  | literal (name : String)
  | pieces
  | wildcard (pattern : Pattern)

/-- The character that a plain token stands for. -/
def Token.plain? : Token → Option Char
  | .char c => some c
  | _ => none

/-- The part that a pattern without separators makes. -/
def Part.ofPattern (pattern : Pattern) : Part :=
  match pattern.tokens.mapM Token.plain? with
  | some name => .literal (String.ofList name)
  | none => if pattern.tokens = [.anyPieces] then .pieces else .wildcard pattern

/-- Whether a part is `**`. -/
def Part.isPieces : Part → Bool
  | .pieces => true
  | _ => false

/-- Whether a part other than `**` matches a name. -/
def Part.matches (name : String) : Part → Bool
  | .literal text => text = name
  | .pieces => false
  | .wildcard pattern => pattern.matches name

/-- Whether a part that is no plain name starts with a dot. -/
def Part.startsWithDot : Part → Bool
  | .wildcard pattern => pattern.tokens.head? = some (.char '.')
  | _ => false

/-- Where an expansion starts, the parts that it follows, and whether it ends at directories
alone. -/
structure Search where
  start : String
  parts : List Part
  directoriesOnly : Bool

/-- The pieces of a relative pattern; a separator at the end makes no piece. -/
def searchPieces (text : List Char) : List (List Char) :=
  let pieces := Text.split '/' text
  if pieces.getLast? = some [] then pieces.dropLast else pieces

/-- The search of a pattern, which must be well-formed as a whole and in each of its pieces. -/
def Search.ofPattern (source : String) : Except Malformed Search := do
  let _ ← Pattern.compile source
  let isAbsolute := Path.isAbsolute source
  let relative := if isAbsolute then source.toList.drop 1 else source.toList
  let patterns ← (searchPieces relative).mapM fun piece => Pattern.compile (String.ofList piece)
  return {
    start := if isAbsolute then "/" else "."
    parts := if patterns = [] then [.literal ""] else patterns.map Part.ofPattern
    directoriesOnly := source.toList.getLast? = some '/' }

/-- A path on the way, and whether it leads to a directory. -/
structure Place where
  path : String
  isDirectory : Bool

/-- The path of a name at a place; the working directory is not spelled out. -/
def Place.under (place : Place) (name : String) : String :=
  if Path.components place.path = [.current] then name else Path.join place.path name

variable {m : Type → Type} [Monad m]

/-- The place of a path, if it leads anywhere. -/
def placeAt? (files : FileSystem m) (path : String) : m (Option Place) := do
  match ← files.kind? path with
  | none => return none
  | some kind => return some ⟨path, kind = .directory⟩

/-- Goes on at a path, if it leads anywhere. -/
def atPath (files : FileSystem m) (goOn : Place → m (List String)) (path : String) :
    m (List String) := do
  match ← placeAt? files path with
  | none => return []
  | some place => goOn place

/-- The special names that a part finds: the parent directory first. -/
def Part.specialNames (part : Part) : List String :=
  if part.startsWithDot then ["..", "."].filter fun name => part.matches name else []

/-- Finds the files of a name in a directory: a name that the next part matches leads on, and under
`**` a directory is also gone through itself. -/
def visit (goOn : Place → List Part → m (List String)) (part : Part) (rest : List Part)
    (name : String) (place : Place) : m (List String) := do
  let named := fun (parts : List Part) =>
    match parts with
    | [] => pure []
    | next :: rest => if next.matches name then goOn place rest else pure []
  if part.isPieces then
    let rest := rest.dropWhile Part.isPieces
    if place.isDirectory then
      let here ← if rest.isEmpty then goOn place [] else named rest
      let below ← goOn place (.pieces :: rest)
      return here ++ below
    else named rest
  else named (part :: rest)

/-- The names in a directory in the order of their characters. -/
def sortedNames (files : FileSystem m) (path : String) : m (List String) := do
  let names ← files.names path
  return names.mergeSort fun a b => decide (a ≤ b)

/-- The files that parts find from a place on; `fuel` bounds the length of the way. -/
def findFrom (files : FileSystem m) (directoriesOnly : Bool) :
    Nat → Place → List Part → m (List String)
  | 0, _, _ => pure []
  | fuel + 1, place, parts =>
      let goOn := findFrom files directoriesOnly fuel
      match parts with
      | [] => pure (if directoriesOnly && !place.isDirectory then [] else [place.path])
      | .literal name :: rest => atPath files (goOn · rest) (place.under name)
      | part :: rest =>
          if place.isDirectory then do
            let special ← part.specialNames.mapM fun name =>
              atPath files (goOn · rest) (Path.join place.path name)
            let names ← sortedNames files place.path
            let found ← names.mapM fun name =>
              atPath files (visit goOn part rest name) (place.under name)
            return special.flatten ++ found.flatten
          else pure []

/-- The greatest number of directories that a walk goes through: no path is longer. -/
def depthLimit : Nat := 4096

/-- The files that a search finds, in order. -/
def Search.run (search : Search) (files : FileSystem m) : m (List String) :=
  findFrom files search.directoriesOnly (depthLimit + search.parts.length)
    ⟨search.start, true⟩ search.parts

/-- The files that a pattern leads to, or the report on a malformed pattern. -/
def expand (files : FileSystem m) (source : String) : m (Except String (List String)) :=
  match Search.ofPattern source with
  | .error malformed => pure (.error malformed.message)
  | .ok search => Except.ok <$> search.run files

end MappedCoverage.Glob
