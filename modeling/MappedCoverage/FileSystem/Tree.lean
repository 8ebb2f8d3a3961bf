import MappedCoverage.FileSystem.Basic
import MappedCoverage.Path

/-!
# File trees

A file system held in memory: files and directories under the names that lead to them from the
root. A path is followed piece by piece, and every piece but the last must lead to a directory, so
a separator at the end of a path asks for a directory.
-/

namespace MappedCoverage

/-- A file with its bytes, or a directory. -/
inductive FileNode where
  | file (bytes : List UInt8)
  | directory
deriving DecidableEq

/-- The kind of a node. -/
def FileNode.kind : FileNode → FileKind
  | .file _ => .file
  | .directory => .directory

/-- Nodes by the names that lead to them, and the names of the working directory. -/
structure FileTree where
  home : List String
  nodes : List (List String × FileNode)
deriving DecidableEq

namespace FileTree

/-- The greatest length of a name, in bytes. -/
def nameLimit : Nat := 255

/-- Paths of this many bytes are too long. -/
def pathLimit : Nat := 4096

/-- The node at the end of some names; the root is a directory. -/
def node? (tree : FileTree) (names : List String) : Option FileNode :=
  if names = [] then some .directory
  else (tree.nodes.find? (·.1 = names)).map (·.2)

/-- Follows a piece of a path. -/
def follow (tree : FileTree) (names : List String) (piece : List Char) :
    Except ReadFault (List String) :=
  if tree.node? names ≠ some .directory then .error .unreadable
  else if piece = [] ∨ piece = ['.'] then .ok names
  else if piece = ['.', '.'] then .ok names.dropLast
  else
    let name := String.ofList piece
    if name.utf8ByteSize > nameLimit then .error .unreadable
    else if (tree.node? (names ++ [name])).isNone then .error .missing
    else .ok (names ++ [name])

/-- The names that a path leads through. -/
def locate (tree : FileTree) (path : String) : Except ReadFault (List String) :=
  if path.isEmpty then .error .missing
  else if path.toList.contains (Char.ofNat 0) ∨ path.utf8ByteSize ≥ pathLimit then
    .error .unreadable
  else
    (Text.split '/' path.toList).foldlM tree.follow (if Path.isAbsolute path then [] else tree.home)

/-- The node that a path leads to. -/
def nodeAt (tree : FileTree) (path : String) : Except ReadFault FileNode := do
  let names ← tree.locate path
  match tree.node? names with
  | some node => return node
  | none => throw .missing

/-- The text of bytes. -/
def textOf? (bytes : List UInt8) : Option String :=
  String.fromUTF8? ⟨bytes.toArray⟩

/-- The text of the file that a path leads to. -/
def readText (tree : FileTree) (path : String) : Except ReadFault String := do
  match ← tree.nodeAt path with
  | .directory => throw .unreadable
  | .file bytes =>
      match textOf? bytes with
      | some text => return text
      | none => throw .unreadable

/-- What a path leads to. -/
def kind? (tree : FileTree) (path : String) : Option FileKind :=
  match tree.nodeAt path with
  | .ok node => some node.kind
  | .error _ => none

/-- The names directly under the names that a path leads through. -/
def names (tree : FileTree) (path : String) : List String :=
  match tree.locate path with
  | .error _ => []
  | .ok names =>
      (tree.nodes.filter fun entry => entry.1.dropLast = names).filterMap (·.1.getLast?)

/-- The path of the working directory. -/
def workingDirectory (tree : FileTree) : String :=
  String.join (tree.home.map ("/" ++ ·))

/-- A tree as a file system, whose answers come without effect. -/
def fileSystem (tree : FileTree) : FileSystem Id where
  workingDirectory := tree.workingDirectory
  kind? := tree.kind?
  names := tree.names
  readText := tree.readText

/-- Adds a directory where nothing is yet. -/
def addDirectory (tree : FileTree) (names : List String) : FileTree :=
  if (tree.node? names).isSome then tree
  else { tree with nodes := tree.nodes ++ [(names, .directory)] }

/-- Adds the directories that lead to some names. -/
def addParents (tree : FileTree) (names : List String) : FileTree :=
  ((List.range names.length).map fun count => names.take count).foldl addDirectory tree

/-- The names of a path under the working directory. -/
def namesUnder (tree : FileTree) (path : String) : List String :=
  (Path.components path).foldl
    (fun names component =>
      match component with
      | .root => []
      | .current => names
      | .parent => names.dropLast
      | .name text => names ++ [text])
    tree.home

/-- Makes a directory, and the directories that lead to it. -/
def makeDirectory (tree : FileTree) (path : String) : FileTree :=
  let names := tree.namesUnder path
  (tree.addParents names).addDirectory names

/-- Writes a file, and makes the directories that lead to it; a directory stays. -/
def writeFile (tree : FileTree) (path : String) (bytes : List UInt8) : FileTree :=
  let names := tree.namesUnder path
  let tree := tree.addParents names
  match tree.node? names with
  | some .directory => tree
  | _ =>
      { tree with
        nodes := tree.nodes.filter (·.1 ≠ names) ++ [(names, .file bytes)] }

/-- A tree with an empty working directory. -/
def atHome (path : String) : FileTree :=
  (FileTree.mk [] []).makeDirectory path |> fun tree => { tree with home := tree.namesUnder path }

end FileTree

end MappedCoverage
