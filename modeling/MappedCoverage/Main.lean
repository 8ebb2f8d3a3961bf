import MappedCoverage.CommandLine.Execute

/-!
# The command

The command line on the files of the disk.
-/

namespace MappedCoverage

/-- The text of a file on the disk. -/
def readFromDisk (path : String) : IO (Except ReadFault String) := do
  try
    return .ok (← IO.FS.readFile path)
  catch
    | .noFileOrDirectory .. => return .error .missing
    | _ => return .error .unreadable

/-- What a path on the disk leads to. -/
def kindOnDisk? (path : String) : IO (Option FileKind) := do
  if path.isEmpty then return none
  let target := (← IO.currentDir) / path
  if ← target.isDir then return some .directory
  else if ← target.pathExists then return some .file
  else return none

/-- The names in a directory on the disk. -/
def namesOnDisk (path : String) : IO (List String) := do
  try
    let entries ← ((← IO.currentDir) / path).readDir
    return entries.toList.map (·.fileName)
  catch _ => return []

/-- The files of the disk. -/
def diskFiles : FileSystem IO where
  workingDirectory := do return (← IO.currentDir).toString
  kind? := kindOnDisk?
  names := namesOnDisk
  readText := readFromDisk

end MappedCoverage

/-- Runs the command, and ends with its exit code. -/
def main (arguments : List String) : IO UInt32 := do
  let result ← MappedCoverage.CommandLine.execute MappedCoverage.diskFiles arguments
  IO.print result.output
  IO.eprint result.complaint
  return result.code.toUInt32
