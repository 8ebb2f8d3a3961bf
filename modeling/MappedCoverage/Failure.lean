import MappedCoverage.Glob.Pattern

/-!
# Failures

Why a run, or a part of it, stops.
-/

namespace MappedCoverage

/-- Why a run stops. -/
inductive Failure where
  | config (path message : String)
  | transpile (file message : String)
  | instrument (file message : String)
  | compile (file message : String)
  | report (name message : String)
  | invalidPattern (pattern message : String)
  | fileNotFound (path : String)
  /-- A file is there but has no text. -/
  | unreadable
  /-- A column of annotated code would be too wide. -/
  | columnTooWide
  /-- A counter would go beyond 64 bits. -/
  | counterTooLarge
deriving DecidableEq

/-- The wording of a failure. -/
def Failure.message : Failure → String
  | .config path message => s!"Error loading configuration file: {path}: {message}"
  | .transpile file message => s!"Error during transpile - {file}: \n{message}"
  | .instrument file message => s!"Error during instrument - {file}: \n{message}"
  | .compile file message => s!"Error during compile - {file}: \n{message}"
  | .report name message => s!"Report '{name}' failed: {message}"
  | .invalidPattern pattern message => s!"Invalid glob pattern '{pattern}': {message}"
  | .fileNotFound path => s!"File not found: {path}"
  | .unreadable => "IO error: the file has no text"
  | .columnTooWide => "a column of annotated code is too wide"
  | .counterTooLarge => "a counter is too large"

end MappedCoverage
