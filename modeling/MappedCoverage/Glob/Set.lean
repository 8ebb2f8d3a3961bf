import MappedCoverage.Failure
import MappedCoverage.Glob.Match

/-!
# Sets of patterns

Patterns used as one condition on paths: a path is matched by a set when one of its patterns
matches it, and selected by two sets when the first matches it and the second does not.
-/

namespace MappedCoverage.Glob

/-- Compiled patterns. -/
structure PatternSet where
  patterns : List Pattern

namespace PatternSet

/-- The pattern of a text, or a failure that names it. -/
def compileOne (source : String) : Except Failure Pattern :=
  match Pattern.compile source with
  | .ok pattern => .ok pattern
  | .error malformed => .error (.invalidPattern source malformed.message)

/-- Compiles patterns; the first malformed one is the failure. -/
def compile (sources : List String) : Except Failure PatternSet := do
  let patterns ← sources.mapM compileOne
  return ⟨patterns⟩

/-- Whether one of the patterns matches a path. -/
def matchesAny (set : PatternSet) (path : String) : Bool :=
  set.patterns.any fun pattern => pattern.matches path

end PatternSet

/-- Whether a path is matched by `includes` and not by `excludes`. -/
def isSelected (includes excludes : PatternSet) (path : String) : Bool :=
  includes.matchesAny path && !excludes.matchesAny path

end MappedCoverage.Glob
