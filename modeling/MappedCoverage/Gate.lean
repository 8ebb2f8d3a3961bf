import MappedCoverage.Config.Basic
import MappedCoverage.Glob.Set

/-!
# Gates

A gate decides which files are transpiled and which are instrumented.
-/

namespace MappedCoverage

/-- The compiled patterns of a configuration. -/
structure Gate where
  transpileIncludes : Glob.PatternSet
  transpileExcludes : Glob.PatternSet
  coverageExcludes : Glob.PatternSet

namespace Gate

/-- The gate of a configuration. -/
def ofConfig (config : Config) : Except Failure Gate := do
  let transpileIncludes ← Glob.PatternSet.compile config.transpiler.includes
  let transpileExcludes ← Glob.PatternSet.compile config.transpiler.excludes
  let coverageExcludes ← Glob.PatternSet.compile config.coverage.excludes
  return ⟨transpileIncludes, transpileExcludes, coverageExcludes⟩

/-- Whether a file is transpiled. -/
def transpiles (gate : Gate) (file : String) : Bool :=
  Glob.isSelected gate.transpileIncludes gate.transpileExcludes file

/-- Whether a file is annotated and instrumented. -/
def instruments (gate : Gate) (file : String) : Bool :=
  !gate.coverageExcludes.matchesAny file

end Gate

end MappedCoverage
