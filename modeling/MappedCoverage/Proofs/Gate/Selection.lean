import MappedCoverage.Config.Resolve
import MappedCoverage.Gate
import MappedCoverage.Proofs.Glob.Composition
import MappedCoverage.Proofs.Glob.Sets

/-!
# What a gate selects

A gate decides by what the patterns of its configuration accept. Resolving puts the pattern of
dependencies among the excluded ones, whatever the document says, so that no gate of a resolved
configuration lets a dependency through.
-/

namespace MappedCoverage

open Glob

/-! ## Gates of configurations -/

namespace Gate

theorem ofConfig_eq_ok_iff {config : Config} {gate : Gate} :
    ofConfig config = .ok gate ↔
      PatternSet.compile config.transpiler.includes = .ok gate.transpileIncludes ∧
      PatternSet.compile config.transpiler.excludes = .ok gate.transpileExcludes ∧
      PatternSet.compile config.coverage.excludes = .ok gate.coverageExcludes := by
  obtain ⟨includes, excludes, uncovered⟩ := gate
  unfold ofConfig
  cases PatternSet.compile config.transpiler.includes with
  | error failure => simp [bind, Except.bind]
  | ok first =>
      cases PatternSet.compile config.transpiler.excludes with
      | error failure => simp [bind, Except.bind]
      | ok second =>
          cases PatternSet.compile config.coverage.excludes with
          | error failure => simp [bind, Except.bind]
          | ok third => simp [bind, Except.bind, pure, Except.pure]

variable {config : Config} {gate : Gate} {file : String}

/-- A file is instrumented unless an excluded pattern accepts it. -/
theorem instruments_iff (built : ofConfig config = .ok gate) :
    gate.instruments file = true ↔
      ∀ source ∈ config.coverage.excludes, ¬ Accepts source.toList file.toList := by
  have compiled := (ofConfig_eq_ok_iff.mp built).2.2
  rw [instruments, Bool.not_eq_true', ← Bool.not_eq_true, PatternSet.matchesAny_iff compiled]
  simp

/-- A file is transpiled when an included pattern accepts it and no excluded one does. -/
theorem transpiles_iff (built : ofConfig config = .ok gate) :
    gate.transpiles file = true ↔
      (∃ source ∈ config.transpiler.includes, Accepts source.toList file.toList) ∧
      ∀ source ∈ config.transpiler.excludes, ¬ Accepts source.toList file.toList := by
  obtain ⟨includes, excludes, _⟩ := ofConfig_eq_ok_iff.mp built
  rw [transpiles, isSelected, Bool.and_eq_true, Bool.not_eq_true', ← Bool.not_eq_true,
    PatternSet.matchesAny_iff includes, PatternSet.matchesAny_iff excludes]
  simp

end Gate

/-! ## Dependencies -/

theorem dependencyGlob_mem_transpiler (document : Document) :
    Config.dependencyGlob ∈ (Config.resolve document).transpiler.excludes :=
  List.mem_append_right _ List.mem_cons_self

theorem dependencyGlob_mem_coverage (document : Document) :
    Config.dependencyGlob ∈ (Config.resolve document).coverage.excludes :=
  List.mem_append_right _ List.mem_cons_self

/-- The pattern of dependencies accepts what lies below a directory of this name. -/
theorem accepts_dependencyGlob_iff {path : List Char} :
    Accepts Config.dependencyGlob.toList path ↔
      ∃ before inside, path = before ++ ("node_modules/".toList ++ inside) ∧ Closed before := by
  have shape : Config.dependencyGlob.toList = '*' :: '*' :: '/' ::
      ("node_modules/".toList.flatMap escapeChar ++ '*' :: '*' :: '/' :: '*' ::
        [].flatMap escapeChar) := by rfl
  have directory : Closed "node_modules/".toList := Or.inr (by rfl)
  have anything (inside : List Char) :
      Accepts ('*' :: '*' :: '/' :: '*' :: [].flatMap escapeChar) inside :=
    accepts_ending_iff.mpr ⟨inside, (List.append_nil inside).symm⟩
  rw [shape, accepts_below_iff directory (by decide)]
  simp only [anything, and_true]

/-- Dependencies are never touched. -/
theorem dependency_untouched {document : Document} {gate : Gate} {before inside : String}
    (built : Gate.ofConfig (Config.resolve document) = .ok gate)
    (closed : before = "" ∨ before.toList.getLast? = some '/') :
    gate.transpiles (before ++ "node_modules/" ++ inside) = false ∧
      gate.instruments (before ++ "node_modules/" ++ inside) = false := by
  have accepted : Accepts Config.dependencyGlob.toList
      (before ++ "node_modules/" ++ inside).toList := by
    refine accepts_dependencyGlob_iff.mpr ⟨before.toList, inside.toList, by simp, ?_⟩
    rcases closed with rfl | last
    · exact Or.inl rfl
    · exact Or.inr last
  constructor
  · rw [← Bool.not_eq_true, Gate.transpiles_iff built]
    rintro ⟨_, excluded⟩
    exact excluded _ (dependencyGlob_mem_transpiler document) accepted
  · rw [← Bool.not_eq_true, Gate.instruments_iff built]
    intro excluded
    exact excluded _ (dependencyGlob_mem_coverage document) accepted

/-- A configuration that would transpile everything still leaves dependencies alone. -/
theorem dependency_untouched_nested :
    ∃ gate,
      Gate.ofConfig (Config.resolve (.record [("babel", .record [("include", .text "**/*")])])) =
        .ok gate ∧
      gate.transpiles ("/app/" ++ "node_modules/" ++ "pad/lib/left.js") = false ∧
      gate.instruments ("/app/" ++ "node_modules/" ++ "pad/lib/left.js") = false := by
  have builds : ∃ gate, Gate.ofConfig (Config.resolve
      (.record [("babel", .record [("include", .text "**/*")])])) = .ok gate := ⟨_, rfl⟩
  obtain ⟨gate, built⟩ := builds
  exact ⟨gate, built, dependency_untouched built (Or.inr rfl)⟩

end MappedCoverage
