import MappedCoverage.Proofs.Gate.Tests

/-!
# Anchored patterns

A relative pattern that is taken from the working directory matches the paths in this directory
whose remainder it matches by itself, and is malformed only if it is malformed by itself. No
character of the directory has a meaning of its own there.
-/

namespace MappedCoverage

open Glob

/-! ## Compiling -/

/-- Whole pieces that stand for themselves make no pattern malformed. -/
theorem exists_written_escape_iff {pieces pattern : List Char} (closed : Closed pieces) :
    (∃ raw, Written true (pieces.flatMap escapeChar ++ pattern) raw) ↔
      ∃ raw, Written true pattern raw := by
  simp only [written_escape_iff, opensAfter_closed closed]
  constructor
  · rintro ⟨_, tokens, _, written⟩
    exact ⟨tokens, written⟩
  · rintro ⟨tokens, written⟩
    exact ⟨_, tokens, rfl, written⟩

theorem exists_compile_iff_written {source : String} :
    (∃ set, PatternSet.compile [source] = .ok set) ↔ ∃ raw, Written true source.toList raw := by
  simp only [PatternSet.exists_compile_eq_ok_iff, List.forall_mem_singleton, compileOne_eq_ok_iff,
    exists_compile_eq_ok_iff]

theorem matchesAny_singleton_iff {source path : String} {set : PatternSet}
    (compiled : PatternSet.compile [source] = .ok set) :
    set.matchesAny path = true ↔ Accepts source.toList path.toList := by
  simp [PatternSet.matchesAny_iff compiled]

namespace TestPlan

section

variable {plan : TestPlan} {pattern : String} (relative : Path.isAbsolute pattern = false)

include relative

theorem toList_anchored :
    (plan.anchored pattern).toList =
      (directoryStart plan.workingDirectory.toList).flatMap escapeChar ++ pattern.toList := by
  rw [anchored, relative, if_neg Bool.false_ne_true, join_escape relative]

/-- Anchoring leaves a relative pattern as well-formed or malformed as it is. -/
theorem exists_compile_anchored_iff :
    (∃ set, PatternSet.compile [plan.anchored pattern] = .ok set) ↔
      ∃ set, PatternSet.compile [pattern] = .ok set := by
  rw [exists_compile_iff_written, exists_compile_iff_written, toList_anchored relative,
    exists_written_escape_iff (closed_directoryStart _)]

end

/-- A relative pattern, anchored at a directory that is written without a separator at its end, is
well-formed exactly if it is so by itself. It then matches the paths in this directory whose
remainder it matches by itself, and no others. -/
theorem anchored_exact
    (plan : TestPlan)
    (pattern : String)
    (relative : Path.isAbsolute pattern = false)
    (named : plan.workingDirectory ≠ "")
    (unclosed : plan.workingDirectory.toList.getLast? ≠ some '/') :
    ((∃ set, PatternSet.compile [plan.anchored pattern] = .ok set) ↔
      ∃ set, PatternSet.compile [pattern] = .ok set) ∧
    ∀ anchoredSet set path, PatternSet.compile [plan.anchored pattern] = .ok anchoredSet →
      PatternSet.compile [pattern] = .ok set →
      (anchoredSet.matchesAny path = true ↔
        ∃ rest, path = plan.workingDirectory ++ "/" ++ rest ∧ set.matchesAny rest = true) := by
  refine ⟨exists_compile_anchored_iff relative, ?_⟩
  intro anchoredSet set path compiledAnchored compiled
  have start : directoryStart plan.workingDirectory.toList =
      (plan.workingDirectory ++ "/").toList := by
    have opened : ¬ Closed plan.workingDirectory.toList := by
      rintro (empty | last)
      · exact named (String.toList_eq_nil_iff.mp empty)
      · exact unclosed last
    rw [directoryStart, if_neg opened, String.toList_append]
    rfl
  rw [matchesAny_singleton_iff compiledAnchored, accepts_anchored_iff relative, start]
  constructor
  · rintro ⟨rest, same, accepted⟩
    refine ⟨String.ofList rest, ?_, (matchesAny_singleton_iff compiled).mpr ?_⟩
    · rw [← String.toList_inj, same]
      simp
    · rwa [String.toList_ofList]
  · rintro ⟨rest, rfl, matched⟩
    exact ⟨rest.toList, String.toList_append, (matchesAny_singleton_iff compiled).mp matched⟩

/-- A plan in a directory whose name reads like a pattern. -/
def inWildcards : TestPlan := ⟨["**/*.js"], ⟨[], [], []⟩, "/w*rk/[a-z]?"⟩

/-- The characters of the directory stand for themselves, and those of the pattern do not. -/
theorem anchored_exact_wildcards :
    Path.isAbsolute "**/*.js" = false ∧
      inWildcards.workingDirectory ≠ "" ∧
      inWildcards.workingDirectory.toList.getLast? ≠ some '/' ∧
      ∃ set, PatternSet.compile [inWildcards.anchored "**/*.js"] = .ok set ∧
        set.matchesAny "/w*rk/[a-z]?/unit/a.js" = true ∧
        set.matchesAny "/work/bc/unit/a.js" = false := by
  have relative : Path.isAbsolute "**/*.js" = false := by decide
  have named : inWildcards.workingDirectory ≠ "" := by decide
  have unclosed : inWildcards.workingDirectory.toList.getLast? ≠ some '/' := by decide
  obtain ⟨compiles, matched⟩ := anchored_exact inWildcards "**/*.js" relative named unclosed
  obtain ⟨plain, compiled⟩ : ∃ set, PatternSet.compile ["**/*.js"] = .ok set := ⟨_, rfl⟩
  obtain ⟨set, anchored⟩ := compiles.mpr ⟨plain, compiled⟩
  refine ⟨relative, named, unclosed, set, anchored, ?_, ?_⟩
  · refine (matched _ _ _ anchored compiled).mpr ⟨"unit/a.js", by decide, ?_⟩
    cases compiled
    decide
  · rw [← Bool.not_eq_true, matched _ _ _ anchored compiled]
    rintro ⟨rest, same, _⟩
    have third : (inWildcards.workingDirectory ++ "/" ++ rest).toList[2]? = some '*' := by
      rw [String.toList_append, String.toList_append, List.append_assoc]
      rfl
    rw [← same] at third
    revert third
    decide

end TestPlan

end MappedCoverage
