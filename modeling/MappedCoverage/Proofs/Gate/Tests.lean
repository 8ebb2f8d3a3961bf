import MappedCoverage.Proofs.Gate.Selection
import MappedCoverage.TestPlan

/-!
# Tests are not instrumented

A test pattern is written in two ways: behind the escaped working directory, to find the test files,
and behind a run of pieces, to keep them from being instrumented. Whatever the first accepts, the
second accepts too.
-/

namespace MappedCoverage

open Glob

/-! ## Anchored patterns -/

/-- A directory in front of the path of a file in it. -/
def directoryStart (directory : List Char) : List Char :=
  if Closed directory then directory else directory ++ ['/']

theorem closed_directoryStart (directory : List Char) : Closed (directoryStart directory) := by
  unfold directoryStart
  by_cases closed : Closed directory
  · rw [if_pos closed]
    exact closed
  · rw [if_neg closed]
    exact Or.inr (by simp)

theorem toList_join {file : String} (relative : Path.isAbsolute file = false)
    (directory : String) :
    (Path.join directory file).toList = directoryStart directory.toList ++ file.toList := by
  have closes : directory.isEmpty ∨ directory.toList.getLast? = some '/' ↔
      Closed directory.toList := by
    rw [String.isEmpty_iff, ← String.toList_eq_nil_iff]
    rfl
  rw [Path.join, relative, if_neg Bool.false_ne_true, directoryStart]
  by_cases closed : Closed directory.toList
  · rw [if_pos (closes.mpr closed), if_pos closed, String.toList_append]
  · rw [if_neg (mt closes.mp closed), if_neg closed, String.toList_append, String.toList_append]
    rfl

theorem directoryStart_flatMap_escapeChar (directory : List Char) :
    directoryStart (directory.flatMap escapeChar) =
      (directoryStart directory).flatMap escapeChar := by
  unfold directoryStart
  by_cases closed : Closed directory
  · rw [if_pos closed, if_pos ((closed_flatMap_escapeChar_iff directory).mpr closed)]
  · rw [if_neg closed, if_neg (mt (closed_flatMap_escapeChar_iff directory).mp closed),
      List.flatMap_append]
    rfl

theorem join_escape {pattern : String} (relative : Path.isAbsolute pattern = false)
    (directory : String) :
    (Path.join (escape directory) pattern).toList =
      (directoryStart directory.toList).flatMap escapeChar ++ pattern.toList := by
  have written : (escape directory).toList = directory.toList.flatMap escapeChar :=
    String.toList_ofList
  rw [toList_join relative, written, directoryStart_flatMap_escapeChar]

/-- A relative pattern accepts, behind the working directory, what it accepts by itself. -/
theorem accepts_anchored_iff {plan : TestPlan} {pattern : String} {path : List Char}
    (relative : Path.isAbsolute pattern = false) :
    Accepts (plan.anchored pattern).toList path ↔
      ∃ rest, path = directoryStart plan.workingDirectory.toList ++ rest ∧
        Accepts pattern.toList rest := by
  rw [TestPlan.anchored, relative, if_neg Bool.false_ne_true, join_escape relative,
    accepts_escape_iff (closed_directoryStart _)]

/-! ## Excluded patterns -/

theorem testExclude_mem_coverage {document : Document} {test : String}
    (listed : test ∈ (Config.resolve document).tests) :
    Config.testExclude test ∈ (Config.resolve document).coverage.excludes :=
  List.mem_append_left _ (List.mem_append_right _ (List.mem_map_of_mem listed))

theorem testExclude_absolute {test : String} (absolute : Path.isAbsolute test = true) :
    Config.testExclude test = test := by
  have first : test.toList.head? = some '/' := of_decide_eq_true absolute
  refine if_pos (Or.inl ?_)
  rw [List.head?_take, first]
  rfl

theorem testExclude_stars {test : String} (stars : test.toList.take 2 = ['*', '*']) :
    Config.testExclude test = test :=
  if_pos (Or.inr stars)

theorem testExclude_relative {test : String} (relative : Path.isAbsolute test = false)
    (plain : test.toList.take 2 ≠ ['*', '*']) :
    (Config.testExclude test).toList = '*' :: '*' :: '/' :: test.toList := by
  have first : (test.toList.take 2).head? ≠ some '/' := by
    rw [List.head?_take]
    exact of_decide_eq_false relative
  have neither : ¬ ((test.toList.take 2).head? = some '/' ∨ test.toList.take 2 = ['*', '*']) :=
    not_or.mpr ⟨first, plain⟩
  rw [Config.testExclude, if_neg neither, String.toList_append]
  rfl

/-- What an anchored test pattern accepts, the excluded pattern of this test accepts. -/
theorem accepts_testExclude_of_anchored {plan : TestPlan} {test : String} {path : List Char}
    (accepted : Accepts (plan.anchored test).toList path) :
    Accepts (Config.testExclude test).toList path := by
  by_cases absolute : Path.isAbsolute test = true
  · rw [TestPlan.anchored, if_pos absolute] at accepted
    rwa [testExclude_absolute absolute]
  · have relative : Path.isAbsolute test = false := Bool.eq_false_iff.mpr absolute
    obtain ⟨rest, rfl, inside⟩ := (accepts_anchored_iff relative).mp accepted
    have whole := (closed_directoryStart plan.workingDirectory.toList).whole rest
    by_cases stars : test.toList.take 2 = ['*', '*']
    · rw [testExclude_stars stars]
      have shape : test.toList = '*' :: '*' :: test.toList.drop 2 := by
        rw [← List.take_append_drop 2 test.toList, stars]
        rfl
      rw [shape] at inside ⊢
      exact inside.before whole
    · rw [testExclude_relative relative stars]
      exact accepts_pieces_iff.mpr ⟨_, rest, rfl, whole, inside⟩

/-- Tests are never instrumented. -/
theorem test_not_instrumented {document : Document} {gate : Gate} {set : PatternSet}
    {workingDirectory test file : String}
    (built : Gate.ofConfig (Config.resolve document) = .ok gate)
    (listed : test ∈ (Config.resolve document).tests)
    (compiled : PatternSet.compile
      [(TestPlan.ofConfig (Config.resolve document) workingDirectory).anchored test] = .ok set)
    (matched : set.matchesAny file = true) : gate.instruments file = false := by
  obtain ⟨source, same, accepted⟩ := (PatternSet.matchesAny_iff compiled).mp matched
  rw [List.mem_singleton.mp same] at accepted
  rw [← Bool.not_eq_true, Gate.instruments_iff built]
  intro excluded
  exact excluded _ (testExclude_mem_coverage listed) (accepts_testExclude_of_anchored accepted)

/-- A working directory with characters of patterns hides no test. -/
theorem test_not_instrumented_bracketed :
    ∃ gate set,
      Gate.ofConfig (Config.resolve .null) = .ok gate ∧
      "test/**/*.js" ∈ (Config.resolve .null).tests ∧
      PatternSet.compile
        [(TestPlan.ofConfig (Config.resolve .null) "/work[1]").anchored "test/**/*.js"] = .ok set ∧
      set.matchesAny "/work[1]/test/unit/a.js" = true ∧
      gate.instruments "/work[1]/test/unit/a.js" = false := by
  have builds : ∃ gate, Gate.ofConfig (Config.resolve .null) = .ok gate := ⟨_, rfl⟩
  have finds : ∃ set,
      PatternSet.compile
        [(TestPlan.ofConfig (Config.resolve .null) "/work[1]").anchored "test/**/*.js"] = .ok set ∧
      set.matchesAny "/work[1]/test/unit/a.js" = true := ⟨_, rfl, rfl⟩
  have listed : "test/**/*.js" ∈ (Config.resolve .null).tests := List.mem_cons_self
  obtain ⟨gate, built⟩ := builds
  obtain ⟨set, compiled, matched⟩ := finds
  exact ⟨gate, set, built, listed, compiled, matched,
    test_not_instrumented built listed compiled matched⟩

end MappedCoverage
