import MappedCoverage.Proofs.Gate.Selection

/-!
# The default gate

A document that says nothing has a gate of its own: scripts are transpiled unless they belong to a
dependency, and every file is instrumented that neither belongs to a dependency nor is a test
script.
-/

namespace MappedCoverage

open Glob

/-- A path ends with a text. -/
def EndsWith (path ending : String) : Prop :=
  ∃ stem, path = stem ++ ending

/-- A path leads through a directory of this name, and from there on to the rest. -/
def Through (directory path rest : String) : Prop :=
  ∃ before, path = before ++ (directory ++ "/") ++ rest ∧
    (before = "" ∨ before.toList.getLast? = some '/')

theorem endsWith_iff {path ending : String} :
    EndsWith path ending ↔ ∃ stem, path.toList = stem ++ ending.toList := by
  constructor
  · rintro ⟨stem, rfl⟩
    exact ⟨stem.toList, String.toList_append⟩
  · rintro ⟨stem, same⟩
    exact ⟨String.ofList stem, by simp [← String.toList_inj, same]⟩

theorem through_iff {directory path rest : String} :
    Through directory path rest ↔
      ∃ before, path.toList = before ++ ((directory ++ "/").toList ++ rest.toList) ∧
        Closed before := by
  constructor
  · rintro ⟨before, rfl, start | last⟩
    · exact ⟨before.toList, by simp, Or.inl (String.toList_eq_nil_iff.mpr start)⟩
    · exact ⟨before.toList, by simp, Or.inr last⟩
  · rintro ⟨before, same, closed⟩
    refine ⟨String.ofList before, by simp [← String.toList_inj, same], ?_⟩
    rcases closed with rfl | last
    · exact Or.inl rfl
    · exact Or.inr (by rwa [String.toList_ofList])

/-! ## What the default patterns accept -/

section

variable {path : String}

theorem accepts_scripts_iff :
    Accepts "**/*.js".toList path.toList ↔ EndsWith path ".js" := by
  rw [endsWith_iff]
  exact @accepts_ending_iff ".js".toList path.toList

theorem accepts_markedScripts_iff :
    Accepts "**/*.jsx".toList path.toList ↔ EndsWith path ".jsx" := by
  rw [endsWith_iff]
  exact @accepts_ending_iff ".jsx".toList path.toList

theorem accepts_dependencies_iff :
    Accepts Config.dependencyGlob.toList path.toList ↔
      ∃ rest, Through "node_modules" path rest := by
  simp only [accepts_dependencyGlob_iff, through_iff]
  constructor
  · rintro ⟨before, rest, same, closed⟩
    exact ⟨String.ofList rest, before, by rwa [String.toList_ofList], closed⟩
  · rintro ⟨rest, before, same, closed⟩
    exact ⟨before, rest.toList, same, closed⟩

theorem accepts_tests_iff :
    Accepts (Config.testExclude Config.defaultTest).toList path.toList ↔
      ∃ rest, Through "test" path rest ∧ EndsWith rest ".js" := by
  have shape : (Config.testExclude Config.defaultTest).toList = '*' :: '*' :: '/' ::
      ("test/".toList.flatMap escapeChar ++ "**/*.js".toList) := by rfl
  have directory : Closed "test/".toList := Or.inr (by rfl)
  rw [shape, accepts_below_iff directory (by decide)]
  simp only [through_iff]
  constructor
  · rintro ⟨before, rest, same, closed, accepted⟩
    rw [← String.toList_ofList (l := rest)] at same accepted
    exact ⟨String.ofList rest, ⟨before, same, closed⟩, accepts_scripts_iff.mp accepted⟩
  · rintro ⟨rest, ⟨before, same, closed⟩, ends⟩
    exact ⟨before, rest.toList, same, closed, accepts_scripts_iff.mpr ends⟩

end

/-- By default, a file is transpiled exactly if its path ends with `.js` or `.jsx` and leads through
no directory of dependencies; and it is instrumented exactly if its path leads through no such
directory, and through no directory of tests to a path that ends with `.js`. -/
theorem default_gate_decides :
    ∃ gate, Gate.ofConfig (Config.resolve .null) = .ok gate ∧ ∀ path,
      (gate.transpiles path = true ↔
        (EndsWith path ".js" ∨ EndsWith path ".jsx") ∧
          ¬ ∃ rest, Through "node_modules" path rest) ∧
      (gate.instruments path = true ↔
        (¬ ∃ rest, Through "node_modules" path rest) ∧
          ¬ ∃ rest, Through "test" path rest ∧ EndsWith rest ".js") := by
  obtain ⟨gate, built⟩ : ∃ gate, Gate.ofConfig (Config.resolve .null) = .ok gate := ⟨_, rfl⟩
  have includes : (Config.resolve .null).transpiler.includes = ["**/*.jsx", "**/*.js"] := by rfl
  have excludes : (Config.resolve .null).transpiler.excludes = [Config.dependencyGlob] := by rfl
  have uncovered : (Config.resolve .null).coverage.excludes =
      [Config.testExclude Config.defaultTest, Config.dependencyGlob] := by rfl
  refine ⟨gate, built, fun path => ⟨?_, ?_⟩⟩
  · rw [Gate.transpiles_iff built, includes, excludes]
    simp only [List.exists_mem_cons_iff, List.forall_mem_singleton, accepts_scripts_iff,
      accepts_markedScripts_iff, accepts_dependencies_iff]
    simp [or_comm]
  · rw [Gate.instruments_iff built, uncovered]
    simp only [List.forall_mem_cons, accepts_tests_iff, accepts_dependencies_iff]
    simp [and_comm]

end MappedCoverage
