import MappedCoverage.Proofs.Config.Passing
import MappedCoverage.Proofs.Gate.Tests

/-!
# Rejected gates

A gate is rejected for the first malformed pattern among those that a document gives. Whatever
resolving adds of its own is well-formed, and a test pattern is as well-formed or malformed behind a
run of pieces as it is by itself.
-/

namespace MappedCoverage

open Glob

/-! ## Rejected patterns -/

namespace Glob.PatternSet

/-- The failure that a malformed pattern is rejected with. -/
def rejection? (source : String) : Option Failure :=
  failureOf? (compileOne source)

theorem rejection?_eq_none_iff {source : String} :
    rejection? source = none ↔ ∃ pattern, Pattern.compile source = .ok pattern := by
  simp only [rejection?, failureOf?_eq_none_iff, compileOne_eq_ok_iff]

theorem rejection?_eq_some_iff {source : String} {failure : Failure} :
    rejection? source = some failure ↔
      ∃ malformed, Pattern.compile source = .error malformed ∧
        failure = .invalidPattern source malformed.message := by
  rw [rejection?, failureOf?_eq_some_iff, compileOne]
  cases Pattern.compile source with
  | ok pattern => simp
  | error malformed => simp [eq_comm]

/-- A set is rejected for its first malformed pattern. -/
theorem failureOf?_compile (sources : List String) :
    failureOf? (compile sources) = sources.findSome? rejection? := by
  rw [compile, failureOf?_bind_pure, failureOf?_mapM]
  rfl

end Glob.PatternSet

namespace Gate

/-- The patterns of a configuration, in the order in which they are compiled. -/
def sources (config : Config) : List String :=
  config.transpiler.includes ++ config.transpiler.excludes ++ config.coverage.excludes

/-- A gate is rejected for the first malformed pattern of its configuration. -/
theorem failureOf?_ofConfig (config : Config) :
    failureOf? (ofConfig config) = (sources config).findSome? PatternSet.rejection? := by
  have built : failureOf? (ofConfig config) =
      (failureOf? (PatternSet.compile config.transpiler.includes)).or
        ((failureOf? (PatternSet.compile config.transpiler.excludes)).or
          (failureOf? (PatternSet.compile config.coverage.excludes))) :=
    failureOf?_bind fun _ => failureOf?_bind fun _ => failureOf?_bind_pure _ _
  rw [built, sources, List.findSome?_append, List.findSome?_append, Option.or_assoc]
  simp only [PatternSet.failureOf?_compile]

end Gate

/-! ## Patterns of a document -/

namespace Config

/-- The patterns that two sections give for files to be transpiled and files not to be. -/
def givenSelections (transpiler coverage : Entries Document) : List String :=
  given (Entries.get? "include" transpiler) ++ given (Entries.get? "exclude" transpiler) ++
    given (Entries.get? "exclude" coverage)

/-- The patterns that a document gives for tests. -/
def givenTests (document : Document) : List String :=
  given (document.field? "tests")

/-- A pattern that excludes a test pattern: an absolute one and one that starts with two stars stay,
any other is looked for in every directory. -/
structure Excludes (test excluded : String) : Prop where
  kept : Path.isAbsolute test = true ∨ test.toList.take 2 = ['*', '*'] → excluded = test
  moved : Path.isAbsolute test = false → test.toList.take 2 ≠ ['*', '*'] → excluded = "**/" ++ test

theorem excludes_testExclude (test : String) : Excludes test (testExclude test) where
  kept := by
    rintro (absolute | stars)
    · exact testExclude_absolute absolute
    · exact testExclude_stars stars
  moved relative plain := by
    rw [← String.toList_inj, testExclude_relative relative plain, String.toList_append]
    rfl

/-- A pattern is as well-formed or malformed behind a run of pieces as it is by itself. -/
theorem exists_compile_anywhere_iff (test : String) :
    (∃ pattern, Pattern.compile ("**/" ++ test) = .ok pattern) ↔
      ∃ pattern, Pattern.compile test = .ok pattern := by
  have shape : ("**/" ++ test).toList = '*' :: '*' :: '/' :: test.toList := String.toList_append
  rw [exists_compile_eq_ok_iff, exists_compile_eq_ok_iff, shape]
  simp only [written_pieces_iff]
  constructor
  · rintro ⟨_, tokens, _, written⟩
    exact ⟨tokens, written⟩
  · rintro ⟨tokens, written⟩
    exact ⟨_, tokens, rfl, written⟩

theorem exists_compile_testExclude_iff (test : String) :
    (∃ pattern, Pattern.compile (testExclude test) = .ok pattern) ↔
      ∃ pattern, Pattern.compile test = .ok pattern := by
  by_cases same : Path.isAbsolute test = true ∨ test.toList.take 2 = ['*', '*']
  · rw [(excludes_testExclude test).kept same]
  · obtain ⟨relative, plain⟩ := not_or.mp same
    rw [(excludes_testExclude test).moved (Bool.eq_false_iff.mpr relative) plain]
    exact exists_compile_anywhere_iff test

/-- What stands in for missing patterns is found by no search that finds nothing in it. -/
theorem findSome?_given {found : Option Document} {others : List String}
    {find : String → Option Failure} (nothing : others.findSome? find = none) :
    ((found.bind patterns?).getD others).findSome? find = (given found).findSome? find := by
  rw [← getD_bind_patterns?]
  cases found.bind patterns? with
  | none => exact nothing
  | some patterns => rfl

/-- The first malformed pattern of a resolved configuration is one that the document gives. -/
theorem findSome?_sources_resolve (document : Document) :
    (Gate.sources (resolve document)).findSome? PatternSet.rejection? =
      (givenSelections (sectionNamed ["babel", "transpiler"] document)
          (sectionNamed ["istanbul", "coverage"] document) ++
        (givenTests document).map testExclude).findSome? PatternSet.rejection? := by
  have included : defaultIncludes.findSome? PatternSet.rejection? = none := by decide
  have tested : [defaultTest].findSome? (PatternSet.rejection? ∘ testExclude) = none := by decide
  have dependencies : [dependencyGlob].findSome? PatternSet.rejection? = none := by decide
  simp only [Gate.sources, resolve, transpilerConfig, coverageConfig, entryPatterns?,
    givenSelections, givenTests, getD_bind_patterns?, List.findSome?_append, List.findSome?_map,
    findSome?_given included, findSome?_given tested, dependencies, Option.or_none,
    Option.or_assoc]

end Config

/-- The gate of a document is built exactly if every pattern that the document gives is well-formed.
A test pattern may be taken by itself or as it is excluded, since a run of pieces in front of it
changes nothing here. Otherwise the gate is rejected for the first malformed pattern among those
that say what is transpiled, those that say what is not instrumented, and those that exclude the
tests. -/
theorem Gate.rejected_for_first_malformed (document : Document) :
    ∃ transpiler coverage,
      Config.Chosen "babel" "transpiler" document transpiler ∧
      Config.Chosen "istanbul" "coverage" document coverage ∧
      ((∃ gate, Gate.ofConfig (Config.resolve document) = .ok gate) ↔
        ∀ source ∈ Config.givenSelections transpiler coverage ++ Config.givenTests document,
          ∃ pattern, Pattern.compile source = .ok pattern) ∧
      (∀ test, Config.Excludes test (Config.testExclude test) ∧
        ((∃ pattern, Pattern.compile (Config.testExclude test) = .ok pattern) ↔
          ∃ pattern, Pattern.compile test = .ok pattern) ∧
        ((∃ pattern, Pattern.compile ("**/" ++ test) = .ok pattern) ↔
          ∃ pattern, Pattern.compile test = .ok pattern)) ∧
      ∀ failure, Gate.ofConfig (Config.resolve document) = .error failure ↔
        ∃ before source after malformed,
          Config.givenSelections transpiler coverage ++
              (Config.givenTests document).map Config.testExclude =
            before ++ source :: after ∧
          (∀ earlier ∈ before, ∃ pattern, Pattern.compile earlier = .ok pattern) ∧
          Pattern.compile source = .error malformed ∧
          failure = .invalidPattern source malformed.message := by
  refine ⟨_, _, Config.chosen_sectionNamed .., Config.chosen_sectionNamed .., ?_,
    fun test => ?_, ?_⟩
  · rw [← failureOf?_eq_none_iff, failureOf?_ofConfig, Config.findSome?_sources_resolve,
      List.findSome?_eq_none_iff, List.forall_mem_append, List.forall_mem_append,
      List.forall_mem_map]
    simp only [PatternSet.rejection?_eq_none_iff, Config.exists_compile_testExclude_iff]
  · exact ⟨Config.excludes_testExclude test, Config.exists_compile_testExclude_iff test,
      Config.exists_compile_anywhere_iff test⟩
  · intro failure
    rw [← failureOf?_eq_some_iff, failureOf?_ofConfig, Config.findSome?_sources_resolve,
      List.findSome?_eq_some_iff]
    simp only [PatternSet.rejection?_eq_none_iff, PatternSet.rejection?_eq_some_iff]
    constructor
    · rintro ⟨before, source, after, cut, ⟨malformed, compiled, rfl⟩, earlier⟩
      exact ⟨before, source, after, malformed, cut, earlier, compiled, rfl⟩
    · rintro ⟨before, source, after, malformed, cut, earlier, compiled, rfl⟩
      exact ⟨before, source, after, cut, ⟨malformed, compiled, rfl⟩, earlier⟩

/-- A document with two malformed patterns, of which the one for tests comes first in the text. -/
def Config.malformedTwice : Document :=
  .record
    [("tests", .text "test/[a"),
      ("istanbul", .record [("exclude", .texts ["lib/*", "a***"])])]

/-- The gate of this document is rejected for its pattern of files that are not instrumented. -/
theorem Gate.rejected_for_first_malformed_coverage :
    Gate.ofConfig (Config.resolve Config.malformedTwice) =
      .error (.invalidPattern "a***" ("Pattern syntax error near position 3: " ++
        "wildcards are either regular `*` or recursive `**`")) := by
  obtain ⟨transpiler, coverage, chosenTranspiler, chosenCoverage, _, _, rejected⟩ :=
    Gate.rejected_for_first_malformed Config.malformedTwice
  obtain rfl := chosenTranspiler.eq_sectionNamed
  obtain rfl := chosenCoverage.eq_sectionNamed
  refine (rejected _).mpr ⟨["lib/*"], "a***", ["**/test/[a"], _, rfl, ?_, rfl, rfl⟩
  exact List.forall_mem_singleton.mpr ⟨_, rfl⟩

end MappedCoverage
