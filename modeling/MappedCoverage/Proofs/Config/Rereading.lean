import MappedCoverage.Gate
import MappedCoverage.Proofs.Document.Records
import MappedCoverage.Proofs.Glob.Sets
import MappedCoverage.Proofs.Grep.Sources

/-!
# Reading a resolved configuration again

A resolved configuration is written as a document, and this document resolves to a configuration of
the same decisions. Its lists of excluded patterns are longer, since tests and dependencies are
excluded once more, but they exclude the same files; all else stays, up to the order of the options
that are passed on to the test runner.
-/

namespace MappedCoverage

open Glob

/-! ## Gates that decide the same -/

namespace Gate

/-- Two gates decide the same for every file. -/
def SameDecisions (first second : Gate) : Prop :=
  ∀ file, first.transpiles file = second.transpiles file ∧
    first.instruments file = second.instruments file

theorem alike_ofConfig {first second : Config}
    (includes : first.transpiler.includes = second.transpiler.includes)
    (excludes : Alike PatternSet.SameMatches (PatternSet.compile first.transpiler.excludes)
      (PatternSet.compile second.transpiler.excludes))
    (uncovered : Alike PatternSet.SameMatches (PatternSet.compile first.coverage.excludes)
      (PatternSet.compile second.coverage.excludes)) :
    Alike SameDecisions (ofConfig first) (ofConfig second) := by
  have selected : Alike Eq (PatternSet.compile first.transpiler.includes)
      (PatternSet.compile second.transpiler.includes) := by
    rw [includes]
    cases PatternSet.compile second.transpiler.includes <;> rfl
  apply selected.bind
  rintro included _ rfl
  apply excludes.bind
  intro one other sameExcludes
  apply uncovered.bind
  intro covers otherCovers sameUncovered file
  constructor
  · exact congrArg (included.matchesAny file && !·) (sameExcludes file)
  · exact congrArg (!·) (sameUncovered file)

end Gate

/-! ## Documents of configurations -/

namespace Config

/-- What the document of a configuration resolves to. -/
def reread (config : Config) : Config :=
  resolve config.toDocument

@[simp] theorem patterns?_texts (items : List String) : patterns? (.texts items) = some items := by
  have each : (items.map Document.text).filterMap Document.asText? = items := by
    rw [List.filterMap_map]
    exact List.filterMap_some
  rw [Document.texts, patterns?, each]

/-- The options that are written for a test runner. -/
theorem sectionNamed_runner (config : Config) :
    sectionNamed ["mocha", "runner"] config.toDocument =
      ("require", .texts config.runner.require) ::
        ("grep", .texts (config.runner.grep.map Grep.source)) :: config.runner.extra := rfl

theorem reread_tests (config : Config) : config.reread.tests = config.tests :=
  congrArg (Option.getD · [defaultTest]) (patterns?_texts config.tests)

theorem reread_includes (config : Config) :
    config.reread.transpiler.includes = config.transpiler.includes :=
  congrArg (Option.getD · defaultIncludes) (patterns?_texts config.transpiler.includes)

theorem reread_transpiler_excludes (config : Config) :
    config.reread.transpiler.excludes = config.transpiler.excludes ++ [dependencyGlob] :=
  congrArg (Option.getD · [] ++ [dependencyGlob]) (patterns?_texts config.transpiler.excludes)

theorem reread_coverage_excludes (config : Config) :
    config.reread.coverage.excludes =
      config.coverage.excludes ++ (config.tests.map testExclude ++ [dependencyGlob]) := by
  rw [← List.append_assoc, ← reread_tests]
  exact congrArg (Option.getD · [] ++ config.reread.tests.map testExclude ++ [dependencyGlob])
    (patterns?_texts config.coverage.excludes)

theorem reread_require (config : Config) : config.reread.runner.require = config.runner.require :=
  congrArg (Option.getD · []) (patterns?_texts config.runner.require)

theorem reread_grep (config : Config) :
    config.reread.runner.grep = (config.runner.grep.map Grep.source).filterMap Grep.compile? :=
  congrArg (fun found => (Option.getD found []).filterMap Grep.compile?)
    (patterns?_texts (config.runner.grep.map Grep.source))

/-- The options that a test runner gets are those that it got before, perhaps in another order. -/
theorem reread_extra {config : Config} (distinct : (Entries.keys config.runner.extra).Nodup)
    (free : ∀ key ∈ ["require", "grep"], key ∉ Entries.keys config.runner.extra) :
    config.reread.runner.extra.Perm config.runner.extra := by
  have written : (Entries.keys (sectionNamed ["mocha", "runner"] config.toDocument)).Nodup := by
    rw [sectionNamed_runner, Entries.keys_cons, Entries.keys_cons]
    simp only [List.nodup_cons, List.mem_cons, not_or]
    exact ⟨⟨by decide, free _ (by simp)⟩, free _ (by simp), distinct⟩
  have others : (sectionNamed ["mocha", "runner"] config.toDocument).filter
      (·.1 ∉ ["require", "grep"]) = config.runner.extra := by
    rw [sectionNamed_runner, List.filter_cons_of_neg (by simp), List.filter_cons_of_neg (by simp),
      List.filter_eq_self]
    intro entry inside
    refine decide_eq_true fun reserved => free entry.1 reserved ?_
    exact List.mem_map_of_mem inside
  rw [← others]
  exact Entries.removeAll_perm written ["require", "grep"]

/-- The variable of a resolved configuration is among the options of its instrumenter already. -/
theorem reread_instrumenter (document : Document) :
    (resolve document).reread.coverage.instrumenter = (resolve document).coverage.instrumenter :=
  Entries.insert_insert ..

/-- The options that are passed on name no key twice, and none that is understood here. -/
theorem extra_resolve {document : Document} (distinct : document.KeysDistinct) :
    (Entries.keys (resolve document).runner.extra).Nodup ∧
      ∀ key ∈ ["require", "grep"], key ∉ Entries.keys (resolve document).runner.extra :=
  Entries.keys_removeAll (distinct.sectionNamed ["mocha", "runner"]).1 ["require", "grep"]

/-- What is excluded once more is excluded already. -/
theorem alike_gate_reread (document : Document) :
    Alike Gate.SameDecisions (Gate.ofConfig (resolve document).reread)
      (Gate.ofConfig (resolve document)) := by
  apply Gate.alike_ofConfig (reread_includes _)
  · rw [reread_transpiler_excludes]
    apply PatternSet.alike_compile_append
    intro source again
    exact List.mem_append_right _ again
  · rw [reread_coverage_excludes]
    apply PatternSet.alike_compile_append
    intro source again
    rcases List.mem_append.mp again with test | dependency
    · exact List.mem_append_left _ (List.mem_append_right _ test)
    · exact List.mem_append_right _ dependency

/--
Reading a resolved configuration again changes no decision: its gate decides the same for every file
or fails to compile at the same pattern, and tests, options of the test runner, included patterns
and what concerns coverage stay, where the passed options are the same entries in some order.
-/
theorem reread_resolve {document : Document} (distinct : document.KeysDistinct) :
    Alike Gate.SameDecisions (Gate.ofConfig (resolve document).reread)
        (Gate.ofConfig (resolve document)) ∧
      (resolve document).reread.tests = (resolve document).tests ∧
      (resolve document).reread.runner.require = (resolve document).runner.require ∧
      (resolve document).reread.runner.grep = (resolve document).runner.grep ∧
      (resolve document).reread.runner.extra.Perm (resolve document).runner.extra ∧
      (resolve document).reread.transpiler.includes = (resolve document).transpiler.includes ∧
      (resolve document).reread.coverage.directory = (resolve document).coverage.directory ∧
      (resolve document).reread.coverage.reporters = (resolve document).coverage.reporters ∧
      (resolve document).reread.coverage.collector = (resolve document).coverage.collector ∧
      (resolve document).reread.coverage.instrumenter =
        (resolve document).coverage.instrumenter ∧
      (resolve document).reread.coverage.coverageVariable =
        (resolve document).coverage.coverageVariable := by
  refine ⟨alike_gate_reread document, reread_tests _, reread_require _, ?_, ?_,
    reread_includes _, rfl, rfl, rfl, reread_instrumenter document, rfl⟩
  · rw [reread_grep]
    exact Grep.filterMap_compile?_sources _
  · obtain ⟨unrepeated, free⟩ := extra_resolve distinct
    exact reread_extra unrepeated free

/-- Three passed options, which come in another order, and an exclusion that is written twice. -/
theorem reread_resolve_reordered :
    ∃ document : Document,
      document.KeysDistinct ∧
      Entries.keys (resolve document).runner.extra = ["ui", "timeout", "slow"] ∧
      Entries.keys (resolve document).reread.runner.extra = ["slow", "timeout", "ui"] ∧
      (resolve document).reread.runner.extra.Perm (resolve document).runner.extra ∧
      (resolve document).transpiler.excludes = ["lib/**", dependencyGlob] ∧
      (resolve document).reread.transpiler.excludes =
        ["lib/**", dependencyGlob, dependencyGlob] ∧
      Alike Gate.SameDecisions (Gate.ofConfig (resolve document).reread)
        (Gate.ofConfig (resolve document)) := by
  have distinct : (Document.record
      [("mocha", .record [("ui", .text "bdd"), ("grep", .text "a("), ("slow", .null),
        ("timeout", .number (.integer 5))]),
      ("babel", .record [("exclude", .text "lib/**")])]).KeysDistinct := by
    simp [Document.KeysDistinct, Document.EntriesDistinct]
  obtain ⟨decides, _, _, _, passed, _⟩ := reread_resolve distinct
  exact ⟨_, distinct, rfl, rfl, passed, rfl, rfl, decides⟩

end Config

end MappedCoverage
