import MappedCoverage.Pipeline
import MappedCoverage.Proofs.Document.Records

/-!
# What a configuration passes on

A configuration adds its own patterns behind those that a document gives, and passes on every
option that it does not understand. What is passed on overrides nothing: written together with the
options that are understood, no key stands twice, and source map and file are those of the load.
-/

namespace MappedCoverage

/-! ## Written options -/

/-- Options that are passed on are written without repeated keys behind others, if they name none
of those. -/
theorem nodup_keys_written {own passed : Entries Document} (distinct : (Entries.keys own).Nodup)
    (passedDistinct : (Entries.keys passed).Nodup)
    (free : ∀ key ∈ Entries.keys own, key ∉ Entries.keys passed) :
    (Entries.keys (own ++ passed)).Nodup := by
  rw [Entries.keys, List.map_append]
  exact distinct.append passedDistinct fun key written => free key written

theorem RunnerOptions.toDocument_unrepeated {options : RunnerOptions}
    (distinct : (Entries.keys options.extra).Nodup)
    (free : ∀ key ∈ ["require", "grep"], key ∉ Entries.keys options.extra) :
    ∃ fields, options.toDocument = .record fields ∧ (Entries.keys fields).Nodup := by
  have own : ["require", "grep"].Nodup := by decide
  exact ⟨_, rfl, nodup_keys_written own distinct free⟩

/-- Written transpile options name no key twice, ask for a source map within the code, and name no
file but the one that is transpiled. -/
def TranspileOptions.Sealed (options : TranspileOptions) : Prop :=
  ∃ fields, options.toDocument = .record fields ∧ (Entries.keys fields).Nodup ∧
    Entries.get? "sourceMap" fields = some (.text "inline") ∧
    Entries.get? "filename" fields = options.filename.map .text

theorem TranspileOptions.sealed_of_extra {options : TranspileOptions}
    (distinct : (Entries.keys options.extra).Nodup)
    (free : ∀ key ∈ ["filename", "sourceMap"], key ∉ Entries.keys options.extra) :
    options.Sealed := by
  obtain ⟨filename, extra⟩ := options
  cases filename with
  | none =>
      have noFile : Entries.get? "filename" extra = none :=
        Entries.get?_eq_none_iff.mpr (free _ (by simp))
      have own : ["sourceMap"].Nodup := by decide
      refine ⟨_, rfl, nodup_keys_written own distinct ?_, rfl, noFile⟩
      intro key written
      exact free key (List.mem_cons_of_mem "filename" written)
  | some file =>
      have own : ["filename", "sourceMap"].Nodup := by decide
      exact ⟨_, rfl, nodup_keys_written own distinct free, rfl, rfl⟩

theorem Pipeline.options_ofConfig {config : Config} {pipeline : Pipeline}
    (built : Pipeline.ofConfig config = .ok pipeline) :
    pipeline.options = config.transpiler.options := by
  unfold Pipeline.ofConfig at built
  cases gate : Gate.ofConfig config with
  | error failure =>
      rw [gate] at built
      cases built
  | ok gate' =>
      rw [gate] at built
      cases built
      rfl

namespace Config

/-! ## What a document gives -/

/-- The texts that a value gives: itself, or those among its items. -/
def given : Option Document → List String
  | some (.text text) => [text]
  | some (.sequence items) => items.filterMap Document.asText?
  | _ => []

theorem getD_bind_patterns? (found : Option Document) :
    (found.bind patterns?).getD [] = given found := by
  cases found with
  | none => rfl
  | some value => cases value <;> rfl

theorem asRecord?_field?_eq_some_iff {document : Document} {name : String}
    {entries : Entries Document} :
    (document.field? name).bind Document.asRecord? = some entries ↔
      document.field? name = some (.record entries) := by
  rw [Option.bind_eq_some_iff]
  constructor
  · rintro ⟨value, found, isRecord⟩
    cases value with
    | record others =>
        obtain rfl := Option.some.inj isRecord
        exact found
    | _ => cases isRecord
  · intro found
    exact ⟨_, found, rfl⟩

theorem asRecord?_field?_eq_none_iff {document : Document} {name : String} :
    (document.field? name).bind Document.asRecord? = none ↔
      ∀ others, document.field? name ≠ some (.record others) := by
  simp only [Option.eq_none_iff_forall_ne_some, ne_eq, asRecord?_field?_eq_some_iff]

/-- Of two names of one section, the first counts if it names a record, else the second. If neither
names a record, the section is empty. -/
inductive Chosen (first second : String) (document : Document) : Entries Document → Prop where
  | first {entries : Entries Document}
      (named : document.field? first = some (.record entries)) :
      Chosen first second document entries
  | second {entries : Entries Document}
      (missing : ∀ others, document.field? first ≠ some (.record others))
      (named : document.field? second = some (.record entries)) :
      Chosen first second document entries
  | neither
      (missing : ∀ others, document.field? first ≠ some (.record others))
      (alsoMissing : ∀ others, document.field? second ≠ some (.record others)) :
      Chosen first second document []

theorem chosen_sectionNamed (first second : String) (document : Document) :
    Chosen first second document (sectionNamed [first, second] document) := by
  rw [sectionNamed, List.findSome?_cons]
  cases own : (document.field? first).bind Document.asRecord? with
  | some entries => exact .first (asRecord?_field?_eq_some_iff.mp own)
  | none =>
      have missing := asRecord?_field?_eq_none_iff.mp own
      rw [List.findSome?_cons]
      cases other : (document.field? second).bind Document.asRecord? with
      | some entries => exact .second missing (asRecord?_field?_eq_some_iff.mp other)
      | none => exact .neither missing (asRecord?_field?_eq_none_iff.mp other)

/-- Only one section is chosen. -/
theorem Chosen.eq_sectionNamed {first second : String} {document : Document}
    {entries : Entries Document} (chosen : Chosen first second document entries) :
    entries = sectionNamed [first, second] document := by
  rw [sectionNamed, List.findSome?_cons]
  cases chosen with
  | first named => rw [asRecord?_field?_eq_some_iff.mpr named, Option.getD_some]
  | second missing named =>
      rw [asRecord?_field?_eq_none_iff.mpr missing, List.findSome?_cons,
        asRecord?_field?_eq_some_iff.mpr named, Option.getD_some]
  | neither missing alsoMissing =>
      rw [asRecord?_field?_eq_none_iff.mpr missing, List.findSome?_cons,
        asRecord?_field?_eq_none_iff.mpr alsoMissing]
      rfl

/-! ## What is added, and what is passed on -/

/-- What a configuration does with the chosen sections of a document. -/
structure Passes (config : Config) (runner transpiler coverage : Entries Document) : Prop where
  uncovered : config.coverage.excludes =
    given (Entries.get? "exclude" coverage) ++ config.tests.map testExclude ++ [dependencyGlob]
  untouched : config.transpiler.excludes =
    given (Entries.get? "exclude" transpiler) ++ [dependencyGlob]
  /-- The instrumenter is told the variable that is read later on, and else what it was given. -/
  records : Entries.get? "coverageVariable" config.coverage.instrumenter =
    some (.text config.coverage.coverageVariable)
  instruments : ∀ key ≠ "coverageVariable", Entries.get? key config.coverage.instrumenter =
    (Entries.get? "instrumenter" coverage).bind (·.field? key)
  unrepeated : (Entries.keys config.coverage.instrumenter).Nodup
  /-- What is passed on is what is not understood here, in some order. -/
  runs : config.runner.extra.Perm (runner.filter (·.1 ∉ ["require", "grep"]))
  runsWritten : ∃ fields, config.runner.toDocument = .record fields ∧
    (Entries.keys fields).Nodup
  transpiles : config.transpiler.options.extra.Perm
    (transpiler.filter (·.1 ∉ ["include", "exclude", "sourceMap", "filename"]))
  transpilesWritten : config.transpiler.options.filename = none ∧ config.transpiler.options.Sealed
  /-- A load names its own file, and passes on the same options. -/
  loads : ∀ pipeline, Pipeline.ofConfig config = .ok pipeline → ∀ file,
    (pipeline.optionsFor file).filename = some file ∧
      (pipeline.optionsFor file).extra = config.transpiler.options.extra ∧
      (pipeline.optionsFor file).Sealed

/-- Transpile options are sealed whatever file they name. -/
theorem sealed_transpilerConfig {entries : Entries Document}
    (distinct : (Entries.keys entries).Nodup) (filename : Option String) :
    { (transpilerConfig entries).options with filename }.Sealed := by
  obtain ⟨unrepeated, free⟩ :=
    Entries.keys_removeAll distinct ["include", "exclude", "sourceMap", "filename"]
  apply TranspileOptions.sealed_of_extra unrepeated
  intro key reserved
  apply free
  simp only [List.mem_cons] at reserved ⊢
  tauto

/-- Every document resolves to a configuration that passes on what the chosen sections give. -/
theorem resolve_passes {document : Document} (distinct : document.KeysDistinct) :
    ∃ runner transpiler coverage,
      Chosen "mocha" "runner" document runner ∧
      Chosen "babel" "transpiler" document transpiler ∧
      Chosen "istanbul" "coverage" document coverage ∧
      (resolve document).Passes runner transpiler coverage := by
  have runner := (distinct.sectionNamed ["mocha", "runner"]).1
  have transpiler := (distinct.sectionNamed ["babel", "transpiler"]).1
  have coverage := distinct.sectionNamed ["istanbul", "coverage"]
  refine ⟨_, _, _, chosen_sectionNamed .., chosen_sectionNamed .., chosen_sectionNamed .., ?_⟩
  constructor
  case uncovered => exact congrArg (· ++ _ ++ _) (getD_bind_patterns? _)
  case untouched => exact congrArg (· ++ _) (getD_bind_patterns? _)
  case records => exact (Entries.get?_insert ..).trans (if_pos rfl)
  case instruments =>
    intro key other
    rw [← Document.get?_entryRecord]
    exact (Entries.get?_insert ..).trans (if_neg other.symm)
  case unrepeated =>
    exact Entries.nodup_keys_insert (coverage.entryRecord "instrumenter").1 _ _
  case runs => exact Entries.removeAll_perm runner _
  case runsWritten =>
    obtain ⟨unrepeated, free⟩ := Entries.keys_removeAll runner ["require", "grep"]
    exact RunnerOptions.toDocument_unrepeated unrepeated free
  case transpiles => exact Entries.removeAll_perm transpiler _
  case transpilesWritten => exact ⟨rfl, sealed_transpilerConfig transpiler none⟩
  case loads =>
    intro pipeline built file
    rw [Pipeline.optionsFor, Pipeline.options_ofConfig built]
    exact ⟨rfl, rfl, sealed_transpilerConfig transpiler (some file)⟩

/-- Options with reserved names, in sections of which one goes by its other name. -/
def reservedOptions : Document :=
  .record
    [("mocha", .null),
      ("runner", .record [("grep", .text "a"), ("ui", .text "bdd"), ("slow", .null)]),
      ("babel", .record [("filename", .text "own.js"), ("sourceMap", .boolean false),
        ("presets", .sequence []), ("ast", .boolean true)]),
      ("istanbul", .record [("exclude", .sequence [.text "lib/*", .null]),
        ("instrumenter", .record [("coverageVariable", .text "own"), ("debug", .null)])]),
      ("tests", .text "spec/*.js")]

theorem resolve_passes_reserved :
    reservedOptions.KeysDistinct ∧
      Entries.keys (resolve reservedOptions).runner.extra = ["slow", "ui"] ∧
      Entries.keys (resolve reservedOptions).transpiler.options.extra = ["presets", "ast"] ∧
      Entries.keys (resolve reservedOptions).coverage.instrumenter =
        ["coverageVariable", "debug"] ∧
      (resolve reservedOptions).coverage.excludes =
        ["lib/*", "**/spec/*.js", dependencyGlob] ∧
      ∃ runner transpiler coverage,
        Chosen "mocha" "runner" reservedOptions runner ∧
        Chosen "babel" "transpiler" reservedOptions transpiler ∧
        Chosen "istanbul" "coverage" reservedOptions coverage ∧
        (resolve reservedOptions).Passes runner transpiler coverage := by
  have distinct : reservedOptions.KeysDistinct := by
    simp [reservedOptions, Document.KeysDistinct, Document.EntriesDistinct,
      Document.ItemsDistinct]
  exact ⟨distinct, rfl, rfl, rfl, rfl, resolve_passes distinct⟩

end Config

end MappedCoverage
