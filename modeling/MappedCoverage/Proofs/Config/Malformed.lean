import Mathlib.Logic.Relation
import MappedCoverage.Proofs.Config.Shapes

/-!
# Malformed options

What is not read can be taken out of a document, be it an option of another shape than expected, an
item that is no text, or a section that is no record, and a section can be given under its other
name. The document resolves to the same configuration, up to the order of the options that are
passed on.
-/

namespace MappedCoverage.Config

/-! ## Taking out what is not read -/

/-- One malformed option is taken out, or one item that is no text, where the options have the given
shapes. -/
inductive Pruned (shapes : Entries Shape) (entries : Entries Document) :
    Entries Document → Prop where
  | option {key : String} {shape : Shape} {value : Document} {left : Entries Document}
      (understood : Entries.get? key shapes = some shape)
      (found : Entries.get? key entries = some value)
      (malformed : shape.admits value = false)
      (others : left.Perm (entries.filter (·.1 ≠ key))) :
      Pruned shapes entries left
  | item {key : String} {shape : Shape} {before after : List Document} {item : Document}
      (understood : Entries.get? key shapes = some shape)
      (found : Entries.get? key entries = some (.sequence (before ++ item :: after)))
      (other : item.asText? = none) :
      Pruned shapes entries (Entries.insert key (.sequence (before ++ after)) entries)

/-- A document is tidied by one step: something is taken out at its top or within a section, or a
section is given under the name that is free. -/
inductive Tidies : Document → Document → Prop where
  | top {entries left : Entries Document} (pruned : Pruned topShapes entries left) :
      Tidies (.record entries) (.record left)
  | within {kind : Kind} {name : String} {entries options left : Entries Document}
      (known : kind ∈ kinds) (named : name ∈ kind.names)
      (found : Entries.get? name entries = some (.record options))
      (pruned : Pruned kind.shapes options left) :
      Tidies (.record entries) (.record (Entries.insert name (.record left) entries))
  | renamed {kind : Kind} {name other : String} {value : Document}
      {entries left : Entries Document}
      (known : kind ∈ kinds) (named : name ∈ kind.names) (also : other ∈ kind.names)
      (found : Entries.get? name entries = some value)
      (free : Entries.get? other entries = none)
      (moved : left.Perm ((other, value) :: entries.filter (·.1 ≠ name))) :
      Tidies (.record entries) (.record left)

/-- What is taken out has not been read. -/
theorem Pruned.readAlike {shapes : Entries Shape} {entries left : Entries Document}
    (pruned : Pruned shapes entries left) (distinct : (Entries.keys entries).Nodup) :
    ReadAlike shapes entries left := by
  cases pruned with
  | @option key shape value left understood found malformed others =>
      have unread (entry : String × Document) (kept : entry.1 ∉ Entries.keys shapes) :
          entry.1 ≠ key := by
        rintro rfl
        exact kept (Entries.mem_keys_of_get? understood)
      have now := Entries.get?_perm others.symm (Entries.nodup_keys_filter distinct _)
      constructor
      · intro other otherShape known
        rw [← now, Entries.get?_filter_ne]
        by_cases own : key = other
        · subst own
          obtain rfl := Option.some.inj (understood.symm.trans known)
          rw [if_pos rfl, found]
          exact Shape.reading?_eq_none malformed
        · rw [if_neg own]
      · rw [← Entries.filter_filter_of_imp unread entries]
        exact (others.filter _).symm
  | @item key shape before after item understood found other =>
      constructor
      · intro another otherShape known
        rw [Entries.get?_insert]
        by_cases own : key = another
        · subst own
          rw [if_pos rfl, found]
          exact otherShape.reading?_item other
        · rw [if_neg own]
      · rw [Entries.filter_insert (Entries.mem_keys_of_get? understood)]

/-! ## Documents that are read alike -/

/-- The same is read of tests and sections. -/
structure DocumentsAlike (first second : Document) : Prop where
  tests : (first.field? "tests").bind patterns? = (second.field? "tests").bind patterns?
  sections : ∀ kind ∈ kinds,
    ReadAlike kind.shapes (sectionNamed kind.names first) (sectionNamed kind.names second)

/-- Each name belongs to one section. -/
theorem kind_unique : ∀ kind ∈ kinds, ∀ other ∈ kinds, ∀ name ∈ kind.names,
    name ∈ other.names → other = kind := by
  decide

theorem tests_not_mem_names : ∀ kind ∈ kinds, "tests" ∉ kind.names := by
  decide

theorem get?_topShapes : ∀ kind ∈ kinds, ∀ name ∈ kind.names,
    Entries.get? name topShapes = some .record := by
  decide

/-- A section depends on nothing but the records under its names. -/
theorem sectionNamed_congr {first second : Document} {names : List String}
    (each : ∀ name ∈ names, (first.field? name).bind Document.asRecord? =
      (second.field? name).bind Document.asRecord?) :
    sectionNamed names first = sectionNamed names second := by
  unfold sectionNamed
  induction names with
  | nil => rfl
  | cons name names ih =>
      obtain ⟨own, others⟩ := List.forall_mem_cons.mp each
      rw [List.findSome?_cons, List.findSome?_cons, own]
      cases (second.field? name).bind Document.asRecord? with
      | none => exact ih others
      | some entries => rfl

/-- Where one record takes the place of another, it is the section that the other was, or neither
is. -/
theorem sectionNamed_insert {name : String} {entries options : Entries Document}
    (found : Entries.get? name entries = some (.record options)) (left : Entries Document)
    (names : List String) :
    (name ∈ names ∧ sectionNamed names (.record entries) = options ∧
        sectionNamed names (.record (Entries.insert name (.record left) entries)) = left) ∨
      sectionNamed names (.record entries) =
        sectionNamed names (.record (Entries.insert name (.record left) entries)) := by
  unfold sectionNamed
  induction names with
  | nil => exact Or.inr rfl
  | cons other names ih =>
      rw [List.findSome?_cons, List.findSome?_cons]
      simp only [Document.field?, Entries.get?_insert] at ih ⊢
      by_cases own : name = other
      · subst own
        rw [if_pos rfl, found]
        exact Or.inl ⟨List.mem_cons_self, rfl, rfl⟩
      · rw [if_neg own]
        cases (Entries.get? other entries).bind Document.asRecord? with
        | none => exact ih.imp_left fun held => ⟨List.mem_cons_of_mem other held.1, held.2⟩
        | some others => exact Or.inr rfl

/-- A section that stands under one name is the same under its other name. -/
theorem sectionNamed_renamed {kind : Kind} {name other : String} {value : Document}
    {entries left : Entries Document} (named : name ∈ kind.names) (also : other ∈ kind.names)
    (found : Entries.get? name entries = some value)
    (free : Entries.get? other entries = none)
    (now : ∀ key, Entries.get? key left =
      if other = key then some value else if name = key then none else Entries.get? key entries) :
    sectionNamed kind.names (.record entries) = sectionNamed kind.names (.record left) := by
  have apart : name ≠ other := by
    rintro rfl
    cases free.symm.trans found
  have moved : Entries.get? other left = some value := (now other).trans (if_pos rfl)
  have gone : Entries.get? name left = none := by
    rw [now, if_neg apart.symm, if_pos rfl]
  have places : name = kind.first ∧ other = kind.second ∨
      name = kind.second ∧ other = kind.first := by
    simp only [Kind.names, List.mem_cons, List.not_mem_nil, or_false] at named also
    grind
  rw [sectionNamed, sectionNamed, Kind.names]
  rcases places with ⟨rfl, rfl⟩ | ⟨rfl, rfl⟩ <;>
    simp only [Document.field?, found, free, moved, gone, Option.bind_some, Option.bind_none,
      List.findSome?_cons, List.findSome?_nil]

/-! ## One step -/

theorem get?_renamed {name other : String} {value : Document} {entries left : Entries Document}
    (distinct : (Entries.keys left).Nodup)
    (moved : left.Perm ((other, value) :: entries.filter (·.1 ≠ name))) (key : String) :
    Entries.get? key left =
      if other = key then some value
      else if name = key then none else Entries.get? key entries := by
  rw [Entries.get?_perm moved distinct, Entries.get?, Entries.get?_filter_ne]

theorem Pruned.keysDistinct {shapes : Entries Shape} {entries left : Entries Document}
    (pruned : Pruned shapes entries left) (distinct : (Document.record entries).KeysDistinct) :
    (Document.record left).KeysDistinct := by
  cases pruned with
  | option _ _ _ others => exact (distinct.filter _).perm others.symm
  | @item key shape before after item _ found other =>
      apply distinct.insert key
      have each := Document.itemsDistinct_iff.mp (distinct.field? found)
      apply Document.itemsDistinct_iff.mpr
      intro kept inside
      apply each
      rw [List.mem_append, List.mem_cons]
      exact (List.mem_append.mp inside).imp_right Or.inr

theorem Tidies.keysDistinct {document tidied : Document} (tidies : Tidies document tidied)
    (distinct : document.KeysDistinct) : tidied.KeysDistinct := by
  cases tidies with
  | top pruned => exact pruned.keysDistinct distinct
  | within _ _ found pruned =>
      exact distinct.insert _ (pruned.keysDistinct (distinct.field? found))
  | @renamed kind name other value entries left _ _ _ found free moved =>
      apply Document.KeysDistinct.perm _ moved.symm
      apply (distinct.filter _).cons (distinct.field? found)
      rw [← Entries.get?_eq_none_iff, Entries.get?_filter_ne]
      split
      · rfl
      · exact free

/-- What is read of a document stays when it is tidied. -/
theorem Tidies.alike {document tidied : Document} (tidies : Tidies document tidied)
    (distinct : document.KeysDistinct) (stillDistinct : tidied.KeysDistinct) :
    DocumentsAlike document tidied := by
  cases tidies with
  | @top entries left pruned =>
      have alike := pruned.readAlike distinct.1
      constructor
      case tests => exact alike.bind (by rfl) suffices_patterns?
      case sections =>
        intro kind known
        have same : sectionNamed kind.names (.record entries) =
            sectionNamed kind.names (.record left) := by
          apply sectionNamed_congr
          intro name named
          exact alike.bind (get?_topShapes kind known name named) suffices_asRecord?
        rw [same]
        exact ReadAlike.refl _ _
  | @within kind name entries options left known named found pruned =>
      have apart : name ≠ "tests" := by
        rintro rfl
        exact tests_not_mem_names kind known named
      have alike := pruned.readAlike (distinct.field? found).1
      constructor
      case tests =>
        simp only [Document.field?, Entries.get?_insert, if_neg apart]
      case sections =>
        intro other otherKnown
        -- A name belongs to one section, so no other section holds the record that was pruned.
        rcases sectionNamed_insert found left other.names with ⟨inside, old, new⟩ | same
        · obtain rfl := kind_unique kind known other otherKnown name named inside
          rw [old, new]
          exact alike
        · rw [same]
          exact ReadAlike.refl _ _
  | @renamed kind name other value entries left known named also found free moved =>
      have now := get?_renamed stillDistinct.1 moved
      have others (key : String) (outside : key ∉ kind.names) :
          Entries.get? key left = Entries.get? key entries := by
        have notOther : other ≠ key := fun same => outside (same ▸ also)
        have notName : name ≠ key := fun same => outside (same ▸ named)
        rw [now, if_neg notOther, if_neg notName]
      constructor
      case tests =>
        simp only [Document.field?, others "tests" (tests_not_mem_names kind known)]
      case sections =>
        intro own ownKnown
        by_cases same : own = kind
        · subst same
          rw [sectionNamed_renamed named also found free now]
          exact ReadAlike.refl _ _
        · rw [sectionNamed_congr]
          · exact ReadAlike.refl _ _
          · intro key keyed
            have outside : key ∉ kind.names :=
              fun inside => same (kind_unique kind known own ownKnown key inside keyed)
            simp only [Document.field?, others key outside]

/-! ## Configurations that agree -/

/-- Two configurations are equal, up to the order of the options that are passed on. -/
structure Agrees (first second : Config) : Prop where
  tests : first.tests = second.tests
  require : first.runner.require = second.runner.require
  grep : first.runner.grep = second.runner.grep
  runs : first.runner.extra.Perm second.runner.extra
  includes : first.transpiler.includes = second.transpiler.includes
  excludes : first.transpiler.excludes = second.transpiler.excludes
  filename : first.transpiler.options.filename = second.transpiler.options.filename
  transpiles : first.transpiler.options.extra.Perm second.transpiler.options.extra
  coverage : first.coverage = second.coverage

namespace Agrees

variable {first second third : Config}

theorem refl (config : Config) : Agrees config config :=
  ⟨rfl, rfl, rfl, List.Perm.refl _, rfl, rfl, rfl, List.Perm.refl _, rfl⟩

theorem trans (left : Agrees first second) (right : Agrees second third) : Agrees first third where
  tests := left.tests.trans right.tests
  require := left.require.trans right.require
  grep := left.grep.trans right.grep
  runs := left.runs.trans right.runs
  includes := left.includes.trans right.includes
  excludes := left.excludes.trans right.excludes
  filename := left.filename.trans right.filename
  transpiles := left.transpiles.trans right.transpiles
  coverage := left.coverage.trans right.coverage

end Agrees

theorem DocumentsAlike.agrees {first second : Document} (alike : DocumentsAlike first second)
    (firstDistinct : first.KeysDistinct) (secondDistinct : second.KeysDistinct) :
    Agrees (resolve first) (resolve second) := by
  have runner := alike.sections runnerKind (by decide)
  have transpiler := alike.sections transpilerKind (by decide)
  have coverage := alike.sections coverageKind (by decide)
  have tests : (resolve first).tests = (resolve second).tests :=
    congrArg (Option.getD · [defaultTest]) alike.tests
  constructor
  case tests => exact tests
  case require => exact congrArg (Option.getD · []) (runner.bind (by rfl) suffices_patterns?)
  case grep =>
    exact congrArg (fun found => (Option.getD found []).filterMap Grep.compile?)
      (runner.bind (by rfl) suffices_patterns?)
  case runs =>
    exact runner.removeAll (firstDistinct.sectionNamed _).1 (secondDistinct.sectionNamed _).1
      (by decide)
  case includes =>
    exact congrArg (Option.getD · defaultIncludes) (transpiler.bind (by rfl) suffices_patterns?)
  case excludes =>
    exact congrArg (Option.getD · [] ++ [dependencyGlob])
      (transpiler.bind (by rfl) suffices_patterns?)
  case filename => rfl
  case transpiles =>
    exact transpiler.removeAll (firstDistinct.sectionNamed _).1
      (secondDistinct.sectionNamed _).1 (by decide)
  case coverage =>
    calc (resolve first).coverage
      _ = coverageConfig (sectionNamed coverageKind.names second) (resolve first).tests :=
        coverage.coverageConfig _
      _ = (resolve second).coverage := congrArg _ tests

/-- No comparison tells configurations apart that agree, if no passed option is named twice. -/
theorem Agrees.same {first second : Config} (agrees : Agrees first second)
    (runs : (Entries.keys first.runner.extra).Nodup)
    (transpiles : (Entries.keys first.transpiler.options.extra).Nodup) (other : Config) :
    first.same other = second.same other ∧ other.same first = other.same second := by
  have passed := Document.sameRecord_perm agrees.runs runs other.runner.extra
  have alsoPassed :=
    Document.sameRecord_perm agrees.transpiles transpiles other.transpiler.options.extra
  simp only [Config.same, RunnerOptions.same, TranspilerConfig.same, TranspileOptions.same,
    agrees.tests, agrees.require, agrees.grep, agrees.includes, agrees.excludes, agrees.filename,
    agrees.coverage, passed, alsoPassed, and_self]

/-- Tidying one thing changes no configuration. -/
theorem Tidies.agrees {document tidied : Document} (tidies : Tidies document tidied)
    (distinct : document.KeysDistinct) : Agrees (resolve document) (resolve tidied) := by
  have stillDistinct := tidies.keysDistinct distinct
  exact (tidies.alike distinct stillDistinct).agrees distinct stillDistinct

/-- Options and items that are not read can be taken out of a document, and sections be given under
their other names, in any number of steps: the document resolves to the same configuration, up to
the order of the options that are passed on, and no comparison tells the two apart. -/
theorem resolve_tidied {document tidied : Document} (distinct : document.KeysDistinct)
    (tidies : Relation.ReflTransGen Tidies document tidied) :
    Agrees (resolve document) (resolve tidied) ∧
      ∀ other, (resolve document).same other = (resolve tidied).same other ∧
        other.same (resolve document) = other.same (resolve tidied) := by
  have run : tidied.KeysDistinct ∧ Agrees (resolve document) (resolve tidied) := by
    induction tidies with
    | refl => exact ⟨distinct, Agrees.refl _⟩
    | tail _ last ih =>
        obtain ⟨stillDistinct, agrees⟩ := ih
        exact ⟨last.keysDistinct stillDistinct, agrees.trans (last.agrees stillDistinct)⟩
  have runs := Entries.keys_removeAll (distinct.sectionNamed ["mocha", "runner"]).1
  have transpiles := Entries.keys_removeAll (distinct.sectionNamed ["babel", "transpiler"]).1
  exact ⟨run.2, run.2.same (runs _).1 (transpiles _).1⟩

/-- Two options that are passed on. -/
def passedOptions : Entries Document := [("slow", .null), ("ui", .text "bdd")]

/-- A section that is no record, an option without patterns, and an item that is no text. -/
def sloppy : Document :=
  .record
    [("mocha", .text "bdd"), ("runner", .record (("grep", .null) :: passedOptions)),
      ("tests", .sequence [.text "a.js", .null])]

/-- The same without what is not read, and with the section under its other name. -/
def tidy : Document :=
  .record [("mocha", .record passedOptions), ("tests", .sequence [.text "a.js"])]

theorem resolve_tidied_sloppy :
    sloppy.KeysDistinct ∧ Relation.ReflTransGen Tidies sloppy tidy ∧
      Entries.keys (resolve sloppy).runner.extra = ["ui", "slow"] ∧
      Entries.keys (resolve tidy).runner.extra = ["slow", "ui"] ∧
      Agrees (resolve sloppy) (resolve tidy) ∧
      ∀ other, (resolve sloppy).same other = (resolve tidy).same other ∧
        other.same (resolve sloppy) = other.same (resolve tidy) := by
  have distinct : sloppy.KeysDistinct := by
    simp [sloppy, passedOptions, Document.KeysDistinct, Document.EntriesDistinct,
      Document.ItemsDistinct]
  have run : Relation.ReflTransGen Tidies sloppy tidy := by
    apply Relation.ReflTransGen.head
    · exact .top (@Pruned.option _ _ "mocha" .record (.text "bdd") _ rfl rfl rfl (.refl _))
    apply Relation.ReflTransGen.head
    · exact @Tidies.within runnerKind "runner" _ _ _ (by decide) (by decide) rfl
        (@Pruned.option _ _ "grep" .texts .null _ rfl rfl rfl (.refl _))
    apply Relation.ReflTransGen.head
    · exact .top (@Pruned.item _ _ "tests" .texts [.text "a.js"] [] .null rfl rfl rfl)
    apply Relation.ReflTransGen.single
    exact @Tidies.renamed runnerKind "runner" "mocha" (.record passedOptions) _ _ (by decide)
      (by decide) (by decide) rfl rfl (.refl _)
  exact ⟨distinct, run, rfl, rfl, resolve_tidied distinct run⟩

end MappedCoverage.Config
