import MappedCoverage.Proofs.Document.Records

/-!
# Shapes of options

An option is read from documents of some shapes only, and from a sequence only its texts are read.
Two records of options from which the same is read resolve to the same, up to the order of what is
passed on.
-/

namespace MappedCoverage.Config

/-! ## Shapes -/

/-- The documents that an option is read from. -/
inductive Shape where
  | text
  | record
  /-- One text or a sequence. -/
  | texts
  /-- A record or a sequence. -/
  | names
  deriving DecidableEq

namespace Shape

/-- Whether a document is read. -/
def admits : Shape → Document → Bool
  | .text, .text _ => true
  | .record, .record _ => true
  | .texts, .text _ => true
  | .texts, .sequence _ => true
  | .names, .record _ => true
  | .names, .sequence _ => true
  | _, _ => false

end Shape

/-- A section of a document, under its two names, and the shapes of the options in it. -/
structure Kind where
  first : String
  second : String
  shapes : Entries Shape
  deriving DecidableEq

/-- The names of a section; if both name a record, the first one counts. -/
def Kind.names (kind : Kind) : List String := [kind.first, kind.second]

/-- Options of the test runner. -/
def runnerKind : Kind where
  first := "mocha"
  second := "runner"
  shapes := [("require", .texts), ("grep", .texts)]

/-- What is transpiled. -/
def transpilerKind : Kind where
  first := "babel"
  second := "transpiler"
  shapes := [("include", .texts), ("exclude", .texts)]

/-- What is instrumented, and which reports are written. -/
def coverageKind : Kind where
  first := "istanbul"
  second := "coverage"
  shapes := [("directory", .text), ("reporters", .names), ("collector", .record),
    ("instrumenter", .record), ("coverageVariable", .text), ("exclude", .texts)]

/-- The sections of a document. -/
def kinds : List Kind := [runnerKind, transpilerKind, coverageKind]

/-- The shapes of tests and sections. -/
def topShapes : Entries Shape :=
  ("tests", .texts) :: (kinds.flatMap Kind.names).map fun name => (name, .record)

/-! ## What is read -/

/-- A sequence without the items that are no texts. -/
def textsAlone : Document → Document
  | .sequence items => .sequence (items.filter (·.asText?.isSome))
  | value => value

namespace Shape

/-- What is read of a document. -/
def reading? (shape : Shape) (value : Document) : Option Document :=
  if shape.admits value then some (textsAlone value) else none

/-- A reader answers only what can be told from what is read of a document of this shape. -/
def Suffices {α : Type} (shape : Shape) (read : Document → Option α) : Prop :=
  ∀ value, (shape.reading? value).bind read = read value

theorem reading?_eq_none {shape : Shape} {value : Document}
    (malformed : shape.admits value = false) : shape.reading? value = none := by
  rw [reading?, malformed]
  rfl

/-- Whether a sequence is read does not depend on its items, and items that are no texts are not
read. -/
theorem reading?_item (shape : Shape) {before after : List Document} {item : Document}
    (other : item.asText? = none) :
    shape.reading? (.sequence (before ++ item :: after)) =
      shape.reading? (.sequence (before ++ after)) := by
  have alone : textsAlone (.sequence (before ++ item :: after)) =
      textsAlone (.sequence (before ++ after)) := by
    simp [textsAlone, other]
  rw [reading?, reading?, alone]
  cases shape <;> rfl

end Shape

/-! ## Readers -/

theorem filterMap_asText?_filter (items : List Document) :
    (items.filter (·.asText?.isSome)).filterMap Document.asText? =
      items.filterMap Document.asText? := by
  induction items with
  | nil => rfl
  | cons item rest ih =>
      cases text : item.asText? with
      | none => simp [text, ih]
      | some own => simp [text, ih]

theorem suffices_patterns? : Shape.texts.Suffices patterns? := by
  intro value
  cases value with
  | sequence items => exact congrArg some (filterMap_asText?_filter items)
  | _ => rfl

theorem suffices_asText? : Shape.text.Suffices Document.asText? := by
  intro value
  cases value <;> rfl

theorem suffices_asRecord? : Shape.record.Suffices Document.asRecord? := by
  intro value
  cases value <;> rfl

/-- The reports of a value. -/
def reporters? : Document → Option (Entries Document)
  | .record reporters => some reporters
  | .sequence names =>
      some (Entries.ofList ((names.filterMap Document.asText?).map fun name => (name, .record [])))
  | _ => none

theorem reporters_eq (entries : Entries Document) :
    reporters entries =
      ((Entries.get? "reporters" entries).bind reporters?).getD defaultReporters := by
  rw [reporters]
  cases Entries.get? "reporters" entries with
  | none => rfl
  | some value => cases value <;> rfl

theorem suffices_reporters? : Shape.names.Suffices reporters? := by
  intro value
  cases value with
  | sequence items =>
      simp only [Shape.reading?, Shape.admits, if_true, textsAlone, Option.bind_some, reporters?,
        filterMap_asText?_filter]
  | _ => rfl

/-! ## Records that are read alike -/

/-- The same is read of two records, and they hold the same entries that are not understood. -/
structure ReadAlike (shapes : Entries Shape) (first second : Entries Document) : Prop where
  options : ∀ key shape, Entries.get? key shapes = some shape →
    (Entries.get? key first).bind shape.reading? = (Entries.get? key second).bind shape.reading?
  others : (first.filter (·.1 ∉ Entries.keys shapes)).Perm
    (second.filter (·.1 ∉ Entries.keys shapes))

namespace ReadAlike

variable {shapes : Entries Shape} {first second : Entries Document}

theorem refl (shapes : Entries Shape) (entries : Entries Document) :
    ReadAlike shapes entries entries :=
  ⟨fun _ _ _ => rfl, List.Perm.refl _⟩

/-- Readers of the understood options answer the same. -/
theorem bind {α : Type} (alike : ReadAlike shapes first second) {key : String} {shape : Shape}
    {read : Document → Option α} (understood : Entries.get? key shapes = some shape)
    (enough : shape.Suffices read) :
    (Entries.get? key first).bind read = (Entries.get? key second).bind read := by
  have own := funext enough
  rw [← own, ← Option.bind_assoc, ← Option.bind_assoc, alike.options key shape understood]

/-- What is passed on is the same, if at least what is understood is taken out. -/
theorem removeAll (alike : ReadAlike shapes first second) (firstOnce : (Entries.keys first).Nodup)
    (secondOnce : (Entries.keys second).Nodup) {removed : List String}
    (all : ∀ key ∈ Entries.keys shapes, key ∈ removed) :
    (Entries.removeAll removed first).Perm (Entries.removeAll removed second) := by
  have unread (entry : String × Document) (left : entry.1 ∉ removed) :
      entry.1 ∉ Entries.keys shapes :=
    mt (all entry.1) left
  have left : (first.filter (·.1 ∉ removed)).Perm (second.filter (·.1 ∉ removed)) := by
    rw [← Entries.filter_filter_of_imp unread first, ← Entries.filter_filter_of_imp unread second]
    exact alike.others.filter _
  have firstLeft := Entries.removeAll_perm firstOnce removed
  have secondLeft := Entries.removeAll_perm secondOnce removed
  exact firstLeft.trans (left.trans secondLeft.symm)

end ReadAlike

/-- Sections that are read alike resolve to the same, where tests are excluded alike. -/
theorem ReadAlike.coverageConfig {first second : Entries Document}
    (alike : ReadAlike coverageKind.shapes first second) (tests : List String) :
    coverageConfig first tests = coverageConfig second tests := by
  have directory : entryText? "directory" first = entryText? "directory" second :=
    alike.bind (by rfl) suffices_asText?
  have reports : reporters first = reporters second := by
    rw [reporters_eq, reporters_eq, alike.bind (by rfl) suffices_reporters?]
  have collector : entryRecord "collector" first = entryRecord "collector" second :=
    congrArg (Option.getD · []) (alike.bind (by rfl) suffices_asRecord?)
  have instrumenter : entryRecord "instrumenter" first = entryRecord "instrumenter" second :=
    congrArg (Option.getD · []) (alike.bind (by rfl) suffices_asRecord?)
  have named : entryText? "coverageVariable" first = entryText? "coverageVariable" second :=
    alike.bind (by rfl) suffices_asText?
  have excludes : entryPatterns? "exclude" first = entryPatterns? "exclude" second :=
    alike.bind (by rfl) suffices_patterns?
  simp only [Config.coverageConfig, directory, reports, collector, instrumenter, named, excludes]

end MappedCoverage.Config
