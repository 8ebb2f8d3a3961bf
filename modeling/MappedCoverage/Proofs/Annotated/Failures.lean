import MappedCoverage.Proofs.Annotated.Sources
import MappedCoverage.Proofs.SourceMap.Bounds

/-!
# Failures of annotating

A text stays as it is when it has no map comment, when its comment does not carry a source map, and
when the map has no content for its first source. Any other text is laid out beside this content,
and the only way to fail is a column that is too wide for a line that a mapping names.
-/

namespace MappedCoverage.Annotated

open SourceMap (IsComment findPayload? extract? readWritten readMappings)

/-! ## Texts without a usable map -/

/-- The last map comment of a text carries another text. -/
def Carries (text json : String) : Prop :=
  ∃ payload bytes, findPayload? text = some payload ∧ Base64.decode payload.toList = .ok bytes ∧
    String.fromUTF8? ⟨bytes.toArray⟩ = some json

/-- Why a text has nothing that could be shown beside it. -/
inductive Unusable (text : String) : Prop where
  | uncommented (none : ∀ line ∈ Text.lines text, ∀ payload, ¬ IsComment line payload)
  | base64 {payload : String} {flaw : Base64.Flaw} (found : findPayload? text = some payload)
      (flawed : Base64.decode payload.toList = .error flaw)
  | utf8 {payload : String} {bytes : List UInt8} (found : findPayload? text = some payload)
      (decoded : Base64.decode payload.toList = .ok bytes)
      (flawed : String.fromUTF8? ⟨bytes.toArray⟩ = none)
  | json {json : String} {fault : Json.Fault} (carried : Carries text json)
      (flawed : Json.finish (readWritten json.toList) = .error fault)
  | mappings {json : String} {written : SourceMap.Written} {malformed : SourceMap.Malformed}
      (carried : Carries text json) (read : Json.finish (readWritten json.toList) = .ok written)
      (flawed : readMappings (written.mappings.getD "") = .error malformed)
  | sources {map : SourceMap} (extracted : extract? text = .ok (some map))
      (none : map.sources = [])
  | content {map : SourceMap} (extracted : extract? text = .ok (some map))
      (none : ∀ content, map.contents.head? ≠ some (some content))

variable {text json : String}

theorem Carries.extract?_eq (carried : Carries text json) :
    extract? text = (SourceMap.ofJson json).map some := by
  obtain ⟨payload, bytes, found, decoded, read⟩ := carried
  simp only [extract?, found, SourceMap.ofPayload, decoded, Except.mapError, bind, Except.bind,
    read]

theorem ofJson_of_fault {fault : Json.Fault}
    (flawed : Json.finish (readWritten json.toList) = .error fault) :
    SourceMap.ofJson json = .error (.json fault json) := by
  rw [SourceMap.ofJson, flawed]
  rfl

theorem ofJson_of_written {written : SourceMap.Written}
    (read : Json.finish (readWritten json.toList) = .ok written) :
    SourceMap.ofJson json = written.sourceMap.mapError .mapping := by
  rw [SourceMap.ofJson, read]
  rfl

theorem firstContent_eq_ok_iff {map : SourceMap} {source : String} :
    map.firstContent = .ok source ↔
      map.sources ≠ [] ∧ map.contents.head? = some (some source) := by
  unfold SourceMap.firstContent
  cases map.sources with
  | nil => simp
  | cons first others =>
      cases map.contents with
      | nil => simp
      | cons content rest => cases content <;> simp

/-- Fields that were read fail by their mappings, by the first source or by its content. -/
theorem unusable_of_written {written : SourceMap.Written} (carried : Carries text json)
    (read : Json.finish (readWritten json.toList) = .ok written)
    (useless : ∀ map source, extract? text = .ok (some map) → map.firstContent ≠ .ok source) :
    Unusable text := by
  cases lines : readMappings (written.mappings.getD "") with
  | error malformed => exact .mappings carried read lines
  | ok mappings =>
      have extracted : extract? text = .ok (some {
          sources := (written.sources.getD []).map (·.getD "")
          contents := written.contents.getD []
          mappings }) := by
        rw [carried.extract?_eq, ofJson_of_written read, SourceMap.Written.sourceMap, lines]
        rfl
      by_cases none : (written.sources.getD []).map (·.getD "") = []
      · exact .sources extracted none
      · refine .content extracted fun content found => ?_
        exact useless _ content extracted (firstContent_eq_ok_iff.mpr ⟨none, found⟩)

/-- A text is usable exactly when it has a source map with content for its first source. -/
theorem unusable_iff :
    Unusable text ↔
      ∀ map source, extract? text = .ok (some map) → map.firstContent ≠ .ok source := by
  constructor
  · intro unusable map source extracted content
    cases unusable with
    | uncommented none =>
        rw [extract?, SourceMap.findPayload?_eq_none_iff.mpr none] at extracted
        cases extracted
    | base64 found flawed =>
        simp [extract?, found, SourceMap.ofPayload, flawed, Except.mapError, bind, Except.bind,
          Except.map] at extracted
    | utf8 found decoded flawed =>
        simp [extract?, found, SourceMap.ofPayload, decoded, flawed, Except.mapError, bind,
          Except.bind, Except.map] at extracted
    | json carried flawed =>
        rw [carried.extract?_eq, ofJson_of_fault flawed] at extracted
        cases extracted
    | mappings carried read flawed =>
        rw [carried.extract?_eq, ofJson_of_written read, SourceMap.Written.sourceMap,
          flawed] at extracted
        cases extracted
    | sources extractedOther none =>
        obtain rfl := Option.some.inj (Except.ok.inj (extracted.symm.trans extractedOther))
        exact (firstContent_eq_ok_iff.mp content).1 none
    | content extractedOther none =>
        obtain rfl := Option.some.inj (Except.ok.inj (extracted.symm.trans extractedOther))
        exact none source (firstContent_eq_ok_iff.mp content).2
  · intro useless
    cases found : findPayload? text with
    | none => exact .uncommented (SourceMap.findPayload?_eq_none_iff.mp found)
    | some payload =>
        cases decoded : Base64.decode payload.toList with
        | error flaw => exact .base64 found decoded
        | ok bytes =>
            cases read : String.fromUTF8? ⟨bytes.toArray⟩ with
            | none => exact .utf8 found decoded read
            | some json =>
                have carried : Carries text json := ⟨payload, bytes, found, decoded, read⟩
                cases fields : Json.finish (readWritten json.toList) with
                | error fault => exact .json carried fields
                | ok written => exact unusable_of_written carried fields useless

theorem not_unusable_iff :
    ¬ Unusable text ↔
      ∃ map source, extract? text = .ok (some map) ∧ map.firstContent = .ok source := by
  rw [unusable_iff]
  simp only [not_forall, not_not, exists_prop]

/-! ## Annotating -/

theorem annotate?_of_unusable (unusable : Unusable text) : annotate? text = some text := by
  have useless := unusable_iff.mp unusable
  rw [annotate?, attempt]
  cases extracted : extract? text with
  | error fault => rfl
  | ok found =>
      cases found with
      | none => rfl
      | some map =>
          cases content : map.firstContent with
          | error fault => simp only [content]
          | ok source => exact absurd content (useless map source extracted)

theorem annotate?_of_extract? {source : String} {map : SourceMap}
    (extracted : extract? text = .ok (some map)) (content : map.firstContent = .ok source) :
    annotate? text = render? text source map.mappings := by
  rw [annotate?, attempt_of_extract? extracted content]
  cases render? text source map.mappings <;> rfl

/-- Nothing is shown exactly when a line is mapped and a column is too wide. -/
theorem render?_eq_none_iff {generated source : String} {mappings : List SourceMap.LineMapping} :
    render? generated source mappings = none ↔
      mappedNumbers (Text.lines generated) mappings ≠ [] ∧
        (widthLimit < widestLine (Text.lines generated) mappings + 3 ∨
          widthLimit < widestLabel (Text.lines generated) mappings + 1) := by
  rw [render?_eq_ite, ite_eq_right_iff, Fits]
  simp only [reduceCtorEq, imp_false, not_or, not_and_or, Nat.not_le]

/-- Nothing comes out exactly when the text is usable and what it carries is too wide. -/
theorem annotate?_eq_none_iff :
    annotate? text = none ↔
      ∃ map source, extract? text = .ok (some map) ∧ map.firstContent = .ok source ∧
        mappedNumbers (Text.lines text) map.mappings ≠ [] ∧
        (widthLimit < widestLine (Text.lines text) map.mappings + 3 ∨
          widthLimit < widestLabel (Text.lines text) map.mappings + 1) := by
  constructor
  · intro failed
    have usable : ¬ Unusable text := fun unusable => by
      rw [annotate?_of_unusable unusable] at failed
      cases failed
    obtain ⟨map, source, extracted, content⟩ := not_unusable_iff.mp usable
    rw [annotate?_of_extract? extracted content] at failed
    exact ⟨map, source, extracted, content, render?_eq_none_iff.mp failed⟩
  · rintro ⟨map, source, extracted, content, wide⟩
    rw [annotate?_of_extract? extracted content]
    exact render?_eq_none_iff.mpr wide

/--
Annotating fails exactly when a text has a source map with content for its first source, a mapping
names one of the shown lines, and a column is too wide for such a line or its label. A text without
a usable map stays as it is, and any other is rendered. On these ways every shown line has its place
in the table of source lines, each width is the length of a line or a label, and reading numbers
keeps its bounds.
-/
theorem annotate?_fails_by_width (generated : String) :
    (annotate? generated = none ↔
        ∃ map source, extract? generated = .ok (some map) ∧ map.firstContent = .ok source ∧
          mappedNumbers (Text.lines generated) map.mappings ≠ [] ∧
          (widthLimit < widestLine (Text.lines generated) map.mappings + 3 ∨
            widthLimit < widestLabel (Text.lines generated) map.mappings + 1)) ∧
      (Unusable generated → annotate? generated = some generated) ∧
      (¬ Unusable generated →
        ∃ map source, extract? generated = .ok (some map) ∧ map.firstContent = .ok source ∧
          annotate? generated = render? generated source map.mappings) ∧
      (∀ mappings, ∀ number ∈ shownNumbers (Text.lines generated),
        ∃ origins, (originTable (Text.lines generated).length mappings)[number]? = some origins) ∧
      (∀ mappings, mappedNumbers (Text.lines generated) mappings ≠ [] →
        (∃ number ∈ mappedNumbers (Text.lines generated) mappings,
          widestLine (Text.lines generated) mappings =
            (lineAt (Text.lines generated) number).length) ∧
        ∃ number ∈ mappedNumbers (Text.lines generated) mappings,
          widestLabel (Text.lines generated) mappings =
            (label (originsOf number mappings)).length) ∧
      ∀ (text : List Char) (state : SourceMap.Partial),
        text.foldlM SourceMap.Partial.step .start = some state → state.Bounded := by
  refine ⟨annotate?_eq_none_iff, annotate?_of_unusable, ?_, ?_, ?_, ?_⟩
  · intro usable
    obtain ⟨map, source, extracted, content⟩ := not_unusable_iff.mp usable
    exact ⟨map, source, extracted, content, annotate?_of_extract? extracted content⟩
  · intro mappings number shown
    exact ⟨_, originTable_getElem? mappings (Nat.le_of_lt (mem_shownNumbers.mp shown).2)⟩
  · intro mappings named
    exact ⟨greatest_map_attained named _, greatest_map_attained named _⟩
  · exact fun _ _ read => SourceMap.Partial.bounded_of_foldlM read

theorem mappedNumbers_lineWith {line : List Char} {json : String} (free : '\n' ∉ line) :
    mappedNumbers (Text.lines (lineWith line json)) [⟨1, 1, 0⟩] = [1] := by
  rw [lines_lineWith free]
  rfl

theorem widestLine_lineWith {line : List Char} {json : String} (free : '\n' ∉ line) :
    widestLine (Text.lines (lineWith line json)) [⟨1, 1, 0⟩] = line.length := by
  rw [widestLine, mappedNumbers_lineWith free, lines_lineWith free]
  exact Nat.max_zero _

/-- A mapped line of 65533 characters is too long to be shown, and a map without sources changes
nothing. -/
theorem annotate?_fails_by_width_long :
    annotate? (lineWith ('x' :: List.replicate 65532 'x') firstMap) = none ∧
      annotate? (lineWith ['a'] "\x7b\x7d") = some (lineWith ['a'] "\x7b\x7d") := by
  have plain (more : Nat) : '\n' ∉ 'x' :: List.replicate more 'x' := by simp [List.mem_replicate]
  have sourceless : extract? (lineWith ['a'] "\x7b\x7d") = .ok (some ⟨[], [], []⟩) :=
    extract?_lineWith (by decide) rfl (by decide) rfl
  refine ⟨(annotate?_fails_by_width _).1.mpr
      ⟨_, "x", extract?_firstMap (plain _) rfl, rfl, ?_, Or.inl ?_⟩,
    (annotate?_fails_by_width _).2.1 (.sources sourceless rfl)⟩
  · rw [mappedNumbers_lineWith (plain _)]
    exact List.cons_ne_nil _ _
  · rw [widestLine_lineWith (plain _), List.length_cons, List.length_replicate]
    decide

end MappedCoverage.Annotated
