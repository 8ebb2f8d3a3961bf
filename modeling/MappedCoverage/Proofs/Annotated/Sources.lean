import MappedCoverage.Proofs.Annotated.Comments
import MappedCoverage.Proofs.Annotated.Layout

/-!
# Sources of annotated code

Beside a shown line stand the source lines of all its mappings, with the text that the first source
has there. The number of the source in a mapping makes no difference: mappings of other sources are
shown like those of the first, and maps that differ in these numbers only are shown alike.
-/

namespace MappedCoverage.Annotated

open SourceMap (extract? writeComment)

/-- The generated line and the source line of a mapping, without the number of the source. -/
def linePair (mapping : SourceMap.LineMapping) : Nat × Nat :=
  (mapping.generatedLine, mapping.sourceLine)

theorem originsOf_eq_linePairs (number : Nat) (mappings : List SourceMap.LineMapping) :
    originsOf number mappings =
      (((mappings.map linePair).filter (·.1 = number)).map (·.2)).eraseDups := by
  rw [originsOf, List.filter_map, List.map_map]
  rfl

theorem mem_originsOf {origin number : Nat} {mappings : List SourceMap.LineMapping} :
    origin ∈ originsOf number mappings ↔
      ∃ mapping ∈ mappings, mapping.generatedLine = number ∧ mapping.sourceLine = origin := by
  simp [originsOf, and_assoc]

theorem agree_of_linePairs {lines : List (List Char)} {first second : List SourceMap.LineMapping}
    (same : first.map linePair = second.map linePair) : Agree lines first second := by
  intro number _
  rw [originsOf_eq_linePairs, originsOf_eq_linePairs, same]

section

variable {generated source : String} {map : SourceMap}

theorem attempt_of_extract? (extracted : extract? generated = .ok (some map))
    (content : map.firstContent = .ok source) :
    attempt generated = (render? generated source map.mappings).elim .tooWide .annotated := by
  simp only [attempt, extracted, content]
  cases render? generated source map.mappings <;> rfl

/-- The lines of annotated code are the rows of the generated ones. -/
theorem lineAt_render? {text : String} {mappings : List SourceMap.LineMapping} {number : Nat}
    (rendered : render? generated source mappings = some text)
    (first : 1 ≤ number) (last : number < (Text.lines generated).length) :
    lineAt (Text.lines text) number =
      shownRow (Text.lines generated) (Text.lines source) mappings number := by
  have long : 2 ≤ (Text.lines generated).length := by omega
  exact (write?_rowAt_eq_some_iff.mp (write?_lineAt long rendered first last)).2.symm

/--
What stands beside a line comes from its mappings, whatever their sources are: the label has exactly
the source lines of these mappings, and the text is that of the first source there. So code with two
maps that differ in the sources of their mappings only is shown alike.
-/
theorem attempt_ignores_sources (extracted : extract? generated = .ok (some map))
    (content : map.firstContent = .ok source) :
    (∀ text, attempt generated = .annotated text →
        ∀ number, 1 ≤ number → number < (Text.lines generated).length →
          ((∀ mapping ∈ map.mappings, mapping.generatedLine ≠ number) →
            lineAt (Text.lines text) number = lineAt (Text.lines generated) number) ∧
          ((∃ mapping ∈ map.mappings, mapping.generatedLine = number) →
            ∃ origins lineWidth labelWidth,
              lineAt (Text.lines text) number =
                (lineAt (Text.lines generated) number).rightpad lineWidth ' '
                  ++ (label origins).rightpad labelWidth ' ' ++ ['|', ' ']
                  ++ origins.flatMap (lineAt (Text.lines source)) ∧
              ∀ origin, origin ∈ origins ↔ ∃ mapping ∈ map.mappings,
                mapping.generatedLine = number ∧ mapping.sourceLine = origin)) ∧
      ∀ other otherMap, extract? other = .ok (some otherMap) →
        otherMap.firstContent = .ok source →
        (Text.lines generated).dropLast = (Text.lines other).dropLast →
        map.mappings.map linePair = otherMap.mappings.map linePair →
          attempt other = attempt generated := by
  constructor
  · intro text annotated number first last
    obtain ⟨found, original, foundIn, contentOf, rendered⟩ := attempt_eq_annotated_iff.mp annotated
    obtain rfl := Option.some.inj (Except.ok.inj (extracted.symm.trans foundIn))
    obtain rfl := Except.ok.inj (content.symm.trans contentOf)
    rw [lineAt_render? rendered first last, shownRow]
    constructor
    · intro none
      rw [if_pos (originsOf_eq_nil_iff.mpr none)]
    · rintro ⟨mapping, inside, names⟩
      have mapped : originsOf number map.mappings ≠ [] := fun none =>
        originsOf_eq_nil_iff.mp none mapping inside names
      rw [if_neg mapped]
      exact ⟨_, _, _, rfl, fun origin => mem_originsOf⟩
  · intro other otherMap extractedOther contentOther code same
    have rendered := (agree_of_linePairs same).render?_eq code source
    rw [attempt_of_extract? extracted content, attempt_of_extract? extractedOther contentOther,
      rendered]

end

/-- A line of code with a map. -/
def lineWith (line : List Char) (json : String) : String :=
  Text.ofLines [line, writeComment none json]

section

variable {line : List Char} {json : String} {map : SourceMap}

theorem lines_lineWith (free : '\n' ∉ line) :
    Text.lines (lineWith line json) = [line, writeComment none json] :=
  Text.lines_ofLines (List.cons_ne_nil _ _)
    (by simp [free, SourceMap.newline_not_mem_writeComment])

theorem dropLast_lines_lineWith (free : '\n' ∉ line) :
    (Text.lines (lineWith line json)).dropLast = [line] := by
  rw [lines_lineWith free]
  rfl

theorem extract?_lineWith (free : '\n' ∉ line) (code : SourceMap.payload? line = none)
    (nonempty : Base64.encode json.toUTF8.data.toList ≠ [])
    (read : SourceMap.ofJson json = .ok map) :
    extract? (lineWith line json) = .ok (some map) := by
  rw [lineWith, SourceMap.extract?_line_writeComment free code nonempty, read]
  rfl

/-- A line of code is shown as if a line break followed and not the map. -/
theorem attempt_lineWith {source text : String}
    (extracted : extract? (lineWith ['a'] json) = .ok (some map))
    (content : map.firstContent = .ok source)
    (rendered : render? "a\n" source map.mappings = some text) :
    attempt (lineWith ['a'] json) = .annotated text := by
  have agree : Agree (Text.lines (lineWith ['a'] json)) map.mappings map.mappings :=
    fun _ _ => rfl
  have code : (Text.lines (lineWith ['a'] json)).dropLast = (Text.lines "a\n").dropLast :=
    dropLast_lines_lineWith (by decide)
  rw [attempt_of_extract? extracted content, agree.render?_eq code, rendered, Option.elim_some]

end

/-- A map of two sources with a mapping of the first one. -/
def firstMap : String :=
  "\x7b\"sources\":[\"s\",\"t\"],\"sourcesContent\":[\"x\",\"y\"],\"mappings\":\"AAAA\"\x7d"

/-- The same map with a mapping of the second source. -/
def secondMap : String :=
  "\x7b\"sources\":[\"s\",\"t\"],\"sourcesContent\":[\"x\",\"y\"],\"mappings\":\"ACAA\"\x7d"

/-- The same map without mappings. -/
def emptyMap : String :=
  "\x7b\"sources\":[\"s\",\"t\"],\"sourcesContent\":[\"x\",\"y\"],\"mappings\":\"\"\x7d"

theorem extract?_firstMap {line : List Char} (free : '\n' ∉ line)
    (code : SourceMap.payload? line = none) :
    extract? (lineWith line firstMap) =
      .ok (some ⟨["s", "t"], [some "x", some "y"], [⟨1, 1, 0⟩]⟩) :=
  extract?_lineWith free code (by decide) rfl

theorem extract?_secondMap :
    extract? (lineWith ['a'] secondMap) =
      .ok (some ⟨["s", "t"], [some "x", some "y"], [⟨1, 1, 1⟩]⟩) :=
  extract?_lineWith (by decide) rfl (by decide) rfl

/-- A mapping of the second source is shown like one of the first. -/
theorem attempt_ignores_sources_second :
    extract? (lineWith ['a'] firstMap) =
        .ok (some ⟨["s", "t"], [some "x", some "y"], [⟨1, 1, 0⟩]⟩) ∧
      extract? (lineWith ['a'] secondMap) =
        .ok (some ⟨["s", "t"], [some "x", some "y"], [⟨1, 1, 1⟩]⟩) ∧
      attempt (lineWith ['a'] firstMap) = attempt (lineWith ['a'] secondMap) := by
  have first : extract? (lineWith ['a'] firstMap) = _ := extract?_firstMap (by decide) rfl
  have code : (Text.lines (lineWith ['a'] secondMap)).dropLast =
      (Text.lines (lineWith ['a'] firstMap)).dropLast := by
    rw [dropLast_lines_lineWith (by decide), dropLast_lines_lineWith (by decide)]
  exact ⟨first, extract?_secondMap,
    (attempt_ignores_sources extract?_secondMap rfl).2 _ _ first rfl code rfl⟩

/-- A line that only a mapping of the second source names is shown beside text of the first one, and
without this mapping it is not. -/
theorem attempt_shows_foreign_text :
    extract? (lineWith ['a'] secondMap) =
        .ok (some ⟨["s", "t"], [some "x", some "y"], [⟨1, 1, 1⟩]⟩) ∧
      attempt (lineWith ['a'] secondMap) = .annotated "a   Line: 1 | x" ∧
      extract? (lineWith ['a'] emptyMap) =
        .ok (some ⟨["s", "t"], [some "x", some "y"], []⟩) ∧
      attempt (lineWith ['a'] emptyMap) = .annotated "a" := by
  have unmapped : extract? (lineWith ['a'] emptyMap) =
      .ok (some ⟨["s", "t"], [some "x", some "y"], []⟩) :=
    extract?_lineWith (by decide) rfl (by decide) rfl
  exact ⟨extract?_secondMap, attempt_lineWith extract?_secondMap rfl (by decide), unmapped,
    attempt_lineWith unmapped rfl (by decide)⟩

end MappedCoverage.Annotated
