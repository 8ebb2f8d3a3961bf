import Mathlib.Tactic.ByContra
import MappedCoverage.Proofs.Annotated.Alignment
import MappedCoverage.Proofs.SourceMap.Comments

/-!
# Map comments in annotated code

The map comment of a text may stand on any of its lines, and annotated code leaves out the last line
whatever it holds. The two fit together when the comment is on the last line: then nothing but the
comment is left out. A comment in front of the last line stays among the shown lines, and is a map
comment still unless a mapping names it, since the columns behind a mapped line end every comment.
-/

namespace MappedCoverage.Annotated

open SourceMap (IsComment findPayload? extract?)

theorem attempt_eq_annotated_iff {generated text : String} :
    attempt generated = .annotated text ↔
      ∃ map source, extract? generated = .ok (some map) ∧ map.firstContent = .ok source ∧
        render? generated source map.mappings = some text := by
  unfold attempt
  constructor
  · intro annotated
    split at annotated
    · cases annotated
    · cases annotated
    · next map extracted =>
        split at annotated
        · cases annotated
        · next source content =>
            split at annotated
            · cases annotated
            · next rendered =>
                obtain rfl := Attempt.annotated.inj annotated
                exact ⟨map, source, extracted, content, rendered⟩
  · rintro ⟨map, source, extracted, content, rendered⟩
    simp only [extracted, content, rendered]

theorem mem_iff_exists_lineAt {lines : List (List Char)} {line : List Char} :
    line ∈ lines ↔ ∃ number, 1 ≤ number ∧ number ≤ lines.length ∧ lineAt lines number = line := by
  rw [List.mem_iff_getElem?]
  constructor
  · rintro ⟨index, found⟩
    obtain ⟨within, _⟩ := List.getElem?_eq_some_iff.mp found
    exact ⟨index + 1, by omega, within, by rw [lineAt, found, Option.getD_some]⟩
  · rintro ⟨number, first, last, rfl⟩
    obtain ⟨index, rfl⟩ := Nat.exists_eq_add_of_le' first
    exact ⟨index, by rw [lineAt, List.getElem?_eq_getElem last, Option.getD_some]⟩

section

variable {generated source text : String} {mappings : List SourceMap.LineMapping}

/-- The comments among the shown lines are those of the generated lines that no mapping names. -/
theorem isComment_lineAt_iff {number : Nat} {payload : List Char}
    (long : 2 ≤ (Text.lines generated).length)
    (rendered : render? generated source mappings = some text)
    (first : 1 ≤ number) (last : number < (Text.lines generated).length) :
    IsComment (lineAt (Text.lines text) number) payload ↔
      IsComment (lineAt (Text.lines generated) number) payload ∧
        ∀ mapping ∈ mappings, mapping.generatedLine ≠ number := by
  have written := write?_lineAt long rendered first last
  by_cases unmapped : originsOf number mappings = []
  · have same : lineAt (Text.lines text) number = lineAt (Text.lines generated) number :=
      write?_unmapped unmapped written
    rw [same, and_iff_left (originsOf_eq_nil_iff.mp unmapped)]
  · have bar : '|' ∈ lineAt (Text.lines text) number := by
      rw [write?_mapped unmapped written]
      simp
    exact iff_of_false (SourceMap.not_isComment_of_bar bar)
      fun kept => unmapped (originsOf_eq_nil_iff.mpr kept.2)

/-- A single line is the last one, so nothing is shown. -/
theorem eq_empty_of_render? (short : (Text.lines generated).length ≤ 1)
    (rendered : render? generated source mappings = some text) : text = "" := by
  obtain ⟨written, each, rfl⟩ := render?_eq_some_iff.mp rendered
  rw [shownNumbers, Nat.sub_eq_zero_of_le short] at each
  rw [List.map_eq_nil_iff.mp each.symm]
  rfl

/-- No comment is shown exactly when mappings name every comment in front of the last line. -/
theorem findPayload?_render?_eq_none_iff
    (rendered : render? generated source mappings = some text) :
    findPayload? text = none ↔
      ∀ number, 1 ≤ number → number < (Text.lines generated).length →
        (∃ payload, IsComment (lineAt (Text.lines generated) number) payload) →
          ∃ mapping ∈ mappings, mapping.generatedLine = number := by
  rcases Nat.lt_or_ge 1 (Text.lines generated).length with long | short
  · have count := length_lines_render? long rendered
    rw [SourceMap.findPayload?_eq_none_iff]
    constructor
    · rintro hidden number first last ⟨payload, comment⟩
      by_contra none
      have unnamed : ∀ mapping ∈ mappings, mapping.generatedLine ≠ number :=
        fun mapping inside same => none ⟨mapping, inside, same⟩
      exact hidden _ (mem_iff_exists_lineAt.mpr ⟨number, first, by omega, rfl⟩) payload
        ((isComment_lineAt_iff long rendered first last).mpr ⟨comment, unnamed⟩)
    · intro named line listed payload shown
      obtain ⟨number, first, last, rfl⟩ := mem_iff_exists_lineAt.mp listed
      have before : number < (Text.lines generated).length := by omega
      obtain ⟨comment, unnamed⟩ := (isComment_lineAt_iff long rendered first before).mp shown
      obtain ⟨mapping, inside, same⟩ := named number first before ⟨payload, comment⟩
      exact unnamed mapping inside same
  · rw [eq_empty_of_render? short rendered]
    refine iff_of_true rfl ?_
    intro number first last
    omega

end

/-- Without mappings the shown lines are the generated ones but the last. -/
theorem render?_nil (generated source : String) :
    render? generated source [] = some (Text.ofLines (Text.lines generated).dropLast) := by
  rw [render?_eq_some_iff]
  refine ⟨_, ?_, rfl⟩
  rw [← map_lineAt_shownNumbers, List.map_map]
  rfl

/-- A text with a source map has a comment on its last line or in front of it. -/
theorem isComment_last_of_extract? {generated : String} {map : SourceMap}
    (extracted : extract? generated = .ok (some map))
    (none : ∀ number, 1 ≤ number → number < (Text.lines generated).length →
      ∀ payload, ¬ IsComment (lineAt (Text.lines generated) number) payload) :
    ∃ payload, IsComment
      (lineAt (Text.lines generated) (Text.lines generated).length) payload := by
  by_contra last
  have nothing : findPayload? generated = Option.none := by
    rw [SourceMap.findPayload?_eq_none_iff]
    intro line listed payload comment
    obtain ⟨number, first, within, rfl⟩ := mem_iff_exists_lineAt.mp listed
    rcases Nat.lt_or_eq_of_le within with before | rfl
    · exact none number first before payload comment
    · exact last ⟨payload, comment⟩
  rw [extract?, nothing] at extracted
  cases extracted

/--
Annotated code shows every line in front of the last with its whole code, and shows a map comment
unless mappings name all comments in front of the last line. When there are none, what is left out
is the map comment, and no comment is shown.
-/
theorem attempt_shows_unmapped_comments {generated text : String}
    (annotated : attempt generated = .annotated text) :
    ∃ map, extract? generated = .ok (some map) ∧
      (∀ number, 1 ≤ number → number < (Text.lines generated).length →
        lineAt (Text.lines generated) number <+: lineAt (Text.lines text) number) ∧
      (findPayload? text = none ↔
        ∀ number, 1 ≤ number → number < (Text.lines generated).length →
          (∃ payload, IsComment (lineAt (Text.lines generated) number) payload) →
            ∃ mapping ∈ map.mappings, mapping.generatedLine = number) ∧
      ((∀ number, 1 ≤ number → number < (Text.lines generated).length →
          ∀ payload, ¬ IsComment (lineAt (Text.lines generated) number) payload) →
        findPayload? text = none ∧
          ∃ payload, IsComment
            (lineAt (Text.lines generated) (Text.lines generated).length) payload) := by
  obtain ⟨map, source, extracted, _, rendered⟩ := attempt_eq_annotated_iff.mp annotated
  have comments := findPayload?_render?_eq_none_iff rendered
  refine ⟨map, extracted, ?_, comments, ?_⟩
  · intro number first last
    have long : 2 ≤ (Text.lines generated).length := by omega
    exact ((render?_aligned long rendered).2 number first last).1
  · intro none
    refine ⟨comments.mpr ?_, isComment_last_of_extract? extracted none⟩
    rintro number first last ⟨payload, comment⟩
    exact absurd comment (none number first last payload)

/-- A map of one source without mappings. -/
def singleMap : String :=
  "\x7b\"sources\":[\"s\"],\"sourcesContent\":[\"x\"]\x7d"

/-- What the comment with this map carries. -/
def singlePayload : List Char :=
  Base64.encode singleMap.toUTF8.data.toList

/-- The comment with this map. -/
def singleComment : List Char :=
  SourceMap.writeComment none singleMap

theorem payload?_singleComment : SourceMap.payload? singleComment = some singlePayload :=
  SourceMap.payload?_writeComment (by decide)

theorem newline_not_mem_singleComment : '\n' ∉ singleComment :=
  SourceMap.newline_not_mem_writeComment singleMap

/-- A text whose comments are all this one is shown without its last line. -/
theorem attempt_single {generated : String} {lines : List (List Char)}
    (split : Text.lines generated = lines)
    (alone : lines.filterMap SourceMap.payload? = [singlePayload]) :
    attempt generated = .annotated (Text.ofLines lines.dropLast) := by
  have read : SourceMap.ofJson singleMap = .ok ⟨["s"], [some "x"], []⟩ := by rfl
  have extracted : extract? generated = .ok (some ⟨["s"], [some "x"], []⟩) := by
    have found : SourceMap.payloads generated.toList = [] ++ [singlePayload] := by
      rw [SourceMap.payloads, ← Text.lines, split, alone, List.nil_append]
    rw [← String.ofList_toList (s := generated), SourceMap.extract?_of_payloads found, read]
    rfl
  refine attempt_eq_annotated_iff.mpr ⟨_, "x", extracted, rfl, ?_⟩
  rw [render?_nil, split]

/-- A comment on the last line, which is all that is left out. -/
theorem attempt_shows_unmapped_comments_at_end :
    attempt (Text.ofLines [['a'], ['b'], singleComment]) =
        .annotated (Text.ofLines [['a'], ['b']]) ∧
      findPayload? (Text.ofLines [['a'], ['b']]) = none ∧
      ∃ payload, IsComment
        (lineAt (Text.lines (Text.ofLines [['a'], ['b'], singleComment])) 3) payload := by
  have lines : Text.lines (Text.ofLines [['a'], ['b'], singleComment]) =
      [['a'], ['b'], singleComment] :=
    Text.lines_ofLines (by simp) (by simp [newline_not_mem_singleComment])
  have alone : [['a'], ['b'], singleComment].filterMap SourceMap.payload? = [singlePayload] := by
    rw [List.filterMap_cons_none rfl, List.filterMap_cons_none rfl,
      List.filterMap_cons_some payload?_singleComment, List.filterMap_nil]
  have annotated : attempt (Text.ofLines [['a'], ['b'], singleComment]) =
      .annotated (Text.ofLines [['a'], ['b']]) := attempt_single lines alone
  obtain ⟨_, _, _, _, atEnd⟩ := attempt_shows_unmapped_comments annotated
  rw [lines] at atEnd ⊢
  refine ⟨annotated, atEnd ?_⟩
  intro number first last
  rw [← SourceMap.payload?_eq_none_iff]
  obtain rfl | rfl : number = 1 ∨ number = 2 := by
    have bound : number < 3 := last
    omega
  · rfl
  · rfl

/-- Code behind the comment is left out, and the comment is shown. -/
theorem attempt_hides_last_code :
    attempt (Text.ofLines [['a'], singleComment, ['b']]) =
        .annotated (Text.ofLines [['a'], singleComment]) ∧
      (Text.lines (Text.ofLines [['a'], singleComment, ['b']])).getLast? = some ['b'] ∧
      (∀ payload, ¬ IsComment ['b'] payload) ∧
      findPayload? (Text.ofLines [['a'], singleComment]) = some (String.ofList singlePayload) := by
  have lines : Text.lines (Text.ofLines [['a'], singleComment, ['b']]) =
      [['a'], singleComment, ['b']] :=
    Text.lines_ofLines (by simp) (by simp [newline_not_mem_singleComment])
  have shown : Text.lines (Text.ofLines [['a'], singleComment]) = [['a'], singleComment] :=
    Text.lines_ofLines (by simp) (by simp [newline_not_mem_singleComment])
  have code : SourceMap.payload? ['b'] = none := rfl
  have alone : [['a'], singleComment, ['b']].filterMap SourceMap.payload? = [singlePayload] := by
    rw [List.filterMap_cons_none rfl, List.filterMap_cons_some payload?_singleComment,
      List.filterMap_cons_none code, List.filterMap_nil]
  refine ⟨attempt_single lines alone, ?_, SourceMap.payload?_eq_none_iff.mp code, ?_⟩
  · rw [lines]
    rfl
  · rw [findPayload?, shown, List.filterMap_cons_none rfl,
      List.filterMap_cons_some payload?_singleComment, List.filterMap_nil]
    rfl

end MappedCoverage.Annotated
