import MappedCoverage.Proofs.Annotated.Failures

/-!
# Annotating again

Annotated code that shows no map comment is left as it is when it is annotated again. A row behind a
mapped line is no comment, whatever its source text says, since a comment has no bar; so a comment
can only be shown where the code itself has one in front of its last line.
-/

namespace MappedCoverage.Annotated

open SourceMap (IsComment findPayload? extract?)

/-- All map comments of some code stand on its last line. -/
def CommentsLast (generated : String) : Prop :=
  ∀ line ∈ (Text.lines generated).dropLast, ∀ payload, ¬ IsComment line payload

section

variable {generated text : String}

theorem lineAt_mem_dropLast {lines : List (List Char)} {number : Nat} (first : 1 ≤ number)
    (last : number < lines.length) : lineAt lines number ∈ lines.dropLast := by
  rw [mem_iff_exists_lineAt, List.length_dropLast]
  exact ⟨number, first, by omega, lineAt_dropLast last⟩

/-- Whatever stands beside the code, no comment is shown if the code has none to show. -/
theorem CommentsLast.findPayload?_render? (last : CommentsLast generated) {source : String}
    {mappings : List SourceMap.LineMapping}
    (rendered : render? generated source mappings = some text) : findPayload? text = none := by
  rw [findPayload?_render?_eq_none_iff rendered]
  rintro number first before ⟨payload, comment⟩
  exact absurd comment (last _ (lineAt_mem_dropLast first before) payload)

theorem attempt_of_findPayload? (uncommented : findPayload? text = none) :
    attempt text = .unmapped := by
  rw [attempt, extract?, uncommented]

theorem annotate?_of_findPayload? (uncommented : findPayload? text = none) :
    annotate? text = some text := by
  rw [annotate?, attempt_of_findPayload? uncommented]

/-- What comes out is the annotated text, if there is one, and else the text as it was. -/
theorem annotate?_eq_some_iff :
    annotate? generated = some text ↔
      attempt generated = .annotated text ∨
        text = generated ∧ annotate? generated = some generated := by
  constructor
  · intro annotated
    cases tried : attempt generated with
    | annotated shown =>
        rw [annotate?, tried] at annotated
        exact Or.inl (congrArg Attempt.annotated (Option.some.inj annotated))
    | tooWide =>
        rw [annotate?, tried] at annotated
        cases annotated
    | unmapped =>
        rw [annotate?, tried] at annotated
        obtain rfl := Option.some.inj annotated
        exact Or.inr ⟨rfl, by rw [annotate?, tried]⟩
    | refused fault =>
        rw [annotate?, tried] at annotated
        obtain rfl := Option.some.inj annotated
        exact Or.inr ⟨rfl, by rw [annotate?, tried]⟩
  · rintro (tried | ⟨rfl, unchanged⟩)
    · rw [annotate?, tried]
    · exact unchanged

/--
Code whose map comments all stand on its last line is annotated once and for all: what comes out
stays as it is when it is annotated again. An annotated text shows no map comment, whatever the
source text and the mappings are that its rows were laid out with.
-/
theorem annotate?_settles (last : CommentsLast generated) :
    (∀ text, annotate? generated = some text → annotate? text = some text) ∧
      (∀ text, attempt generated = .annotated text → findPayload? text = none) ∧
      ∀ source mappings text, render? generated source mappings = some text →
        findPayload? text = none := by
  have hidden : ∀ text, attempt generated = .annotated text → findPayload? text = none := by
    intro text tried
    obtain ⟨map, source, _, _, rendered⟩ := attempt_eq_annotated_iff.mp tried
    exact last.findPayload?_render? rendered
  refine ⟨?_, hidden, fun source mappings text => last.findPayload?_render?⟩
  intro text annotated
  rcases annotate?_eq_some_iff.mp annotated with tried | ⟨rfl, unchanged⟩
  · exact annotate?_of_findPayload? (hidden text tried)
  · exact unchanged

end

/-- A map whose source is itself a map comment. -/
def quotingMap : String :=
  "\x7b\"sources\":[\"s\"],\"sourcesContent\":[\"//# sourceMappingURL=data:application/json;base64,"
    ++ "QQ==\"],\"mappings\":\"AAAA\"\x7d"

set_option maxRecDepth 2000 in
/-- A source that is a map comment is shown behind its columns, where it is none. -/
theorem annotate?_settles_quoted_comment :
    CommentsLast (lineWith ['a'] quotingMap) ∧
      (∃ payload, IsComment
        "//# sourceMappingURL=data:application/json;base64,QQ==".toList payload) ∧
      let text := "a   Line: 1 | //# sourceMappingURL=data:application/json;base64,QQ=="
      attempt (lineWith ['a'] quotingMap) = .annotated text ∧ findPayload? text = none ∧
        annotate? (lineWith ['a'] quotingMap) = some text ∧ annotate? text = some text := by
  have last : CommentsLast (lineWith ['a'] quotingMap) := by
    intro line listed payload
    rw [dropLast_lines_lineWith (by decide), List.mem_singleton] at listed
    subst listed
    exact SourceMap.payload?_eq_none_iff.mp rfl payload
  have extracted : extract? (lineWith ['a'] quotingMap) =
      .ok (some ⟨["s"], [some "//# sourceMappingURL=data:application/json;base64,QQ=="],
        [⟨1, 1, 0⟩]⟩) :=
    extract?_lineWith (by decide) rfl (by decide) rfl
  have tried : attempt (lineWith ['a'] quotingMap) =
      .annotated "a   Line: 1 | //# sourceMappingURL=data:application/json;base64,QQ==" :=
    attempt_lineWith extracted rfl (by decide)
  have annotated := annotate?_eq_some_iff.mpr (Or.inl tried)
  obtain ⟨settles, hidden, _⟩ := annotate?_settles last
  exact ⟨last, ⟨"QQ==".toList, SourceMap.payload?_eq_some_iff.mp (by decide)⟩, tried,
    hidden _ tried, annotated, settles _ annotated⟩

end MappedCoverage.Annotated
