import MappedCoverage.Grep
import MappedCoverage.Proofs.Regex.Escaping

/-!
# Sources of title filters

The source of a filter gives this filter again. A text that is no expression becomes a filter for
the titles that it is a part of, with its escaped form as the source.
-/

namespace MappedCoverage.Grep

theorem source_of_ofExpression? {text : String} {grep : Grep}
    (compiled : ofExpression? text = some grep) : grep.source = text := by
  obtain ⟨regex, _, rfl⟩ := Option.map_eq_some_iff.mp compiled
  rfl

/-- The source of a filter gives this filter again, be it an expression or an escaped text. -/
theorem compile?_source {text : String} {grep : Grep} (compiled : compile? text = some grep) :
    compile? grep.source = some grep := by
  have expression : ofExpression? grep.source = some grep := by
    rw [compile?] at compiled
    cases own : ofExpression? text with
    | some found =>
        rw [own] at compiled
        obtain rfl := Option.some.inj compiled
        rw [source_of_ofExpression? own, own]
    | none =>
        rw [own] at compiled
        have escaped : ofExpression? (Regex.escape text) = some grep := compiled
        rw [source_of_ofExpression? escaped, escaped]
  rw [compile?, expression]
  rfl

theorem filterMap_compile?_sources (texts : List String) :
    ((texts.filterMap compile?).map source).filterMap compile? = texts.filterMap compile? := by
  induction texts with
  | nil => rfl
  | cons text rest ih =>
      cases compiled : compile? text with
      | none => simp only [List.filterMap_cons_none compiled, ih]
      | some grep =>
          rw [List.filterMap_cons_some compiled, List.map_cons,
            List.filterMap_cons_some (compile?_source compiled), ih]

/-- A text that is no expression, but not too long to be escaped, is searched for as it stands. -/
theorem malformed_matches_literally
    {text : String}
    (malformed : Regex.compile? text = none)
    (fits : (Regex.compile? (Regex.escape text)).isSome = true) :
    ∃ grep, compile? text = some grep ∧ grep.source = Regex.escape text ∧
      (∀ title, grep.isMatch title = true ↔ text.toList <:+: title.toList) ∧
      ∃ again, compile? grep.source = some again ∧ again.same grep = true ∧
        ∀ title, again.isMatch title = grep.isMatch title := by
  obtain ⟨regex, compiled⟩ := Option.isSome_iff_exists.mp fits
  have literal : compile? text = some ⟨Regex.escape text, regex⟩ := by
    rw [compile?, ofExpression?, malformed, ofExpression?, compiled]
    rfl
  refine ⟨_, literal, rfl, ?_, _, compile?_source literal, ?_, fun _ => rfl⟩
  · intro title
    exact Regex.isMatch_escape_iff compiled title
  · exact beq_self_eq_true _

theorem malformed_matches_literally_unclosed :
    Regex.compile? "a.b(?=c|[" = none ∧
      (Regex.compile? (Regex.escape "a.b(?=c|[")).isSome = true ∧
      ∃ grep, compile? "a.b(?=c|[" = some grep ∧ grep.source = "a\\.b\\(\\?=c\\|\\[" ∧
        grep.isMatch "reads a.b(?=c|[d]) twice" = true ∧
        grep.isMatch "reads axb(?=c|[" = false := by
  have malformed : Regex.compile? "a.b(?=c|[" = none := by rfl
  have fits : (Regex.compile? (Regex.escape "a.b(?=c|[")).isSome = true := by decide +kernel
  have source : Regex.escape "a.b(?=c|[" = "a\\.b\\(\\?=c\\|\\[" := by decide +kernel
  obtain ⟨grep, compiled, escaped, literal, _⟩ := malformed_matches_literally malformed fits
  refine ⟨malformed, fits, grep, compiled, escaped.trans source, ?_, ?_⟩
  · rw [literal]
    decide +kernel
  · rw [← Bool.not_eq_true, literal]
    decide +kernel

end MappedCoverage.Grep
