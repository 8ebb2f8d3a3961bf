import MappedCoverage.Proofs.Regex.Ends
import MappedCoverage.Proofs.SourceMap.Pattern

/-!
# Searching for map comments

A search for the pattern of map comments finds each comment once and in order, though its matches
may run over line breaks: only blank lines can have been taken behind a comment, and none of them is
one. So the last match carries what the last comment line carries.
-/

namespace MappedCoverage.SourceMap

open Regex (Matches Place Search)

/-! ## Comments from a place on -/

/-- The payloads of the comments behind the line that a text starts with. -/
def laterPayloads (text : List Char) : List (List Char) :=
  (Text.split '\n' text).tail.filterMap payload?

instance (place : Place) : Decidable (AtLineStart place) :=
  inferInstanceAs (Decidable (∀ c ∈ place.before.head?, c = '\n'))

/-- The payloads of the comments on the lines that start at a place or behind it. -/
def payloadsFrom (place : Place) : List (List Char) :=
  if AtLineStart place then payloads place.after else laterPayloads place.after

theorem laterPayloads_newline (rest : List Char) :
    laterPayloads ('\n' :: rest) = payloads rest := by
  rw [laterPayloads, Text.split_cons, if_pos rfl, List.tail_cons]
  rfl

theorem laterPayloads_cons {c : Char} (other : c ≠ '\n') (rest : List Char) :
    laterPayloads (c :: rest) = laterPayloads rest := by
  rw [laterPayloads, laterPayloads, Text.split_cons, if_neg other]
  cases pieces : Text.split '\n' rest with
  | nil => exact absurd pieces (Text.split_ne_nil _ _)
  | cons first others => rfl

theorem payloads_newline (rest : List Char) : payloads ('\n' :: rest) = payloads rest :=
  payloads_append_newline [] rest

theorem payloadsFrom_of_atLineEnd {place : Place} (ends : AtLineEnd place) :
    payloadsFrom place = laterPayloads place.after := by
  rw [payloadsFrom]
  split
  case isFalse => rfl
  case isTrue =>
    cases after : place.after with
    | nil => rfl
    | cons c rest =>
        obtain rfl : c = '\n' := ends c (by rw [after]; rfl)
        rw [payloads_newline, laterPayloads_newline]

theorem payloadsFrom_step (before after : List Char) (c : Char) :
    payloadsFrom ⟨c :: before, after⟩ = laterPayloads (c :: after) := by
  by_cases newline : c = '\n'
  · subst newline
    rw [laterPayloads_newline, payloadsFrom, if_pos]
    intro d same
    exact (Option.some.inj same).symm
  · rw [laterPayloads_cons newline, payloadsFrom, if_neg]
    exact fun starts => newline (starts c rfl)

/-! ## Matches and comments -/

section

variable {start stop : Place}

/-- Where no match starts, there is no comment. -/
theorem payloadsFrom_of_unmatched
    (unmatched : ∀ stop captures, ¬ Matches commentExpression start stop captures) :
    payloadsFrom start = laterPayloads start.after := by
  rw [payloadsFrom]
  split
  case isFalse => rfl
  case isTrue starts =>
    obtain ⟨line, rest, text, ends, first⟩ := Text.exists_first_piece '\n' start.after
    have none : payload? line = none := by
      rw [payload?_eq_none_iff]
      rintro payload ⟨charset, blanks, named, nonempty, all, blank, rfl⟩
      refine unmatched ⟨_, rest⟩ [payload] (matches_commentExpression_iff.mpr
        ⟨starts, ends, charset, payload, blanks, named, nonempty, all, blank, ⟨text, rfl⟩, rfl⟩)
    rw [payloads, laterPayloads]
    cases pieces : Text.split '\n' start.after with
    | nil => exact absurd pieces (Text.split_ne_nil _ _)
    | cons piece others =>
        rw [pieces] at first
        obtain rfl := Option.some.inj first
        rw [List.filterMap_cons_none none, List.tail_cons]

/-- A match takes one comment, and those that are left stand behind it. -/
theorem payloadsFrom_of_matches {captures : List (List Char)}
    (matched : Matches commentExpression start stop captures) :
    ∃ payload, captures = [payload] ∧ payloadsFrom start = payload :: payloadsFrom stop := by
  obtain ⟨starts, ends, charset, payload, blanks, named, nonempty, all, blank, spans, rfl⟩ :=
    matches_commentExpression_iff.mp matched
  have own := payloads_comment named nonempty all blank
  refine ⟨payload, rfl, ?_⟩
  rw [payloadsFrom_of_atLineEnd ends, payloadsFrom, if_pos starts, spans.after]
  cases after : stop.after with
  | nil =>
      rw [List.append_nil, own]
      rfl
  | cons c rest =>
      obtain rfl : c = '\n' := ends c (by rw [after]; rfl)
      rw [payloads_append_newline, own, laterPayloads_newline]
      rfl

theorem advances_commentExpression : Regex.Advances commentExpression := by
  intro start stop captures matched
  obtain ⟨_, _, charset, payload, blanks, _, nonempty, _, _, spans, _⟩ :=
    matches_commentExpression_iff.mp matched
  have filled := List.length_pos_iff.mpr nonempty
  rw [spans.after]
  simp only [List.length_append]
  omega

/-- A search finds the comments in order. -/
theorem search_commentExpression {found : List (List (List Char))}
    (search : Search commentExpression start found) :
    found = (payloadsFrom start).map fun payload => [payload] := by
  induction search with
  | ended unmatched =>
      rw [payloadsFrom_of_unmatched unmatched]
      rfl
  | passed unmatched rest ih => rw [ih, payloadsFrom_step, payloadsFrom_of_unmatched unmatched]
  | found matched ahead rest ih =>
      obtain ⟨payload, rfl, left⟩ := payloadsFrom_of_matches matched
      rw [left, ih, List.map_cons]

end

/-! ## The last comment -/

theorem getLast?_filterMap_eq_some_iff {α β : Type} {f : α → Option β} {items : List α}
    {last : β} :
    (items.filterMap f).getLast? = some last ↔
      ∃ before item after, items = before ++ item :: after ∧ f item = some last ∧
        ∀ later ∈ after, f later = none := by
  simp only [List.getLast?_eq_some_iff, List.filterMap_eq_append_iff, List.filterMap_eq_cons_iff,
    List.filterMap_eq_nil_iff]
  constructor
  · rintro ⟨_, before, _, rfl, _, between, item, after, rfl, _, own, others⟩
    exact ⟨before ++ between, item, after, (List.append_assoc _ _ _).symm, own, others⟩
  · rintro ⟨before, item, after, rfl, own, others⟩
    exact ⟨_, before, item :: after, rfl, rfl, [], item, after, rfl, nofun, own, others⟩

/-- The place in front of a text. -/
def startOf (text : String) : Place :=
  ⟨[], text.toList⟩

theorem payloadsFrom_startOf (text : String) : payloadsFrom (startOf text) = payloads text.toList :=
  if_pos nofun

/-- The pattern that is searched for is read and has a meaning. -/
theorem meaning?_commentPattern :
    ((Regex.Tree.read? commentPattern).bind (·.meaning? Regex.Flags.initial)).map (·.1) =
      some commentExpression := by
  rw [read?_commentPattern, Option.bind_some, meaning?_commentTree]

theorem findPayload?_eq_some_iff {text : String} {payload : List Char} :
    findPayload? text = some (String.ofList payload) ↔
      ∃ before line after, Text.lines text = before ++ line :: after ∧ IsComment line payload ∧
        ∀ later ∈ after, ∀ other, ¬ IsComment later other := by
  have last : findPayload? text = some (String.ofList payload) ↔
      ((Text.lines text).filterMap payload?).getLast? = some payload := by
    rw [findPayload?, ← Option.map_some]
    exact (Option.map_injective fun _ _ => String.ofList_injective).eq_iff
  rw [last, getLast?_filterMap_eq_some_iff]
  simp only [payload?_eq_some_iff, payload?_eq_none_iff]

theorem findPayload?_eq_getLast? (text : String) :
    findPayload? text = (payloads text.toList).getLast?.map String.ofList := by
  rw [← findPayload?_ofList, String.ofList_toList]

/-- The last match of a search carries what is found. -/
theorem last_of_search {text : String} {found : List (List (List Char))}
    (search : Search commentExpression (startOf text) found) :
    found.getLast?.bind (·.head?) = (findPayload? text).map String.toList := by
  rw [search_commentExpression search, payloadsFrom_startOf, findPayload?_eq_getLast?,
    List.getLast?_map]
  cases (payloads text.toList).getLast? <;> simp

/--
What is found in a text is the payload of its last line that is a map comment in full, and nothing
is found if no line is one. A search for the pattern of map comments can always be made, and its
last match has the same payload, whichever matches it prefers.
-/
theorem findPayload?_reads_last (text : String) :
    (∀ payload, findPayload? text = some (String.ofList payload) ↔
        ∃ before line after, Text.lines text = before ++ line :: after ∧ IsComment line payload ∧
          ∀ later ∈ after, ∀ other, ¬ IsComment later other) ∧
      (findPayload? text = none ↔
        ∀ line ∈ Text.lines text, ∀ payload, ¬ IsComment line payload) ∧
      ((Regex.Tree.read? commentPattern).bind (·.meaning? Regex.Flags.initial)).map (·.1) =
        some commentExpression ∧
      (∃ found, Search commentExpression (startOf text) found) ∧
      ∀ found, Search commentExpression (startOf text) found →
        found.getLast?.bind (·.head?) = (findPayload? text).map String.toList :=
  ⟨fun _ => findPayload?_eq_some_iff, findPayload?_eq_none_iff, meaning?_commentPattern,
    advances_commentExpression.exists_search _, fun _ => last_of_search⟩

end MappedCoverage.SourceMap
