import MappedCoverage.Indentation
import MappedCoverage.Proofs.Regex.Replacing
import MappedCoverage.Proofs.Text.Pieces
import MappedCoverage.Regex.Compile

/-!
# Leading tabs

Widening the leading tabs of each line is the same as replacing the matches of a pattern in the
whole text, where only a line break starts a line. It leaves no leading tab, so widening again
changes nothing, and it works on each part of a text between line breaks by itself.
-/

namespace MappedCoverage.Indentation

open Regex (Longest Matches MatchesInTurn Matching Place Replaces)

/-! ## Lines -/

/-- The number of tabs that a line starts with. -/
def leadingTabs (line : List Char) : Nat :=
  (line.takeWhile (· = '\t')).length

/-- What stands in a line behind the tabs that it starts with. -/
def afterTabs (line : List Char) : List Char :=
  line.dropWhile (· = '\t')

@[simp] theorem widenLine_nil : widenLine [] = [] := rfl

theorem widenLine_tab (line : List Char) :
    widenLine ('\t' :: line) = ' ' :: ' ' :: widenLine line := rfl

theorem widenLine_of_head? {line : List Char} (free : line.head? ≠ some '\t') :
    widenLine line = line := by
  rw [widenLine.eq_def]
  split
  case h_1 => exact absurd rfl free
  case h_2 => rfl

theorem widenLine_eq (line : List Char) :
    widenLine line = List.replicate (2 * leadingTabs line) ' ' ++ afterTabs line := by
  induction line with
  | nil => rfl
  | cons c line ih =>
      by_cases tab : c = '\t'
      · subst tab
        rw [widenLine_tab, ih]
        simp [leadingTabs, afterTabs, Nat.mul_add, List.replicate_succ]
      · rw [widenLine_of_head? (by simpa using tab)]
        simp [leadingTabs, afterTabs, tab]

theorem head?_widenLine (line : List Char) : (widenLine line).head? ≠ some '\t' := by
  cases line with
  | nil => simp
  | cons c line =>
      by_cases tab : c = '\t'
      · subst tab
        simp [widenLine_tab]
      · rw [widenLine_of_head? (by simpa using tab)]
        simpa using tab

theorem newline_not_mem_widenLine {line : List Char} (free : '\n' ∉ line) :
    '\n' ∉ widenLine line := by
  rw [widenLine_eq, List.mem_append, not_or]
  refine ⟨by simp, fun inside => free ?_⟩
  exact (List.dropWhile_sublist _).subset inside

theorem lines_normalize (text : String) :
    Text.lines (normalize text) = (Text.lines text).map widenLine := by
  refine Text.lines_ofLines ?_ ?_
  · simpa [Text.lines] using Text.split_ne_nil '\n' text.toList
  · intro piece listed
    obtain ⟨line, own, rfl⟩ := List.mem_map.mp listed
    exact newline_not_mem_widenLine fun inside => (Text.mem_of_mem_split own inside).2 rfl

/-! ## One pass over a text -/

/-- A text with widened tabs, character by character; as long as a line opens, tabs are widened. -/
def widenFrom : Bool → List Char → List Char
  | _, [] => []
  | opens, c :: rest =>
      if opens ∧ c = '\t' then ' ' :: ' ' :: widenFrom true rest
      else c :: widenFrom (c = '\n') rest

theorem widenFrom_tab (rest : List Char) :
    widenFrom true ('\t' :: rest) = ' ' :: ' ' :: widenFrom true rest := by
  rw [widenFrom, if_pos ⟨rfl, rfl⟩]

theorem widenFrom_cons {opens : Bool} {c : Char} (other : opens = true → c ≠ '\t')
    (rest : List Char) : widenFrom opens (c :: rest) = c :: widenFrom (c = '\n') rest := by
  rw [widenFrom, if_neg fun both => other both.1 both.2]

/-- Where no tab comes next, it does not matter whether a line opens. -/
theorem widenFrom_of_head? {rest : List Char} (free : rest.head? ≠ some '\t') (opens : Bool) :
    widenFrom opens rest = widenFrom false rest := by
  cases rest with
  | nil => rfl
  | cons c rest =>
      have other : c ≠ '\t' := by simpa using free
      rw [widenFrom_cons fun _ => other, widenFrom_cons fun _ => other]

theorem widenFrom_tabs (count : Nat) (rest : List Char) :
    widenFrom true (List.replicate count '\t' ++ rest) =
      List.replicate (2 * count) ' ' ++ widenFrom true rest := by
  induction count with
  | zero => rfl
  | succ count ih =>
      rw [List.replicate_succ, List.cons_append, widenFrom_tab, ih]
      rfl

theorem widenFrom_append_newline (opens : Bool) (first second : List Char) :
    widenFrom opens (first ++ '\n' :: second) =
      widenFrom opens first ++ '\n' :: widenFrom true second := by
  induction first generalizing opens with
  | nil =>
      have other : '\n' ≠ '\t' := by decide
      rw [List.nil_append, widenFrom_cons fun _ => other]
      rfl
  | cons c first ih =>
      rw [List.cons_append, widenFrom, widenFrom, ih, ih]
      split <;> rfl

theorem widenFrom_within {line : List Char} (free : '\n' ∉ line) : widenFrom false line = line := by
  induction line with
  | nil => rfl
  | cons c line ih =>
      rw [List.mem_cons, not_or] at free
      rw [widenFrom_cons (by simp), decide_eq_false (Ne.symm free.1), ih free.2]

theorem widenFrom_line {line : List Char} (free : '\n' ∉ line) :
    widenFrom true line = widenLine line := by
  induction line with
  | nil => rfl
  | cons c line ih =>
      rw [List.mem_cons, not_or] at free
      by_cases tab : c = '\t'
      · subst tab
        rw [widenFrom_tab, widenLine_tab, ih free.2]
      · rw [widenFrom_cons fun _ => tab, decide_eq_false (Ne.symm free.1), widenFrom_within free.2,
          widenLine_of_head? (by simpa using tab)]

/-- The pass widens each line by itself. -/
theorem widenFrom_join {first : List Char} {others : List (List Char)}
    (free : ∀ line ∈ first :: others, '\n' ∉ line) :
    widenFrom true (Text.join '\n' (first :: others)) =
      Text.join '\n' ((first :: others).map widenLine) := by
  rw [List.map_cons, Text.join_cons, Text.join_cons]
  induction others generalizing first with
  | nil => simpa using widenFrom_line (free first List.mem_cons_self)
  | cons next others ih =>
      rw [List.forall_mem_cons] at free
      rw [List.flatMap_cons, List.cons_append, widenFrom_append_newline, widenFrom_line free.1,
        ih free.2, List.map_cons, List.flatMap_cons, List.cons_append]

theorem toList_normalize (text : String) :
    (normalize text).toList = widenFrom true text.toList := by
  have whole := Text.join_split '\n' text.toList
  have free (line : List Char) (listed : line ∈ Text.split '\n' text.toList) : '\n' ∉ line :=
    fun inside => (Text.mem_of_mem_split listed inside).2 rfl
  rw [normalize, Text.ofLines, String.toList_ofList, Text.lines]
  cases pieces : Text.split '\n' text.toList with
  | nil => exact absurd pieces (Text.split_ne_nil '\n' text.toList)
  | cons first others =>
      rw [pieces] at whole free
      rw [← widenFrom_join free, whole]

/-! ## The pattern -/

/-- Leading tabs as a regular expression is written. -/
def tabPattern : String := "(?m)^\\t+"

/-- Leading tabs as a regular expression. -/
def tabExpression : Regex :=
  .sequence [.empty, .look .lineStart, .repeated (.oneOf [('\t'.toNat, '\t'.toNat)]) 1 none]

/-- What stands for tabs. -/
def widened (tabs : List Char) : List Char :=
  List.replicate (2 * tabs.length) ' '

theorem compile?_tabPattern : Regex.compile? tabPattern = some tabExpression :=
  rfl

/-- Whether a line starts at a place. -/
def opensLine (place : Place) : Bool :=
  Regex.holdsBetween place.before.head? place.after.head? .lineStart

theorem opensLine_cons (before after : List Char) (c : Char) :
    opensLine ⟨c :: before, after⟩ = decide (c = '\n') := by
  simp [opensLine, Regex.holdsBetween]

theorem matches_tabExpression_iff {start stop : Place} {captures : List (List Char)} :
    Matches tabExpression start stop captures ↔
      opensLine start = true ∧ ∃ count, 1 ≤ count ∧
        start.Spans (List.replicate count '\t') stop ∧ captures = [] := by
  have parts : Matches tabExpression = (Matches (.look .lineStart)).andThen
      (Matches (.repeated (.oneOf [('\t'.toNat, '\t'.toNat)]) 1 none)) := by
    rw [tabExpression, Regex.matches_sequence, MatchesInTurn, MatchesInTurn,
      Regex.matchesInTurn_single]
    exact Matching.nothing_andThen
  rw [parts, Regex.look_andThen_iff, Regex.matches_run]
  refine and_congr_right fun _ => ?_
  constructor
  · rintro ⟨run, ⟨filled, all⟩, spans, rfl⟩
    have tabs : run = List.replicate run.length '\t' :=
      List.eq_replicate_iff.mpr ⟨rfl, fun c inside => Regex.holds_single_iff.mp (all c inside)⟩
    exact ⟨run.length, filled, tabs ▸ spans, rfl⟩
  · rintro ⟨count, filled, spans, rfl⟩
    refine ⟨_, ⟨?_, ?_⟩, spans, rfl⟩
    · rwa [List.length_replicate]
    · intro c inside
      exact Regex.holds_single_iff.mpr (List.eq_of_mem_replicate inside)

theorem advances_tabExpression : Regex.Advances tabExpression := by
  intro start stop captures matched
  obtain ⟨_, count, filled, spans, _⟩ := matches_tabExpression_iff.mp matched
  rw [spans.after, List.length_append, List.length_replicate]
  omega

/-! ## Replacing -/

section

variable {start stop : Place} {taken : List Char}

theorem head?_after_of_unmatched
    (unmatched : ∀ stop captures, ¬ Matches tabExpression start stop captures)
    (opens : opensLine start = true) : start.after.head? ≠ some '\t' := by
  intro tab
  obtain ⟨rest, after⟩ := List.head?_eq_some_iff.mp tab
  refine unmatched ⟨'\t' :: start.before, rest⟩ [] (matches_tabExpression_iff.mpr
    ⟨opens, 1, Nat.le_refl 1, ⟨?_, rfl⟩, rfl⟩)
  exact after

/-- The longest match takes all tabs that a line starts with. -/
theorem tabs_of_longest (longest : Longest tabExpression start taken stop) :
    opensLine start = true ∧ opensLine stop = false ∧
      (∃ count, taken = List.replicate count '\t') ∧ stop.after.head? ≠ some '\t' := by
  obtain ⟨captures, matched⟩ := longest.matched
  obtain ⟨opens, count, filled, spans, _⟩ := matches_tabExpression_iff.mp matched
  obtain rfl := longest.spans.unique spans
  refine ⟨opens, ?_, ⟨count, rfl⟩, ?_⟩
  · obtain ⟨before, after⟩ := stop
    obtain ⟨more, rfl⟩ := Nat.exists_eq_add_of_le' filled
    have behind := spans.before
    rw [List.reverse_replicate, List.replicate_succ, List.cons_append] at behind
    dsimp only at behind
    rw [behind, opensLine_cons]
    decide
  · intro tab
    obtain ⟨rest, after⟩ := List.head?_eq_some_iff.mp tab
    have further : start.Spans (List.replicate (count + 1) '\t')
        ⟨'\t' :: stop.before, rest⟩ := by
      constructor
      · rw [spans.after, after, List.replicate_succ', List.append_assoc]
        rfl
      · rw [spans.before, List.replicate_succ', List.reverse_append]
        rfl
    have beyond := longest.longest _ [] (matches_tabExpression_iff.mpr
      ⟨opens, count + 1, Nat.le_add_left 1 count, further, rfl⟩)
    rw [after, List.length_cons] at beyond
    exact Nat.not_succ_le_self _ beyond

/-- What replacing makes of a text is the text with widened tabs. -/
theorem eq_widenFrom_of_replaces {result : List Char}
    (replaces : Replaces tabExpression widened start result) :
    result = widenFrom (opensLine start) start.after := by
  induction replaces with
  | ended => rw [widenFrom]
  | @passed before after result c unmatched rest ih =>
      have other (opens : opensLine ⟨before, c :: after⟩ = true) : c ≠ '\t' := by
        simpa using head?_after_of_unmatched unmatched opens
      rw [ih, opensLine_cons, widenFrom_cons other]
  | @replaced start stop taken result longest ahead rest ih =>
      obtain ⟨opens, within, ⟨count, rfl⟩, free⟩ := tabs_of_longest longest
      rw [ih, opens, within, longest.spans.after, widened, List.length_replicate, widenFrom_tabs,
        widenFrom_of_head? free true]

end

theorem replaces_iff (text : String) (result : List Char) :
    Replaces tabExpression widened ⟨[], text.toList⟩ result ↔
      result = (normalize text).toList := by
  rw [toList_normalize]
  constructor
  · exact eq_widenFrom_of_replaces
  · rintro rfl
    obtain ⟨result, replaces⟩ := advances_tabExpression.exists_replaces widened ⟨[], text.toList⟩
    rwa [eq_widenFrom_of_replaces replaces] at replaces

/-! ## Laws -/

theorem normalize_idempotent (text : String) : normalize (normalize text) = normalize text := by
  have again (line : List Char) : widenLine (widenLine line) = widenLine line :=
    widenLine_of_head? (head?_widenLine line)
  rw [normalize, lines_normalize, List.map_map, normalize]
  congr 1
  exact List.map_congr_left fun line _ => again line

theorem normalize_append_newline (first second : String) :
    normalize (first ++ "\n" ++ second) = normalize first ++ "\n" ++ normalize second := by
  rw [← String.toList_inj]
  simp only [String.toList_append, toList_normalize, List.append_assoc]
  exact widenFrom_append_newline true first.toList second.toList

/--
Each line is kept but for the tabs that it starts with, which become two spaces each. This is what
replacing the matches of the pattern makes of the text. No line starts with a tab any more, so
nothing changes a second time, and line breaks cut a text into parts that are widened apart.
-/
theorem normalize_widens_leading_tabs (text : String) :
    normalize text = Text.ofLines ((Text.lines text).map fun line =>
      List.replicate (2 * leadingTabs line) ' ' ++ afterTabs line) ∧
    Text.lines (normalize text) = (Text.lines text).map (fun line =>
      List.replicate (2 * leadingTabs line) ' ' ++ afterTabs line) ∧
    Regex.compile? tabPattern = some tabExpression ∧
    (∀ result, Replaces tabExpression widened ⟨[], text.toList⟩ result ↔
      result = (normalize text).toList) ∧
    (Text.lines (normalize text)).length = (Text.lines text).length ∧
    (∀ line ∈ Text.lines (normalize text), line.head? ≠ some '\t') ∧
    normalize (normalize text) = normalize text ∧
    ∀ other, normalize (text ++ "\n" ++ other) = normalize text ++ "\n" ++ normalize other := by
  have lines := lines_normalize text
  have each : (Text.lines text).map widenLine = (Text.lines text).map fun line =>
      List.replicate (2 * leadingTabs line) ' ' ++ afterTabs line :=
    List.map_congr_left fun line _ => widenLine_eq line
  refine ⟨congrArg Text.ofLines each, lines.trans each, compile?_tabPattern, replaces_iff text, ?_,
    ?_, normalize_idempotent text, normalize_append_newline text⟩
  · rw [lines, List.length_map]
  · intro line listed
    rw [lines] at listed
    obtain ⟨own, _, rfl⟩ := List.mem_map.mp listed
    exact head?_widenLine own

/-- Tabs that do not lead their line stay, also behind a carriage return. -/
example : normalize "\t\tif\ta\r\tb\n \tc\n\t" = "    if\ta\r\tb\n \tc\n  " := by
  decide +kernel

end MappedCoverage.Indentation
