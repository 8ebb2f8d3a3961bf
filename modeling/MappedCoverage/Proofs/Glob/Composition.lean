import Mathlib.Data.List.Induction
import MappedCoverage.Proofs.Glob.Reading

/-!
# Patterns that are put together

What a pattern accepts follows from its parts: an escaped text in front of a pattern is followed
by what the pattern accepts, and a run of pieces in front of it skips whole pieces.
-/

namespace MappedCoverage.Glob

/-- No piece is left open: the text is empty or ends with a separator. -/
def Closed (text : List Char) : Prop :=
  text = [] ∨ text.getLast? = some '/'

instance (text : List Char) : Decidable (Closed text) :=
  inferInstanceAs (Decidable (text = [] ∨ text.getLast? = some '/'))

theorem Closed.whole {pieces : List Char} (closed : Closed pieces) (rest : List Char) :
    Whole pieces rest := by
  rcases closed with none | last
  · exact Or.inl none
  · exact Or.inr (Or.inl last)

/-- Every text is closed up to its last piece. -/
theorem exists_last_piece (text : List Char) :
    ∃ pieces last, text = pieces ++ last ∧ Closed pieces ∧ '/' ∉ last := by
  induction text using List.reverseRecOn with
  | nil => exact ⟨[], [], rfl, Or.inl rfl, by simp⟩
  | append_singleton text c ih =>
      by_cases separator : c = '/'
      · exact ⟨text ++ [c], [], by simp, Or.inr (by simp [separator]), by simp⟩
      · obtain ⟨pieces, last, rfl, closed, free⟩ := ih
        exact ⟨pieces, last ++ [c], by simp, closed, by simp [free, Ne.symm separator]⟩

/-! ## Escaped texts -/

theorem ne_of_isSpecial {c d : Char} (special : isSpecial c = true) (plain : isSpecial d = false) :
    c ≠ d := by
  rintro rfl
  rw [special] at plain
  cases plain

/-- The token that an escaped character is read as. -/
def escapeToken (c : Char) : Token :=
  if isSpecial c then .anyOf [.single c] else .char c

/-- Whether a run of pieces may stand behind a text. -/
def opensAfter (opens : Bool) (text : List Char) : Bool :=
  text.foldl (fun _ c => c = '/') opens

theorem opensAfter_closed {text : List Char} (closed : Closed text) :
    opensAfter true text = true := by
  rcases closed with rfl | last
  · rfl
  · obtain ⟨before, rfl⟩ := List.getLast?_eq_some_iff.mp last
    simp [opensAfter]

theorem escapeToken_single (c : Char) : (escapeToken c).IsSingle := by
  unfold escapeToken
  by_cases special : isSpecial c = true
  · rw [if_pos special]
    exact ⟨by simp, by simp⟩
  · rw [if_neg special]
    exact ⟨by simp, by simp⟩

/-- An escaped character matches itself alone. -/
theorem escapeToken_admits_iff (c d : Char) : (escapeToken c).admits d = true ↔ d = c := by
  unfold escapeToken
  by_cases special : isSpecial c = true
  · have separated : c ≠ '/' := ne_of_isSpecial special rfl
    rw [if_pos special]
    simp only [Token.admits, Member.admits, List.any_cons, List.any_nil, Bool.or_false,
      Bool.and_eq_true, decide_eq_true_eq]
    exact ⟨fun both => both.2, fun same => ⟨same ▸ separated, same⟩⟩
  · rw [if_neg special]
    simp [Token.admits]

/-- Escaping neither opens nor closes a piece. -/
theorem closed_flatMap_escapeChar_iff (text : List Char) :
    Closed (text.flatMap escapeChar) ↔ Closed text := by
  rcases List.eq_nil_or_concat text with rfl | ⟨before, c, rfl⟩
  · rfl
  · have nonempty : escapeChar c ≠ [] := by
      unfold escapeChar
      split <;> simp
    have last : (escapeChar c).getLast? = some '/' ↔ c = '/' := by
      unfold escapeChar
      by_cases special : isSpecial c = true
      · have separated : c ≠ '/' := ne_of_isSpecial special rfl
        simp [special, separated]
      · simp [special]
    simp [Closed, List.getLast?_append_of_ne_nil _ nonempty, nonempty, last]

theorem readClass?_special {c : Char} (special : isSpecial c = true) (rest : List Char) :
    readClass? (c :: ']' :: rest) = some (.anyOf [.single c], rest) := by
  have unmarked : c ≠ '!' := ne_of_isSpecial special rfl
  exact readClass?_eq_some_iff.mpr ⟨c, [], List.not_mem_nil, Or.inr ⟨rfl, unmarked, rfl⟩⟩

theorem written_escapeChar_iff {opens : Bool} {c : Char} {rest : List Char} {raw : List Token} :
    Written opens (escapeChar c ++ rest) raw ↔
      ∃ tokens, raw = escapeToken c :: tokens ∧ Written (c = '/') rest tokens := by
  unfold escapeChar escapeToken
  by_cases special : isSpecial c = true
  · have separated : decide (c = '/') = false := decide_eq_false (ne_of_isSpecial special rfl)
    rw [if_pos special, if_pos special, separated]
    constructor
    · intro written
      cases written with
      | bracket inside others =>
          change readClass? (c :: ']' :: rest) = _ at inside
          rw [readClass?_special special] at inside
          cases inside
          exact ⟨_, rfl, others⟩
      | char plain _ => simp at plain
    · rintro ⟨tokens, rfl, others⟩
      exact .bracket (readClass?_special special rest) others
  · have plain : c ∉ ['?', '*', '['] := by
      intro inside
      simp only [List.mem_cons, List.not_mem_nil, or_false] at inside
      rcases inside with rfl | rfl | rfl <;> exact special rfl
    rw [if_neg special, if_neg special]
    constructor
    · intro written
      cases written with
      | char _ others => exact ⟨_, rfl, others⟩
      | anyChar | anyRun | lastPieces | pieces | bracket => simp at plain
    · rintro ⟨tokens, rfl, others⟩
      exact .char plain others

theorem written_escape_iff {opens : Bool} {text rest : List Char} {raw : List Token} :
    Written opens (text.flatMap escapeChar ++ rest) raw ↔
      ∃ tokens, raw = text.map escapeToken ++ tokens ∧
        Written (opensAfter opens text) rest tokens := by
  induction text generalizing opens raw with
  | nil => simp [opensAfter]
  | cons c text ih =>
      rw [List.flatMap_cons, List.append_assoc, written_escapeChar_iff]
      simp only [ih]
      constructor
      · rintro ⟨_, rfl, tokens, rfl, written⟩
        exact ⟨tokens, rfl, written⟩
      · rintro ⟨tokens, rfl, written⟩
        exact ⟨_, rfl, tokens, rfl, written⟩

theorem matches_escape_iff {text path : List Char} {tokens : List Token} :
    Matches (text.map escapeToken ++ tokens) path ↔
      ∃ rest, path = text ++ rest ∧ Matches tokens rest := by
  induction text generalizing path with
  | nil => simp
  | cons c text ih =>
      rw [List.map_cons, List.cons_append, matches_single_iff (escapeToken_single c)]
      simp only [escapeToken_admits_iff, ih]
      constructor
      · rintro ⟨_, _, rfl, rfl, rest, rfl, matched⟩
        exact ⟨rest, rfl, matched⟩
      · rintro ⟨rest, rfl, matched⟩
        exact ⟨c, text ++ rest, rfl, rfl, rest, rfl, matched⟩

/-- Whole pieces that stand for themselves are followed by what the pattern accepts. -/
theorem accepts_escape_iff {pieces pattern path : List Char}
    (closed : Closed pieces) :
    Accepts (pieces.flatMap escapeChar ++ pattern) path ↔
      ∃ rest, path = pieces ++ rest ∧ Accepts pattern rest := by
  constructor
  · rintro ⟨raw, written, matched⟩
    obtain ⟨tokens, rfl, others⟩ := written_escape_iff.mp written
    rw [opensAfter_closed closed] at others
    obtain ⟨rest, rfl, found⟩ := matches_escape_iff.mp matched
    exact ⟨rest, rfl, tokens, others, found⟩
  · rintro ⟨rest, rfl, tokens, written, matched⟩
    rw [← opensAfter_closed closed] at written
    exact ⟨_, written_escape_iff.mpr ⟨tokens, rfl, written⟩,
      matches_escape_iff.mpr ⟨rest, rfl, matched⟩⟩

/-! ## Runs of pieces -/

theorem written_pieces_iff {rest : List Char} {raw : List Token} :
    Written true ('*' :: '*' :: '/' :: rest) raw ↔
      ∃ tokens, raw = .anyPieces :: tokens ∧ Written true rest tokens := by
  constructor
  · intro written
    cases written with
    | pieces others => exact ⟨_, rfl, others⟩
    | anyRun alone _ => simp at alone
    | char plain _ => simp at plain
  · rintro ⟨tokens, rfl, others⟩
    exact .pieces others

/-- A run of pieces in front of a pattern skips whole pieces. -/
theorem accepts_pieces_iff {pattern path : List Char} :
    Accepts ('*' :: '*' :: '/' :: pattern) path ↔
      ∃ pieces rest, path = pieces ++ rest ∧ Whole pieces rest ∧ Accepts pattern rest := by
  constructor
  · rintro ⟨raw, written, matched⟩
    obtain ⟨tokens, rfl, others⟩ := written_pieces_iff.mp written
    obtain ⟨pieces, rest, rfl, whole, found⟩ := matches_cons_iff.mp matched
    exact ⟨pieces, rest, rfl, whole, tokens, others, found⟩
  · rintro ⟨pieces, rest, rfl, whole, tokens, written, matched⟩
    have takes : Token.Takes .anyPieces pieces rest := whole
    exact ⟨_, written_pieces_iff.mpr ⟨tokens, rfl, written⟩, .cons takes matched⟩

/-- What a pattern that starts with a run of pieces accepts, it accepts behind other pieces. -/
theorem Accepts.before {pattern pieces rest : List Char}
    (accepted : Accepts ('*' :: '*' :: pattern) rest) (whole : Whole pieces rest) :
    Accepts ('*' :: '*' :: pattern) (pieces ++ rest) := by
  obtain ⟨raw, written, matched⟩ := accepted
  refine ⟨raw, written, ?_⟩
  cases written with
  | lastPieces | pieces => exact matched.before whole
  | anyRun alone _ => simp at alone
  | char plain _ => simp at plain

/-- Below directories of a name, wherever they are, a pattern accepts what it accepts by itself. -/
theorem accepts_below_iff {directory pattern path : List Char} (closed : Closed directory)
    (nonempty : directory ≠ []) :
    Accepts ('*' :: '*' :: '/' :: (directory.flatMap escapeChar ++ pattern)) path ↔
      ∃ before rest, path = before ++ (directory ++ rest) ∧ Closed before ∧
        Accepts pattern rest := by
  simp only [accepts_pieces_iff, accepts_escape_iff closed]
  constructor
  · rintro ⟨before, _, rfl, whole, rest, rfl, accepted⟩
    refine ⟨before, rest, rfl, ?_, accepted⟩
    rcases whole with none | last | nothing
    · exact Or.inl none
    · exact Or.inr last
    · exact absurd (List.append_eq_nil_iff.mp nothing).1 nonempty
  · rintro ⟨before, rest, rfl, pieces, accepted⟩
    exact ⟨before, _, rfl, pieces.whole _, rest, rfl, accepted⟩

/-! ## Runs within a piece -/

theorem head?_flatMap_escapeChar (text : List Char) :
    (text.flatMap escapeChar).head? ≠ some '*' := by
  cases text with
  | nil => simp
  | cons c rest =>
      rw [List.flatMap_cons, escapeChar]
      by_cases special : isSpecial c = true
      · simp [special]
      · have plain : c ≠ '*' := by
          rintro rfl
          exact special rfl
        simp [special, plain]

theorem written_nil_iff {opens : Bool} {raw : List Token} : Written opens [] raw ↔ raw = [] := by
  constructor
  · intro written
    cases written
    rfl
  · rintro rfl
    exact .nil

/-- A run within a piece accepts no more than a piece in front of the text that follows it. -/
theorem accepts_star_escape_iff {text path : List Char} :
    Accepts ('*' :: text.flatMap escapeChar) path ↔ ∃ name, path = name ++ text ∧ '/' ∉ name := by
  have writes {raw : List Token} : Written false (text.flatMap escapeChar) raw ↔
      raw = text.map escapeToken := by
    rw [← List.append_nil (text.flatMap escapeChar), written_escape_iff]
    simp [written_nil_iff]
  have matchesText {rest : List Char} : Matches (text.map escapeToken) rest ↔ rest = text := by
    rw [← List.append_nil (text.map escapeToken), matches_escape_iff]
    simp [matches_nil_iff]
  have alone := head?_flatMap_escapeChar text
  generalize text.flatMap escapeChar = pattern at writes alone
  constructor
  · rintro ⟨raw, written, matched⟩
    cases written with
    | anyRun _ others =>
        rw [writes.mp others] at matched
        obtain ⟨name, rest, rfl, free, found⟩ := matches_cons_iff.mp matched
        exact ⟨name, by rw [matchesText.mp found], free⟩
    | lastPieces | pieces => exact absurd rfl alone
    | char plain _ => simp at plain
  · rintro ⟨name, rfl, free⟩
    have takes : Token.Takes .anyRun name text := free
    exact ⟨_, .anyRun alone (writes.mpr rfl),
      .cons takes (matchesText.mpr rfl)⟩

/-- In any directory, a run in front of a text accepts what ends with this text. -/
theorem accepts_ending_iff {ending path : List Char} :
    Accepts ('*' :: '*' :: '/' :: '*' :: ending.flatMap escapeChar) path ↔
      ∃ stem, path = stem ++ ending := by
  simp only [accepts_pieces_iff, accepts_star_escape_iff]
  constructor
  · rintro ⟨pieces, _, rfl, _, name, rfl, _⟩
    exact ⟨pieces ++ name, (List.append_assoc _ _ _).symm⟩
  · rintro ⟨stem, rfl⟩
    obtain ⟨pieces, name, rfl, closed, free⟩ := exists_last_piece stem
    exact ⟨pieces, name ++ ending, List.append_assoc _ _ _, closed.whole _, name, rfl, free⟩

end MappedCoverage.Glob
