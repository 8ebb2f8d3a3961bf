import Mathlib.Data.List.TakeDrop
import Mathlib.Data.List.TakeWhile
import MappedCoverage.Proofs.Glob.Matching

/-!
# How patterns are read

A pattern is a sequence of written tokens; whether a run of pieces may stand somewhere is decided
by the character before. The reader drops such a run right after another one, which changes
nothing in what is matched. So a compiled pattern matches a path exactly when the tokens that its
text is written in match it.
-/

namespace MappedCoverage.Glob

/-! ## Written tokens -/

/-- The tokens that a text is written in, where a run of pieces may stand in front of it or not. -/
inductive Written : Bool → List Char → List Token → Prop where
  | nil {opens : Bool} : Written opens [] []
  | anyChar {opens : Bool} {rest : List Char} {tokens : List Token} :
      Written false rest tokens →
      Written opens ('?' :: rest) (.anyChar :: tokens)
  | anyRun {opens : Bool} {rest : List Char} {tokens : List Token} :
      rest.head? ≠ some '*' →
      Written false rest tokens →
      Written opens ('*' :: rest) (.anyRun :: tokens)
  | lastPieces : Written true ['*', '*'] [.anyPieces]
  | pieces {rest : List Char} {tokens : List Token} :
      Written true rest tokens →
      Written true ('*' :: '*' :: '/' :: rest) (.anyPieces :: tokens)
  | bracket {opens : Bool} {rest after : List Char} {token : Token} {tokens : List Token} :
      readClass? rest = some (token, after) →
      Written false after tokens →
      Written opens ('[' :: rest) (token :: tokens)
  | char {opens : Bool} {c : Char} {rest : List Char} {tokens : List Token} :
      c ∉ ['?', '*', '['] →
      Written (c = '/') rest tokens →
      Written opens (c :: rest) (.char c :: tokens)

/-- Adds a token to tokens in reverse, as the reader does. -/
def push (taken : List Token) (token : Token) : List Token :=
  if token = .anyPieces then pushPieces taken else token :: taken

/-- The tokens that the reader keeps. -/
def kept (tokens : List Token) : List Token :=
  (tokens.foldl push []).reverse

/-- A class ends at the first closing bracket behind its first character. -/
theorem classBody?_eq_some_iff {text inside after : List Char} :
    classBody? text = some (inside, after) ↔
      ∃ first body, ']' ∉ body ∧ inside = first :: body ∧ text = first :: (body ++ ']' :: after) := by
  constructor
  · intro read
    cases text with
    | nil => cases read
    | cons first rest =>
        have free : ']' ∉ rest.takeWhile (· ≠ ']') := by
          intro listed
          simpa using List.mem_takeWhile_imp listed
        have parts : rest.takeWhile (· ≠ ']') ++ rest.dropWhile (· ≠ ']') = rest :=
          List.takeWhile_append_dropWhile
        have stopped := List.head?_dropWhile_not (· ≠ ']') rest
        simp only [classBody?, List.span_eq_takeWhile_dropWhile] at read
        cases tail : rest.dropWhile (· ≠ ']') with
        | nil =>
            rw [tail] at read
            cases read
        | cons c others =>
            rw [tail] at read parts stopped
            obtain rfl : c = ']' := by simpa using stopped
            cases read
            exact ⟨first, _, free, rfl, by rw [parts]⟩
  · rintro ⟨first, body, free, rfl, rfl⟩
    have whole : ∀ c ∈ body, decide (c ≠ ']') = true := by
      rintro c listed
      exact decide_eq_true fun same => free (same ▸ listed)
    simp only [classBody?, List.span_eq_takeWhile_dropWhile,
      List.takeWhile_append_of_pos whole, List.dropWhile_append_of_pos whole]
    simp

/-- A class is written with the characters that it lists, behind a mark if it excludes them. -/
theorem readClass?_eq_some_iff {text after : List Char} {token : Token} :
    readClass? text = some (token, after) ↔
      ∃ first body, ']' ∉ body ∧
        (token = .noneOf (members (first :: body)) ∧
            text = '!' :: first :: (body ++ ']' :: after) ∨
          token = .anyOf (members (first :: body)) ∧ first ≠ '!' ∧
            text = first :: (body ++ ']' :: after)) := by
  by_cases marked : text.head? = some '!'
  · obtain ⟨rest, rfl⟩ := List.head?_eq_some_iff.mp marked
    simp only [readClass?, Option.map_eq_some_iff, Prod.exists, classBody?_eq_some_iff]
    constructor
    · rintro ⟨_, _, ⟨first, body, free, rfl, rfl⟩, same⟩
      cases same
      exact ⟨first, body, free, Or.inl ⟨rfl, rfl⟩⟩
    · rintro ⟨first, body, free, ⟨rfl, same⟩ | ⟨_, other, same⟩⟩
      · exact ⟨_, _, ⟨first, body, free, rfl, (List.cons.inj same).2⟩, rfl⟩
      · exact absurd (List.cons.inj same).1.symm other
  · have plain : ∀ rest, text ≠ '!' :: rest := by
      rintro rest rfl
      exact marked rfl
    rw [readClass?.eq_2 _ plain]
    simp only [Option.map_eq_some_iff, Prod.exists, classBody?_eq_some_iff]
    constructor
    · rintro ⟨_, _, ⟨first, body, free, rfl, rfl⟩, same⟩
      cases same
      refine ⟨first, body, free, Or.inr ⟨rfl, ?_, rfl⟩⟩
      rintro rfl
      exact marked rfl
    · rintro ⟨first, body, free, ⟨_, same⟩ | ⟨rfl, _, same⟩⟩
      · exact absurd same (plain _)
      · exact ⟨_, _, ⟨first, body, free, rfl, same⟩, rfl⟩

/-- A class is one token for one character, and takes up text. -/
theorem readClass?_shape {text after : List Char} {token : Token}
    (read : readClass? text = some (token, after)) :
    token.IsSingle ∧ after.length < text.length := by
  obtain ⟨first, body, _, ⟨rfl, rfl⟩ | ⟨rfl, _, rfl⟩⟩ := readClass?_eq_some_iff.mp read
  · exact ⟨⟨by simp, by simp⟩, by simp; omega⟩
  · exact ⟨⟨by simp, by simp⟩, by simp; omega⟩

theorem push_single (taken : List Token) {token : Token} (single : token.IsSingle) :
    push taken token = token :: taken :=
  if_neg single.2

/-! ## The reader -/

section

variable {fuel position : Nat} {previous : Option Char} {taken : List Token}

theorem readTokens_nil : readTokens fuel position previous taken [] = .ok taken.reverse := by
  cases fuel <;> rfl

theorem readTokens_anyChar {rest : List Char} :
    readTokens (fuel + 1) position previous taken ('?' :: rest) =
      readTokens fuel (position + 1) (some '?') (.anyChar :: taken) rest := by
  simp only [readTokens, if_pos]

theorem readTokens_anyRun {rest : List Char} (alone : rest.head? ≠ some '*') :
    readTokens (fuel + 1) position previous taken ('*' :: rest) =
      readTokens fuel (position + 1) (some '*') (.anyRun :: taken) rest := by
  rw [readTokens.eq_def]
  cases rest with
  | nil => simp
  | cons c rest =>
      have other : c ≠ '*' := fun same => alone (congrArg some same)
      simp [other]

theorem readTokens_lastPieces (opens : opensPiece previous = true) :
    readTokens (fuel + 1) position previous taken ['*', '*'] = .ok (pushPieces taken).reverse := by
  simp [readTokens, opens]

theorem readTokens_pieces {rest : List Char} (opens : opensPiece previous = true) :
    readTokens (fuel + 1) position previous taken ('*' :: '*' :: '/' :: rest) =
      readTokens fuel (position + 3) (some '/') (pushPieces taken) rest := by
  simp [readTokens, opens]

theorem readTokens_bracket {rest after : List Char} {token : Token}
    (read : readClass? rest = some (token, after)) :
    readTokens (fuel + 1) position previous taken ('[' :: rest) =
      readTokens fuel (position + 1 + (rest.length - after.length)) (some ']') (token :: taken)
        after := by
  simp [readTokens, read]

theorem readTokens_char {c : Char} {rest : List Char} (plain : c ∉ ['?', '*', '[']) :
    readTokens (fuel + 1) position previous taken (c :: rest) =
      readTokens fuel (position + 1) (some c) (.char c :: taken) rest := by
  simp only [List.mem_cons, not_or] at plain
  rw [readTokens.eq_def]
  simp [plain]

end

theorem readTokens_stars {fuel position : Nat} {previous : Option Char} {taken tokens : List Token}
    {rest : List Char}
    (read : readTokens (fuel + 1) position previous taken ('*' :: '*' :: rest) = .ok tokens) :
    opensPiece previous = true ∧ (rest = [] ∨ rest.head? = some '/') := by
  rw [readTokens.eq_def] at read
  by_cases opens : opensPiece previous = true
  · refine ⟨opens, ?_⟩
    cases rest with
    | nil => exact Or.inl rfl
    | cons c rest =>
        right
        by_contra other
        have separated : c ≠ '/' := fun same => other (congrArg some same)
        by_cases star : c = '*' <;> simp [opens, separated, star] at read
  · cases rest with
    | nil => simp [opens] at read
    | cons c rest => by_cases star : c = '*' <;> simp [opens, star] at read

/-- Stars are read as a run within a piece or, two of them, as a run of pieces of their own. -/
theorem readTokens_star_inv {fuel position : Nat} {previous : Option Char}
    {taken tokens : List Token} {rest : List Char}
    (read : readTokens (fuel + 1) position previous taken ('*' :: rest) = .ok tokens) :
    (rest.head? ≠ some '*' ∧
      readTokens fuel (position + 1) (some '*') (.anyRun :: taken) rest = .ok tokens) ∨
    opensPiece previous = true ∧
      (rest = ['*'] ∧ tokens = (pushPieces taken).reverse ∨
        ∃ after, rest = '*' :: '/' :: after ∧
          readTokens fuel (position + 3) (some '/') (pushPieces taken) after = .ok tokens) := by
  by_cases alone : rest.head? ≠ some '*'
  · rw [readTokens_anyRun alone] at read
    exact Or.inl ⟨alone, read⟩
  · obtain ⟨others, rfl⟩ := List.head?_eq_some_iff.mp (not_not.mp alone)
    obtain ⟨opens, none | separated⟩ := readTokens_stars read
    · subst none
      rw [readTokens_lastPieces opens] at read
      exact Or.inr ⟨opens, Or.inl ⟨rfl, (Except.ok.inj read).symm⟩⟩
    · obtain ⟨after, rfl⟩ := List.head?_eq_some_iff.mp separated
      rw [readTokens_pieces opens] at read
      exact Or.inr ⟨opens, Or.inr ⟨after, rfl, read⟩⟩

theorem readTokens_bracket_inv {fuel position : Nat} {previous : Option Char}
    {taken tokens : List Token} {rest : List Char}
    (read : readTokens (fuel + 1) position previous taken ('[' :: rest) = .ok tokens) :
    ∃ token after position', readClass? rest = some (token, after) ∧
      readTokens fuel position' (some ']') (token :: taken) after = .ok tokens := by
  cases inside : readClass? rest with
  | none =>
      rw [readTokens.eq_def] at read
      simp [inside] at read
  | some found =>
      obtain ⟨token, after⟩ := found
      rw [readTokens_bracket inside] at read
      exact ⟨token, after, _, rfl, read⟩

theorem written_of_readTokens
    {fuel position : Nat} {previous : Option Char} {taken tokens : List Token} {text : List Char}
    (enough : text.length ≤ fuel)
    (read : readTokens fuel position previous taken text = .ok tokens) :
    ∃ raw, Written (opensPiece previous) text raw ∧ tokens = (raw.foldl push taken).reverse := by
  induction fuel generalizing position previous taken text with
  | zero =>
      obtain rfl := List.length_eq_zero_iff.mp (Nat.le_zero.mp enough)
      cases read
      exact ⟨[], .nil, rfl⟩
  | succ fuel ih =>
      cases text with
      | nil =>
          cases read
          exact ⟨[], .nil, rfl⟩
      | cons c rest =>
          have shorter : rest.length ≤ fuel := Nat.le_of_succ_le_succ enough
          by_cases plain : c ∉ ['?', '*', '[']
          · rw [readTokens_char plain] at read
            obtain ⟨raw, written, rfl⟩ := ih shorter read
            exact ⟨_, .char plain written, rfl⟩
          · have special : c = '?' ∨ c = '*' ∨ c = '[' := by simpa using not_not.mp plain
            rcases special with rfl | rfl | rfl
            · rw [readTokens_anyChar] at read
              obtain ⟨raw, written, rfl⟩ := ih shorter read
              exact ⟨_, .anyChar written, rfl⟩
            · rcases readTokens_star_inv read with
                ⟨alone, within⟩ | ⟨opens, ⟨rfl, rfl⟩ | ⟨after, rfl, further⟩⟩
              · obtain ⟨raw, written, rfl⟩ := ih shorter within
                exact ⟨_, .anyRun alone written, rfl⟩
              · rw [opens]
                exact ⟨_, .lastPieces, rfl⟩
              · obtain ⟨raw, written, rfl⟩ := ih (by simp at shorter; omega) further
                rw [opens]
                exact ⟨_, .pieces written, rfl⟩
            · obtain ⟨token, after, _, inside, further⟩ := readTokens_bracket_inv read
              obtain ⟨single, less⟩ := readClass?_shape inside
              rw [← push_single taken single] at further
              obtain ⟨raw, written, rfl⟩ := ih (less.le.trans shorter) further
              exact ⟨_, .bracket inside written, rfl⟩

theorem readTokens_of_written
    {fuel position : Nat} {previous : Option Char} {taken raw : List Token} {text : List Char}
    {opens : Bool}
    (written : Written opens text raw)
    (enough : text.length ≤ fuel)
    (same : opensPiece previous = opens) :
    readTokens fuel position previous taken text = .ok (raw.foldl push taken).reverse := by
  induction written generalizing fuel position previous taken with
  | nil => exact readTokens_nil
  | anyChar _ ih =>
      obtain ⟨fuel, rfl⟩ := Nat.exists_eq_add_one.mpr (Nat.zero_lt_of_lt enough)
      rw [readTokens_anyChar]
      exact ih (Nat.le_of_succ_le_succ enough) rfl
  | anyRun alone _ ih =>
      obtain ⟨fuel, rfl⟩ := Nat.exists_eq_add_one.mpr (Nat.zero_lt_of_lt enough)
      rw [readTokens_anyRun alone]
      exact ih (Nat.le_of_succ_le_succ enough) rfl
  | lastPieces =>
      obtain ⟨fuel, rfl⟩ := Nat.exists_eq_add_one.mpr (Nat.zero_lt_of_lt enough)
      exact readTokens_lastPieces same
  | pieces _ ih =>
      obtain ⟨fuel, rfl⟩ := Nat.exists_eq_add_one.mpr (Nat.zero_lt_of_lt enough)
      rw [readTokens_pieces same]
      exact ih (by simp at enough; omega) rfl
  | bracket inside _ ih =>
      obtain ⟨fuel, rfl⟩ := Nat.exists_eq_add_one.mpr (Nat.zero_lt_of_lt enough)
      obtain ⟨single, less⟩ := readClass?_shape inside
      rw [readTokens_bracket inside, List.foldl_cons, push_single taken single]
      exact ih (less.le.trans (Nat.le_of_succ_le_succ enough)) rfl
  | char plain _ ih =>
      obtain ⟨fuel, rfl⟩ := Nat.exists_eq_add_one.mpr (Nat.zero_lt_of_lt enough)
      rw [readTokens_char plain]
      exact ih (Nat.le_of_succ_le_succ enough) rfl

/-- A pattern is well-formed when it is a sequence of written tokens. -/
theorem compile_eq_ok_iff {source : String} {pattern : Pattern} :
    Pattern.compile source = .ok pattern ↔
      ∃ raw, Written true source.toList raw ∧ pattern = ⟨source, kept raw⟩ := by
  constructor
  · intro compiled
    cases read : readTokens source.toList.length 0 none [] source.toList with
    | error malformed =>
        rw [Pattern.compile, read] at compiled
        cases compiled
    | ok tokens =>
        rw [Pattern.compile, read] at compiled
        cases compiled
        obtain ⟨raw, written, rfl⟩ := written_of_readTokens le_rfl read
        exact ⟨raw, written, rfl⟩
  · rintro ⟨raw, written, rfl⟩
    have read : readTokens source.toList.length 0 none [] source.toList = .ok (kept raw) :=
      readTokens_of_written written le_rfl rfl
    rw [Pattern.compile, read]
    rfl

theorem exists_compile_eq_ok_iff {source : String} :
    (∃ pattern, Pattern.compile source = .ok pattern) ↔ ∃ raw, Written true source.toList raw := by
  constructor
  · rintro ⟨pattern, compiled⟩
    obtain ⟨raw, written, _⟩ := compile_eq_ok_iff.mp compiled
    exact ⟨raw, written⟩
  · rintro ⟨raw, written⟩
    exact ⟨_, compile_eq_ok_iff.mpr ⟨raw, written, rfl⟩⟩

/-! ## What the reader drops -/

theorem WellPlaced.cons {token : Token} {tokens : List Token} (placed : WellPlaced tokens)
    (follows : tokens.head? = some .anyPieces → token = .char '/' ∨ token = .anyPieces) :
    WellPlaced (token :: tokens) := by
  refine List.isChain_cons.mpr ⟨?_, placed⟩
  rintro next head rfl
  exact follows head

theorem Written.opens_of_head {opens : Bool} {text : List Char} {raw : List Token}
    (written : Written opens text raw) (head : raw.head? = some .anyPieces) : opens = true := by
  cases written with
  | lastPieces | pieces => rfl
  | bracket inside => exact absurd (Option.some.inj head) (readClass?_shape inside).1.2
  | nil | anyChar | anyRun | char => cases head

theorem Written.wellPlaced {opens : Bool} {text : List Char} {raw : List Token}
    (written : Written opens text raw) : WellPlaced raw := by
  induction written with
  | nil => exact .nil
  | lastPieces => exact .singleton _
  | anyChar others ih | anyRun _ others ih | bracket _ others ih =>
      exact ih.cons fun head => Bool.noConfusion (others.opens_of_head head)
  | pieces _ ih => exact ih.cons fun _ => Or.inr rfl
  | char _ others ih =>
      refine ih.cons fun head => Or.inl ?_
      rw [of_decide_eq_true (others.opens_of_head head)]

theorem push_eq (taken : List Token) (token : Token) :
    push taken token = token :: taken ∨
      token = .anyPieces ∧ taken.head? = some .anyPieces ∧ push taken token = taken := by
  by_cases pieces : token = .anyPieces
  · subst pieces
    rw [push, if_pos rfl]
    unfold pushPieces
    split
    · exact Or.inr ⟨rfl, rfl, rfl⟩
    · exact Or.inl rfl
  · exact Or.inl (if_neg pieces)

/-- A property of tokens in which a run of pieces right after another one changes nothing holds of
the tokens that are kept when it holds of those that were written. -/
theorem foldl_push_iff {holds : List Token → Prop}
    (repeated : ∀ before after,
      holds (before ++ .anyPieces :: .anyPieces :: after) ↔ holds (before ++ .anyPieces :: after))
    (taken raw : List Token) :
    holds (raw.foldl push taken).reverse ↔ holds (taken.reverse ++ raw) := by
  induction raw generalizing taken with
  | nil => simp
  | cons token raw ih =>
      rw [List.foldl_cons, ih]
      rcases push_eq taken token with added | ⟨rfl, last, dropped⟩
      · rw [added, List.reverse_cons, List.append_assoc, List.singleton_append]
      · obtain ⟨before, rfl⟩ := List.head?_eq_some_iff.mp last
        rw [dropped, List.reverse_cons, List.append_assoc, List.append_assoc]
        exact (repeated before.reverse raw).symm

theorem kept_iff (holds : List Token → Prop)
    (repeated : ∀ before after,
      holds (before ++ .anyPieces :: .anyPieces :: after) ↔ holds (before ++ .anyPieces :: after))
    (raw : List Token) : holds (kept raw) ↔ holds raw :=
  foldl_push_iff repeated [] raw

theorem wellPlaced_kept {raw : List Token} (placed : WellPlaced raw) : WellPlaced (kept raw) := by
  refine (kept_iff WellPlaced (fun before after => ?_) raw).mpr placed
  simp [WellPlaced, List.isChain_append]

/-- A run of pieces goes on over further pieces in front of what it takes. -/
theorem Matches.before {tokens : List Token} {pieces rest : List Char}
    (matched : Matches (.anyPieces :: tokens) rest) (whole : Whole pieces rest) :
    Matches (.anyPieces :: tokens) (pieces ++ rest) := by
  obtain ⟨taken, rest, rfl, more, others⟩ := matches_cons_iff.mp matched
  rw [← List.append_assoc]
  exact .cons (whole.append more) others

theorem matches_anyPieces_twice {tokens : List Token} {text : List Char} :
    Matches (.anyPieces :: .anyPieces :: tokens) text ↔ Matches (.anyPieces :: tokens) text := by
  constructor
  · intro matched
    obtain ⟨pieces, rest, rfl, whole, others⟩ := matches_cons_iff.mp matched
    exact others.before whole
  · intro matched
    have none : Token.Takes .anyPieces [] text := Or.inl rfl
    exact .cons none matched

theorem matches_append_congr {before after : List Token}
    (same : ∀ text, Matches before text ↔ Matches after text) (first : List Token)
    (text : List Char) : Matches (first ++ before) text ↔ Matches (first ++ after) text := by
  induction first generalizing text with
  | nil => exact same text
  | cons token first ih => simp only [List.cons_append, matches_cons_iff, ih]

theorem matches_kept_iff {raw : List Token} {text : List Char} :
    Matches (kept raw) text ↔ Matches raw text := by
  refine kept_iff (Matches · text) (fun before after => ?_) raw
  exact matches_append_congr (fun _ => matches_anyPieces_twice) before text

/-! ## What a pattern accepts -/

/-- A path is accepted by a pattern when the tokens that the pattern is written in match it. -/
def Accepts (source path : List Char) : Prop :=
  ∃ raw, Written true source raw ∧ Matches raw path

theorem matches_iff_of_written {source path : String} {pattern : Pattern} {raw : List Token}
    (compiled : Pattern.compile source = .ok pattern)
    (written : Written true source.toList raw) :
    pattern.matches path = true ↔ Matches raw path.toList := by
  rw [compile_eq_ok_iff.mpr ⟨raw, written, rfl⟩] at compiled
  cases compiled
  have placed : WellPlaced (kept raw) := wellPlaced_kept written.wellPlaced
  rw [Pattern.matches, decide_eq_true_iff, run_eq_matched_iff placed, matches_kept_iff]

/-- A compiled pattern matches exactly the paths that it accepts. -/
theorem matches_iff_accepts {source path : String} {pattern : Pattern}
    (compiled : Pattern.compile source = .ok pattern) :
    pattern.matches path = true ↔ Accepts source.toList path.toList := by
  constructor
  · intro matched
    obtain ⟨raw, written, _⟩ := compile_eq_ok_iff.mp compiled
    exact ⟨raw, written, (matches_iff_of_written compiled written).mp matched⟩
  · rintro ⟨raw, written, matched⟩
    exact (matches_iff_of_written compiled written).mpr matched

end MappedCoverage.Glob
