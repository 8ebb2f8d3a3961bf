import Mathlib.Data.List.Forall2
import MappedCoverage.Proofs.Glob.Sets
import MappedCoverage.Proofs.Text.Pieces

/-!
# Patterns piece by piece

A separator in a pattern stands for itself unless it belongs to a bracket class, and no token but a
run of pieces goes beyond a separator. So a pattern without such runs has as many separators as the
paths that it matches, and each of its pieces, taken as a pattern, matches a piece of the path.
-/

namespace MappedCoverage.Glob

/-! ## Lists side by side -/

theorem forall₂_modifyHead {α β : Type} {related : α → β → Prop} {left : List α} {right : List β}
    {onLeft : α → α} {onRight : β → β}
    (pairs : List.Forall₂ related left right)
    (first : ∀ a b, left.head? = some a → related a b → related (onLeft a) (onRight b)) :
    List.Forall₂ related (left.modifyHead onLeft) (right.modifyHead onRight) := by
  cases pairs with
  | nil => exact .nil
  | cons pair others => exact .cons (first _ _ rfl pair) others

/-- Lists that are related item by item relate to the same lists when related items do. -/
theorem forall₂_congr_left {α β γ : Type} {paired : α → β → Prop} {before : α → γ → Prop}
    {after : β → γ → Prop} {left : List α} {right : List β}
    (pairs : List.Forall₂ paired left right)
    (same : ∀ a b, paired a b → ∀ c, before a c ↔ after b c) (others : List γ) :
    List.Forall₂ before left others ↔ List.Forall₂ after right others := by
  induction pairs generalizing others with
  | nil => rw [List.forall₂_nil_left_iff, List.forall₂_nil_left_iff]
  | cons pair _ ih => simp only [List.forall₂_cons_left_iff, ih, same _ _ pair]

/-! ## The pieces of a pattern -/

/-- Where a character of a pattern stands: outside of classes, behind the opening of a class, behind
the mark of an excluding class, or behind the first character of a class. -/
inductive Standing where
  | outside
  | opened
  | marked
  | inside
deriving DecidableEq

/-- Where the character after this one stands. -/
def Standing.after (c : Char) : Standing → Standing
  | .outside => if c = '[' then .opened else .outside
  | .opened => if c = '!' then .marked else .inside
  | .marked => .inside
  | .inside => if c = ']' then .outside else .inside

/-- Whether a character separates pieces: a separator in a class does not. -/
def Standing.Ends (standing : Standing) (c : Char) : Prop :=
  standing = .outside ∧ c = '/'

instance (standing : Standing) (c : Char) : Decidable (standing.Ends c) :=
  inferInstanceAs (Decidable (standing = .outside ∧ c = '/'))

/-- The pieces of a pattern between its separators. -/
def piecesFrom : Standing → List Char → List (List Char)
  | _, [] => [[]]
  | standing, c :: rest =>
      if standing.Ends c then [] :: piecesFrom (standing.after c) rest
      else (piecesFrom (standing.after c) rest).modifyHead (c :: ·)

/-- The number of separators of a pattern. -/
def separatorsFrom : Standing → List Char → Nat
  | _, [] => 0
  | standing, c :: rest =>
      separatorsFrom (standing.after c) rest + if standing.Ends c then 1 else 0

theorem length_piecesFrom (standing : Standing) (text : List Char) :
    (piecesFrom standing text).length = separatorsFrom standing text + 1 := by
  induction text generalizing standing with
  | nil => rfl
  | cons c rest ih =>
      rw [piecesFrom, separatorsFrom]
      by_cases ends : standing.Ends c
      · rw [if_pos ends, if_pos ends, List.length_cons, ih]
      · rw [if_neg ends, if_neg ends, List.length_modifyHead, ih, Nat.add_zero]

/-- The first piece starts as the pattern does, unless it is empty. -/
theorem head?_of_head?_piecesFrom {standing : Standing} {text piece : List Char} {c : Char}
    (first : (piecesFrom standing text).head? = some piece) (starts : piece.head? = some c) :
    text.head? = some c := by
  cases text with
  | nil =>
      obtain rfl := Option.some.inj first
      cases starts
  | cons d rest =>
      rw [piecesFrom] at first
      by_cases ends : standing.Ends d
      · rw [if_pos ends] at first
        obtain rfl := Option.some.inj first
        cases starts
      · rw [if_neg ends, List.head?_modifyHead] at first
        obtain ⟨piece, _, rfl⟩ := Option.map_eq_some_iff.mp first
        exact starts

theorem piecesFrom_separator (rest : List Char) :
    piecesFrom .outside ('/' :: rest) = [] :: piecesFrom .outside rest := rfl

theorem piecesFrom_plain {c : Char} (unbracketed : c ≠ '[') (inner : c ≠ '/')
    (rest : List Char) :
    piecesFrom .outside (c :: rest) = (piecesFrom .outside rest).modifyHead (c :: ·) := by
  rw [piecesFrom, if_neg fun ends => inner ends.2, Standing.after, if_neg unbracketed]

/-! ## Classes -/

theorem piecesFrom_inside {body rest : List Char} (closed : ']' ∉ body) :
    piecesFrom .inside (body ++ ']' :: rest) =
      (piecesFrom .outside rest).modifyHead (body ++ ']' :: ·) := by
  induction body with
  | nil => simp [piecesFrom, Standing.Ends, Standing.after]
  | cons c body ih =>
      obtain ⟨other, others⟩ := not_or.mp (mt List.mem_cons.mpr closed)
      simp [piecesFrom, Standing.Ends, Standing.after, Ne.symm other, ih others, Function.comp_def]

/-- A class is a stretch of a pattern that ends by itself and belongs to one piece. -/
theorem exists_class_of_readClass? {text after : List Char} {token : Token}
    (read : readClass? text = some (token, after)) :
    ∃ body, text = body ++ after ∧ (∀ other, readClass? (body ++ other) = some (token, other)) ∧
      ∀ other, piecesFrom .outside ('[' :: (body ++ other)) =
        (piecesFrom .outside other).modifyHead fun piece => '[' :: (body ++ piece) := by
  obtain ⟨first, body, closed, ⟨rfl, rfl⟩ | ⟨rfl, unmarked, rfl⟩⟩ := readClass?_eq_some_iff.mp read
  · refine ⟨'!' :: first :: (body ++ [']']), by simp, fun other => ?_, fun other => ?_⟩
    · exact readClass?_eq_some_iff.mpr ⟨first, body, closed, Or.inl ⟨rfl, by simp⟩⟩
    · simp [piecesFrom, Standing.Ends, Standing.after, piecesFrom_inside closed, Function.comp_def]
  · refine ⟨first :: (body ++ [']']), by simp, fun other => ?_, fun other => ?_⟩
    · exact readClass?_eq_some_iff.mpr ⟨first, body, closed, Or.inr ⟨rfl, unmarked, by simp⟩⟩
    · simp [piecesFrom, Standing.Ends, Standing.after, unmarked, piecesFrom_inside closed,
        Function.comp_def]

/-! ## Reading piece by piece -/

/-- A token that stays within a piece. -/
def Token.IsInner (token : Token) : Prop :=
  token ≠ .char '/' ∧ token ≠ .anyPieces

theorem isInner_of_readClass? {text after : List Char} {token : Token}
    (read : readClass? text = some (token, after)) : token.IsInner := by
  obtain ⟨_, _, _, ⟨rfl, _⟩ | ⟨rfl, _⟩⟩ := readClass?_eq_some_iff.mp read
  · exact ⟨by simp, by simp⟩
  · exact ⟨by simp, by simp⟩

/-- The tokens of each piece of a pattern, where separators are tokens of their own. -/
def tokenPieces (tokens : List Token) : List (List Token) :=
  tokens.splitOn (.char '/')

theorem tokenPieces_separator (tokens : List Token) :
    tokenPieces (.char '/' :: tokens) = [] :: tokenPieces tokens := by
  rw [tokenPieces, List.splitOn_cons_eq_if_modifyHead, if_pos (beq_self_eq_true _)]
  rfl

theorem tokenPieces_inner {token : Token} (inner : token.IsInner) (tokens : List Token) :
    tokenPieces (token :: tokens) = (tokenPieces tokens).modifyHead (token :: ·) := by
  rw [tokenPieces, List.splitOn_cons_eq_if_modifyHead, if_neg (by simpa using inner.1)]
  rfl

/-- A pattern that is written without runs of pieces is written piece by piece. -/
theorem Written.pieces_of_flat {opens : Bool} {text : List Char} {raw : List Token}
    (written : Written opens text raw) (flat : .anyPieces ∉ raw) :
    List.Forall₂ (Written false) (piecesFrom .outside text) (tokenPieces raw) := by
  induction written with
  | nil => exact .cons .nil .nil
  | anyChar _ ih =>
      have inner : Token.IsInner .anyChar := ⟨by simp, by simp⟩
      rw [tokenPieces_inner inner, piecesFrom_plain (by decide) (by decide)]
      refine forall₂_modifyHead (ih (List.not_mem_of_not_mem_cons flat)) ?_
      intro piece tokens _ own
      exact .anyChar own
  | anyRun alone _ ih =>
      have inner : Token.IsInner .anyRun := ⟨by simp, by simp⟩
      rw [tokenPieces_inner inner, piecesFrom_plain (by decide) (by decide)]
      refine forall₂_modifyHead (ih (List.not_mem_of_not_mem_cons flat)) ?_
      intro piece tokens first own
      exact .anyRun (fun star => alone (head?_of_head?_piecesFrom first star)) own
  | lastPieces | pieces => exact absurd List.mem_cons_self flat
  | bracket inside _ ih =>
      have inner := isInner_of_readClass? inside
      obtain ⟨body, rfl, reads, cut⟩ := exists_class_of_readClass? inside
      rw [tokenPieces_inner inner, cut]
      refine forall₂_modifyHead (ih (List.not_mem_of_not_mem_cons flat)) ?_
      intro piece tokens _ own
      exact .bracket (reads piece) own
  | @char _ c rest tokens plain _ ih =>
      have others := ih (List.not_mem_of_not_mem_cons flat)
      by_cases separator : c = '/'
      · subst separator
        rw [tokenPieces_separator, piecesFrom_separator]
        exact .cons .nil others
      · have inner : Token.IsInner (.char c) := ⟨by simpa using separator, by simp⟩
        rw [tokenPieces_inner inner, piecesFrom_plain (by grind) separator]
        refine forall₂_modifyHead others ?_
        intro piece tokens _ own
        exact .char plain (by simpa [separator] using own)

/-- A run of pieces is written as a piece of its own; it is the first piece only where a piece
starts. -/
theorem Written.mem_pieces {opens : Bool} {text : List Char} {raw : List Token}
    (written : Written opens text raw) (runs : .anyPieces ∈ raw) :
    ['*', '*'] ∈ (piecesFrom .outside text).tail ∨
      opens = true ∧ (piecesFrom .outside text).head? = some ['*', '*'] := by
  induction written with
  | nil => cases runs
  | anyChar _ ih | anyRun _ _ ih =>
      rw [piecesFrom_plain (by decide) (by decide), List.tail_modifyHead]
      exact Or.inl ((ih (List.mem_of_ne_of_mem (by simp) runs)).resolve_right (by simp))
  | lastPieces | pieces => exact Or.inr ⟨rfl, rfl⟩
  | bracket inside _ ih =>
      have inner := isInner_of_readClass? inside
      obtain ⟨body, rfl, _, cut⟩ := exists_class_of_readClass? inside
      rw [cut, List.tail_modifyHead]
      exact Or.inl ((ih (List.mem_of_ne_of_mem inner.2.symm runs)).resolve_right (by simp))
  | @char _ c rest tokens plain _ ih =>
      have later := ih (List.mem_of_ne_of_mem (by simp) runs)
      by_cases separator : c = '/'
      · subst separator
        rw [piecesFrom_separator]
        rcases later with inside | ⟨_, first⟩
        · exact Or.inl (List.mem_of_mem_tail inside)
        · exact Or.inl (List.mem_of_head? first)
      · rw [piecesFrom_plain (by grind) separator, List.tail_modifyHead]
        exact Or.inl (later.resolve_right (by simp [separator]))

/-- A pattern without a piece of two stars is written without runs of pieces. -/
theorem Written.flat_of_pieces {opens : Bool} {text : List Char} {raw : List Token}
    (written : Written opens text raw) (flat : ['*', '*'] ∉ piecesFrom .outside text) :
    .anyPieces ∉ raw := by
  intro runs
  rcases written.mem_pieces runs with inside | ⟨_, first⟩
  · exact flat (List.mem_of_mem_tail inside)
  · exact flat (List.mem_of_head? first)

/-! ## Matching piece by piece -/

section

variable {token : Token} (inner : token.IsInner)

include inner

theorem Token.IsInner.not_mem {taken rest : List Char} (takes : token.Takes taken rest) :
    '/' ∉ taken := by
  cases token with
  | anyRun => exact takes
  | anyPieces => exact absurd rfl inner.2
  | char d =>
      obtain ⟨c, rfl, admitted⟩ := takes
      have same : c = d := of_decide_eq_true admitted
      intro inside
      exact inner.1 (by rw [List.mem_singleton.mp inside, same])
  | anyChar | anyOf members | noneOf members =>
      obtain ⟨c, rfl, admitted⟩ := takes
      simp only [Token.admits, Bool.and_eq_true, decide_eq_true_eq] at admitted
      grind

/-- What follows does not matter to a token that stays within a piece. -/
theorem Token.IsInner.takes_iff {taken rest other : List Char} :
    token.Takes taken rest ↔ token.Takes taken other := by
  cases token with
  | anyPieces => exact absurd rfl inner.2
  | _ => rfl

end

theorem matches_separator_iff {tokens : List Token} {text : List Char} :
    Matches (.char '/' :: tokens) text ↔ ∃ rest, text = '/' :: rest ∧ Matches tokens rest := by
  have single : Token.IsSingle (.char '/') := ⟨by simp, by simp⟩
  rw [matches_single_iff single]
  constructor
  · rintro ⟨c, rest, rfl, admitted, matched⟩
    exact ⟨rest, by rw [of_decide_eq_true admitted], matched⟩
  · rintro ⟨rest, rfl, matched⟩
    exact ⟨'/', rest, rfl, rfl, matched⟩

/-- Tokens without runs of pieces match a text exactly if those of each piece match a piece of it. -/
theorem matches_iff_pieces {tokens : List Token} (flat : .anyPieces ∉ tokens)
    (text : List Char) :
    Matches tokens text ↔ List.Forall₂ Matches (tokenPieces tokens) (Text.split '/' text) := by
  induction tokens generalizing text with
  | nil =>
      rw [matches_nil_iff]
      constructor
      · rintro rfl
        exact .cons .nil .nil
      · intro pairs
        obtain ⟨name, _, own, none, cut⟩ := List.forall₂_cons_left_iff.mp pairs
        obtain rfl := matches_nil_iff.mp own
        cases none
        exact (Text.split_eq_iff.mp cut).2.2
  | cons token tokens ih =>
      have later (rest : List Char) := ih (List.not_mem_of_not_mem_cons flat) rest
      have nonempty : tokenPieces tokens ≠ [] := List.splitOn_ne_nil _ _
      by_cases separator : token = .char '/'
      · subst separator
        rw [matches_separator_iff, tokenPieces_separator, List.forall₂_cons_left_iff]
        constructor
        · rintro ⟨rest, rfl, matched⟩
          exact ⟨[], _, .nil, (later rest).mp matched, by rw [Text.split_cons, if_pos rfl]⟩
        · rintro ⟨name, names, own, others, cut⟩
          obtain rfl := matches_nil_iff.mp own
          have more : names ≠ [] := by
            rintro rfl
            exact nonempty (List.forall₂_nil_right_iff.mp others)
          obtain ⟨rest, rfl, rfl⟩ := (Text.split_eq_nil_cons_iff more).mp cut
          exact ⟨rest, rfl, (later rest).mpr others⟩
      · have inner : token.IsInner := ⟨separator, (List.ne_of_not_mem_cons flat).symm⟩
        obtain ⟨first, others, cutTokens⟩ := List.exists_cons_of_ne_nil nonempty
        rw [tokenPieces_inner inner, cutTokens, List.modifyHead_cons, matches_cons_iff,
          List.forall₂_cons_left_iff]
        simp only [later, cutTokens, List.forall₂_cons_left_iff, matches_cons_iff]
        -- What the token takes holds no separator, so it starts the first piece of the text.
        constructor
        · rintro ⟨taken, rest, rfl, takes, name, names, own, matched, cut⟩
          have free := inner.not_mem takes
          exact ⟨_, names, ⟨taken, name, rfl, inner.takes_iff.mp takes, own⟩, matched,
            (Text.split_eq_append_cons_iff free).mpr ⟨rest, rfl, cut⟩⟩
        · rintro ⟨_, names, ⟨taken, name, rfl, takes, own⟩, matched, cut⟩
          have free := inner.not_mem takes
          obtain ⟨rest, rfl, cutRest⟩ := (Text.split_eq_append_cons_iff free).mp cut
          exact ⟨taken, rest, rfl, inner.takes_iff.mp takes, name, names, own, matched, cutRest⟩

/-! ## Patterns without runs of pieces -/

theorem Written.opened {text : List Char} {raw : List Token} (written : Written false text raw) :
    Written true text raw := by
  cases written with
  | nil => exact .nil
  | anyChar others => exact .anyChar others
  | anyRun alone others => exact .anyRun alone others
  | bracket inside others => exact .bracket inside others
  | char plain others => exact .char plain others

/-- A text, taken as a pattern of its own, is well-formed and matches a path. -/
def MatchesAlone (source path : List Char) : Prop :=
  ∃ pattern, Pattern.compile (String.ofList source) = .ok pattern ∧
    pattern.matches (String.ofList path) = true

theorem matchesAlone_iff_of_written {source path : List Char} {raw : List Token}
    (written : Written true source raw) : MatchesAlone source path ↔ Matches raw path := by
  rw [← String.toList_ofList (l := source)] at written
  have compiled := compile_eq_ok_iff.mpr ⟨raw, written, rfl⟩
  have matched : Pattern.matches ⟨String.ofList source, kept raw⟩ (String.ofList path) = true ↔
      Matches raw path := by
    rw [matches_iff_of_written compiled written, String.toList_ofList]
  rw [← matched]
  constructor
  · rintro ⟨pattern, same, found⟩
    rw [compiled] at same
    cases same
    exact found
  · intro found
    exact ⟨_, compiled, found⟩

theorem Written.forall₂_matchesAlone_iff {opens : Bool} {text : List Char} {raw : List Token}
    (written : Written opens text raw) (flat : .anyPieces ∉ raw) (names : List (List Char)) :
    List.Forall₂ MatchesAlone (piecesFrom .outside text) names ↔
      List.Forall₂ Matches (tokenPieces raw) names := by
  apply forall₂_congr_left (written.pieces_of_flat flat)
  intro piece tokens own name
  exact matchesAlone_iff_of_written own.opened

/-- A pattern without a piece of two stars matches a path exactly if each of its pieces, taken as a
pattern, matches a piece of the path; the path then has as many separators as the pattern has
outside of classes. -/
theorem matches_iff_piecewise
    {sources : List String}
    {set : PatternSet}
    {pattern : Pattern}
    (compiled : PatternSet.compile sources = .ok set)
    (listed : pattern ∈ set.patterns)
    (flat : ['*', '*'] ∉ piecesFrom .outside pattern.source.toList)
    (path : String) :
    (pattern.matches path = true ↔
      List.Forall₂ MatchesAlone (piecesFrom .outside pattern.source.toList)
        (Text.split '/' path.toList)) ∧
    (pattern.matches path = true →
      path.toList.count '/' = separatorsFrom .outside pattern.source.toList) := by
  have own := PatternSet.compile_source_of_mem compiled listed
  obtain ⟨raw, written, _⟩ := compile_eq_ok_iff.mp own
  have flatTokens := written.flat_of_pieces flat
  have piecewise : pattern.matches path = true ↔
      List.Forall₂ MatchesAlone (piecesFrom .outside pattern.source.toList)
        (Text.split '/' path.toList) := by
    rw [matches_iff_of_written own written, matches_iff_pieces flatTokens,
      written.forall₂_matchesAlone_iff flatTokens]
  refine ⟨piecewise, fun matched => ?_⟩
  have lengths := (piecewise.mp matched).length_eq
  rw [length_piecesFrom, Text.length_split] at lengths
  omega

/-- A separator in a class separates nothing. -/
theorem matches_iff_piecewise_bracketed :
    ∃ set pattern,
      PatternSet.compile ["src/[!/x]?*/*.[jt]s"] = .ok set ∧
      pattern ∈ set.patterns ∧
      piecesFrom .outside pattern.source.toList =
        ["src".toList, "[!/x]?*".toList, "*.[jt]s".toList] ∧
      ['*', '*'] ∉ piecesFrom .outside pattern.source.toList ∧
      pattern.matches "src/main/app.js" = true ∧
      List.Forall₂ MatchesAlone (piecesFrom .outside pattern.source.toList)
        (Text.split '/' "src/main/app.js".toList) ∧
      "src/main/app.js".toList.count '/' = separatorsFrom .outside pattern.source.toList := by
  obtain ⟨set, pattern, compiled, listed, cut, matched⟩ : ∃ set pattern,
      PatternSet.compile ["src/[!/x]?*/*.[jt]s"] = .ok set ∧ pattern ∈ set.patterns ∧
      piecesFrom .outside pattern.source.toList =
        ["src".toList, "[!/x]?*".toList, "*.[jt]s".toList] ∧
      pattern.matches "src/main/app.js" = true :=
    ⟨_, _, rfl, List.mem_cons_self, by decide, by decide⟩
  have flat : ['*', '*'] ∉ piecesFrom .outside pattern.source.toList := by
    rw [cut]
    decide
  obtain ⟨pieces, separators⟩ := matches_iff_piecewise compiled listed flat "src/main/app.js"
  exact ⟨set, pattern, compiled, listed, cut, flat, matched, pieces.mp matched,
    separators matched⟩

end MappedCoverage.Glob
