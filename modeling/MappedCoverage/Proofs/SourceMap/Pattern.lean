import MappedCoverage.Proofs.Regex.Matching
import MappedCoverage.Proofs.Regex.Reading
import MappedCoverage.Proofs.SourceMap.Comments
import MappedCoverage.Proofs.Unicode.Classes
import MappedCoverage.Regex.Meaning

/-!
# The pattern of map comments

Map comments as a regular expression: what is written is read as a tree, the tree means an
expression, and the expression matches a comment from the start of its line to the end of a line.
Between the two there are only the comment and blanks, which may be line breaks.
-/

namespace MappedCoverage.SourceMap

open Regex (ClassTree Matches MatchesInTurn Matching Place Tree letters literal readBranches)

/-! ## What is written -/

/-- Map comments as a regular expression is written. -/
def commentPattern : String :=
  "(?m)^//# sourceMappingURL=data:application/json(?:;charset=[\\w-]+)?;base64,"
    ++ "([A-Za-z0-9+/=]+)\\s*$"

/-- The classes of characters that a class lists. -/
def characters (listed : List Char) : List ClassTree :=
  listed.map fun c => .single ⟨c, false⟩

/-- The tree of characters of a character set. -/
def charsetTree : Tree :=
  .repeated (.brackets (.union (.shorthand .word false :: characters ['-'])) false) 1 none

/-- The tree of characters of a payload. -/
def payloadTree : Tree :=
  .repeated (.brackets (.union ([.range ⟨'A', false⟩ ⟨'Z', false⟩, .range ⟨'a', false⟩ ⟨'z', false⟩,
    .range ⟨'0', false⟩ ⟨'9', false⟩] ++ characters ['+', '/', '='])) false) 1 none

/-- The tree of the pattern. -/
def commentTree : Tree :=
  .sequence ([.flags [(.multiLine, true)], .anchor .caret] ++ letters commentOpening
    ++ [.repeated (.group [] false (.sequence (letters charsetMark ++ [charsetTree]))) 0 (some 1)]
    ++ letters payloadMark
    ++ [.group [] true payloadTree, .repeated (.shorthand .space false) 0 none, .anchor .dollar])

section

variable {fuel : Nat} {branches items : List Tree} {rest : List Char} {names : List String}

theorem readBranches_start :
    readBranches (fuel + 2) branches items ⟨"(?m)^".toList ++ rest, false, names⟩ =
      readBranches fuel branches (.anchor .caret :: .flags [(.multiLine, true)] :: items)
        ⟨rest, false, names⟩ :=
  rfl

theorem readBranches_charset :
    readBranches (fuel + 20) [] items ⟨"[\\w-]+)".toList ++ rest, false, names⟩ =
      some (Tree.ofItems (charsetTree :: items).reverse, ⟨')' :: rest, false, names⟩) := by
  let behind := '+' :: ')' :: rest
  have read : Regex.readClass (fuel + 19) ("\\w-]".toList ++ behind)
      ⟨'[' :: ("\\w-]".toList ++ behind), false, names⟩ =
        some (.union (.shorthand .word false :: characters ['-']), false, ⟨behind, false, names⟩) :=
    rfl
  exact (Regex.readBranches_brackets read).trans
    (Regex.readBranches_plus.trans Regex.readBranches_close)

theorem readBranches_payload :
    readBranches (fuel + 20) [] [] ⟨"[A-Za-z0-9+/=]+)".toList ++ rest, false, names⟩ =
      some (payloadTree, ⟨')' :: rest, false, names⟩) := by
  let behind := '+' :: ')' :: rest
  have read : Regex.readClass (fuel + 19) ("A-Za-z0-9+/=]".toList ++ behind)
      ⟨'[' :: ("A-Za-z0-9+/=]".toList ++ behind), false, names⟩ =
        some (.union ([.range ⟨'A', false⟩ ⟨'Z', false⟩, .range ⟨'a', false⟩ ⟨'z', false⟩,
          .range ⟨'0', false⟩ ⟨'9', false⟩] ++ characters ['+', '/', '=']), false,
          ⟨behind, false, names⟩) :=
    rfl
  exact (Regex.readBranches_brackets read).trans
    (Regex.readBranches_plus.trans Regex.readBranches_close)

theorem readBranches_optional {inner : Tree} :
    readBranches (fuel + 1) [] (.group [] false inner :: items)
        ⟨'?' :: (payloadMark ++ rest), false, names⟩ =
      readBranches fuel [] (.repeated (.group [] false inner) 0 (some 1) :: items)
        ⟨payloadMark ++ rest, false, names⟩ :=
  rfl

theorem readBranches_end :
    readBranches (fuel + 4) [] items ⟨"\\s*$".toList, false, names⟩ =
      some (Tree.ofItems
        (.anchor .dollar :: .repeated (.shorthand .space false) 0 none :: items).reverse,
        ⟨[], false, names⟩) :=
  rfl

end

theorem plain_commentOpening :
    commentOpening.length = 42 ∧ Regex.isPlain commentOpening = true := by
  decide +kernel

theorem plain_charsetMark : charsetMark.length = 9 ∧ Regex.isPlain charsetMark = true := by
  decide +kernel

theorem plain_payloadMark : payloadMark.length = 8 ∧ Regex.isPlain payloadMark = true := by
  decide +kernel

theorem toList_commentPattern : commentPattern.toList =
    "(?m)^".toList ++ (commentOpening ++ ('(' :: '?' :: ':' :: (charsetMark ++
      ("[\\w-]+)".toList ++ ('?' :: (payloadMark ++ ('(' ::
        ("[A-Za-z0-9+/=]+)".toList ++ "\\s*$".toList)))))))) := by
  decide +kernel

theorem length_commentPattern : commentPattern.toList.length = 96 := by decide +kernel

/-- The optional group of a character set. -/
theorem readBranches_charsetGroup {rest : List Char} {names : List String} :
    readBranches 149 [] [] ⟨charsetMark ++ ("[\\w-]+)".toList ++ rest), false, names⟩ =
      some (.sequence (letters charsetMark ++ [charsetTree]), ⟨')' :: rest, false, names⟩) := by
  rw [Regex.readBranches_letters 140 plain_charsetMark.1 plain_charsetMark.2, readBranches_charset]
  rfl

/-- The pattern is read as its tree. -/
theorem read?_commentPattern : Tree.read? commentPattern = some commentTree := by
  have opens : ("[A-Za-z0-9+/=]+)".toList ++ "\\s*$".toList).head? = some '[' := by decide +kernel
  have whole : Tree.ofItems
      (.anchor .dollar :: .repeated (.shorthand .space false) 0 none :: .group [] true payloadTree ::
        ((letters payloadMark).reverse ++
          .repeated (.group [] false (.sequence (letters charsetMark ++ [charsetTree]))) 0 (some 1) ::
            ((letters commentOpening).reverse ++
              [.anchor .caret, .flags [(.multiLine, true)]]))).reverse = commentTree := by
    simp [commentTree, Tree.ofItems]
  have shallow : commentTree.depth ≤ Regex.depthLimit := by decide +kernel
  rw [Tree.read?]
  dsimp only
  rw [length_commentPattern, toList_commentPattern]
  change (readBranches (192 + 2) [] [] _ >>= fun read => _) = _
  rw [readBranches_start,
    Regex.readBranches_letters 150 plain_commentOpening.1 plain_commentOpening.2,
    Regex.readBranches_group readBranches_charsetGroup, readBranches_optional,
    Regex.readBranches_letters 140 plain_payloadMark.1 plain_payloadMark.2,
    Regex.readBranches_capture opens readBranches_payload, readBranches_end, Option.bind_eq_bind,
    Option.bind_some, whole]
  exact if_pos ⟨rfl, shallow⟩

/-! ## What is meant -/

/-- The class of characters of a character set. -/
def charsetRanges : Unicode.Ranges :=
  Unicode.Ranges.normalize (Unicode.wordCharacters ++ [('-'.toNat, '-'.toNat)])

/-- The class of characters of a payload. -/
def payloadRanges : Unicode.Ranges :=
  Unicode.Ranges.normalize [('A'.toNat, 'Z'.toNat), ('a'.toNat, 'z'.toNat), ('0'.toNat, '9'.toNat),
    ('+'.toNat, '+'.toNat), ('/'.toNat, '/'.toNat), ('='.toNat, '='.toNat)]

/-- The character set of a comment. -/
def charsetExpression : Regex :=
  .sequence (literal charsetMark ++ [.repeated (.oneOf charsetRanges) 1 none])

/-- Map comments as a regular expression. -/
def commentExpression : Regex :=
  .sequence ([.empty, .look .lineStart] ++ literal commentOpening
    ++ [.repeated charsetExpression 0 (some 1)] ++ literal payloadMark
    ++ [.capture (.repeated (.oneOf payloadRanges) 1 none), .repeated (.oneOf Unicode.spaces) 0 none,
      .look .lineEnd])

/-- The tree of the pattern means the expression. -/
theorem meaning?_commentTree :
    (commentTree.meaning? Regex.Flags.initial).map (·.1) = some commentExpression :=
  rfl

theorem holds_charsetRanges (c : Char) : charsetRanges.holds c.toNat = isCharsetChar c := by
  have hyphen : Unicode.Ranges.holds [('-'.toNat, '-'.toNat)] c.toNat = decide (c = '-') := by
    rw [Bool.eq_iff_iff, decide_eq_true_eq]
    exact Regex.holds_single_iff
  rw [charsetRanges, Unicode.Ranges.holds_normalize, Unicode.Ranges.holds_append, hyphen,
    isCharsetChar, Unicode.isWord_eq_holds]

theorem holds_payloadRanges (c : Char) : payloadRanges.holds c.toNat = isPayloadChar c := by
  have le_iff (a b : Char) : a ≤ b ↔ a.toNat ≤ b.toNat := UInt32.le_iff_toNat_le
  have eq_iff (d : Char) : c = d ↔ c.toNat = d.toNat := Char.toNat_inj.symm
  rw [payloadRanges, Unicode.Ranges.holds_normalize, isPayloadChar, Bool.eq_iff_iff]
  simp only [Unicode.Ranges.holds, List.any_cons, List.any_nil, Bool.or_false, Bool.or_eq_true,
    Bool.and_eq_true, decide_eq_true_eq, eq_iff, le_iff]
  omega

/-! ## What is matched -/

/-- A place where a line starts. -/
def AtLineStart (place : Place) : Prop :=
  ∀ c ∈ place.before.head?, c = '\n'

/-- A place where a line ends. -/
def AtLineEnd (place : Place) : Prop :=
  ∀ c ∈ place.after.head?, c = '\n'

theorem matches_class {ranges : Unicode.Ranges} {isMember : Char → Bool} (least : Nat)
    (holds : ∀ c : Char, ranges.holds c.toNat = isMember c) :
    Matches (.repeated (.oneOf ranges) least none) =
      .takes fun run => least ≤ run.length ∧ run.all isMember = true := by
  rw [Regex.matches_run]
  simp only [holds, List.all_eq_true]

theorem matches_charset :
    Matches (.repeated charsetExpression 0 (some 1)) = .takes IsCharset := by
  have named : Matches charsetExpression = .takes fun taken =>
      ∃ name, name ≠ [] ∧ name.all isCharsetChar ∧ taken = charsetMark ++ name := by
    change MatchesInTurn (literal charsetMark ++ [.repeated (.oneOf charsetRanges) 1 none]) = _
    rw [Regex.matchesInTurn_append, Regex.matchesInTurn_literal, Regex.matchesInTurn_single,
      matches_class _ holds_charsetRanges, Matching.takes_andThen_takes]
    congr 1
    funext taken
    simp [Nat.one_le_iff_ne_zero, and_assoc]
  rw [Regex.matches_optional named]
  rfl

/-- What stands in front of the payload. -/
def IsHead (taken : List Char) : Prop :=
  ∃ charset, IsCharset charset ∧ taken = commentOpening ++ charset ++ payloadMark

theorem matchesInTurn_head :
    MatchesInTurn (literal commentOpening ++ [.repeated charsetExpression 0 (some 1)]
      ++ literal payloadMark) = .takes IsHead := by
  rw [Regex.matchesInTurn_append, Regex.matchesInTurn_append, Regex.matchesInTurn_literal,
    Regex.matchesInTurn_literal, Regex.matchesInTurn_single, matches_charset,
    Matching.takes_andThen_takes, Matching.takes_andThen_takes]
  congr 1
  funext taken
  apply propext
  constructor
  · rintro ⟨_, _, ⟨_, charset, rfl, named, rfl⟩, rfl, rfl⟩
    exact ⟨charset, named, rfl⟩
  · rintro ⟨charset, named, rfl⟩
    exact ⟨_, _, ⟨_, charset, rfl, named, rfl⟩, rfl, rfl⟩

theorem holdsBetween_lineStart_iff {before after : Option Char} :
    Regex.holdsBetween before after .lineStart = true ↔ ∀ c ∈ before, c = '\n' := by
  cases before <;> simp [Regex.holdsBetween]

theorem holdsBetween_lineEnd_iff {before after : Option Char} :
    Regex.holdsBetween before after .lineEnd = true ↔ ∀ c ∈ after, c = '\n' := by
  cases after <;> simp [Regex.holdsBetween]

theorem matches_payload_iff {start stop : Place} {captures : List (List Char)} :
    Matches (.capture (.repeated (.oneOf payloadRanges) 1 none)) start stop captures ↔
      ∃ payload, (payload ≠ [] ∧ payload.all isPayloadChar = true) ∧ start.Spans payload stop ∧
        captures = [payload] := by
  rw [Regex.matches_capture, matches_class 1 holds_payloadRanges, Matching.captured_takes]
  simp only [Nat.one_le_iff_ne_zero, ne_eq, List.length_eq_zero_iff]

/-- The expression in its parts. -/
theorem matches_commentExpression : Matches commentExpression =
    (Matches (.look .lineStart)).andThen ((Matching.takes IsHead).andThen
      ((Matches (.capture (.repeated (.oneOf payloadRanges) 1 none))).andThen
        ((Matches (.repeated (.oneOf Unicode.spaces) 0 none)).andThen
          (Matches (.look .lineEnd))))) := by
  have parts : commentExpression = .sequence ([.empty, .look .lineStart] ++
      ((literal commentOpening ++ [.repeated charsetExpression 0 (some 1)] ++ literal payloadMark)
        ++ [.capture (.repeated (.oneOf payloadRanges) 1 none),
          .repeated (.oneOf Unicode.spaces) 0 none, .look .lineEnd])) := by
    simp only [commentExpression, List.append_assoc]
  have opens : MatchesInTurn [.empty, .look .lineStart] = Matches (.look .lineStart) := by
    rw [MatchesInTurn, Regex.matchesInTurn_single]
    exact Matching.nothing_andThen
  rw [parts, Regex.matches_sequence, Regex.matchesInTurn_append, Regex.matchesInTurn_append,
    matchesInTurn_head, opens, MatchesInTurn, MatchesInTurn, Regex.matchesInTurn_single]

/-- A match is a comment from the start of its line, with blanks up to the end of a line. -/
theorem matches_commentExpression_iff {start stop : Place} {captures : List (List Char)} :
    Matches commentExpression start stop captures ↔
      AtLineStart start ∧ AtLineEnd stop ∧ ∃ charset payload blanks, IsCharset charset ∧
        payload ≠ [] ∧ payload.all isPayloadChar = true ∧ blanks.all Text.isSpace = true ∧
        start.Spans (commentOpening ++ charset ++ payloadMark ++ payload ++ blanks) stop ∧
        captures = [payload] := by
  have blank (c : Char) : Unicode.spaces.holds c.toNat = Text.isSpace c :=
    (Unicode.isSpace_eq_holds c).symm
  rw [matches_commentExpression, Regex.look_andThen_iff, holdsBetween_lineStart_iff,
    ← Matching.andThen_assoc, ← Matching.andThen_assoc, Regex.andThen_look_iff,
    holdsBetween_lineEnd_iff, matches_class 0 blank]
  refine and_congr_right fun _ => and_comm.trans (and_congr_right fun _ => ?_)
  constructor
  · rintro ⟨behind, _, _, ⟨between, _, _, ⟨_, ⟨charset, named, rfl⟩, spansHead, rfl⟩, matched, rfl⟩,
      ⟨blanks, ⟨_, blank⟩, spansBlanks, rfl⟩, rfl⟩
    obtain ⟨payload, ⟨nonempty, all⟩, spansPayload, rfl⟩ := matches_payload_iff.mp matched
    refine ⟨charset, payload, blanks, named, nonempty, all, blank, ?_, rfl⟩
    exact Place.spans_append_iff.mpr
      ⟨behind, Place.spans_append_iff.mpr ⟨between, spansHead, spansPayload⟩, spansBlanks⟩
  · rintro ⟨charset, payload, blanks, named, nonempty, all, blank, spans, rfl⟩
    obtain ⟨behind, spans, spansBlanks⟩ := Place.spans_append_iff.mp spans
    obtain ⟨between, spansHead, spansPayload⟩ := Place.spans_append_iff.mp spans
    refine ⟨behind, [payload], [], ⟨between, [], [payload], ?_, ?_, rfl⟩, ?_, rfl⟩
    · exact ⟨_, ⟨charset, named, rfl⟩, spansHead, rfl⟩
    · exact matches_payload_iff.mpr ⟨payload, ⟨nonempty, all⟩, spansPayload, rfl⟩
    · exact ⟨blanks, ⟨Nat.zero_le _, blank⟩, spansBlanks, rfl⟩

end MappedCoverage.SourceMap
