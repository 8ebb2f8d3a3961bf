import MappedCoverage.Proofs.Regex.Ends
import MappedCoverage.Proofs.Regex.Reading
import MappedCoverage.Regex.Compile

/-!
# Escaped texts

An escaped text is read letter by letter as the text that was escaped, and means an expression that
matches exactly this text. So it is found in a text exactly if it is a part of it.
-/

namespace MappedCoverage.Regex

/-! ## Reading -/

/-- The way a character is written to stand for itself. -/
def escapeChar (c : Char) : List Char :=
  if isMeta c then ['\\', c] else [c]

theorem toList_escape (text : String) : (escape text).toList = text.toList.flatMap escapeChar := by
  rw [escape, String.toList_ofList]
  rfl

/-- Every character that does not stand for itself is escaped. -/
theorem isMeta_of_mem_specialCharacters : ∀ c ∈ specialCharacters, isMeta c = true := by
  have all : specialCharacters.all isMeta = true := rfl
  exact List.all_eq_true.mp all

section

variable {fuel : Nat} {branches items : List Tree} {rest : List Char} {names : List String}

theorem readBranches_meta {c : Char} (special : isMeta c = true) :
    readBranches (fuel + 1) branches items ⟨'\\' :: c :: rest, false, names⟩ =
      readBranches fuel branches (.letter ⟨c, false⟩ :: items) ⟨rest, false, names⟩ := by
  simp only [isMeta, List.contains_iff_mem, List.mem_cons, List.not_mem_nil, or_false] at special
  rcases special with rfl | rfl | rfl | rfl | rfl | rfl | rfl | rfl | rfl | rfl | rfl | rfl | rfl |
    rfl | rfl | rfl | rfl | rfl
  all_goals rfl

theorem readBranches_escapeChar (c : Char) :
    readBranches (fuel + 1) branches items ⟨escapeChar c ++ rest, false, names⟩ =
      readBranches fuel branches (.letter ⟨c, false⟩ :: items) ⟨rest, false, names⟩ := by
  by_cases special : isMeta c = true
  · rw [escapeChar, if_pos special]
    exact readBranches_meta special
  · have plain : c ∉ specialCharacters := fun inside =>
      special (isMeta_of_mem_specialCharacters c inside)
    rw [escapeChar, if_neg special]
    exact readBranches_letter plain

/-- An escaped text is read as the letters of the text. -/
theorem readBranches_escaped (fuel : Nat) (text : List Char) :
    readBranches (fuel + text.length) branches items
        ⟨text.flatMap escapeChar ++ rest, false, names⟩ =
      readBranches fuel branches ((letters text).reverse ++ items) ⟨rest, false, names⟩ := by
  induction text generalizing items with
  | nil => rfl
  | cons c text ih =>
      rw [List.length_cons, ← Nat.add_assoc, List.flatMap_cons, List.append_assoc,
        readBranches_escapeChar, ih]
      simp [letters]

theorem readBranches_end_of_text :
    readBranches (fuel + 1) [] items ⟨[], false, names⟩ =
      some (Tree.ofItems items.reverse, ⟨[], false, names⟩) :=
  rfl

end

theorem length_le_flatMap_escapeChar (text : List Char) :
    text.length ≤ (text.flatMap escapeChar).length := by
  induction text with
  | nil => exact Nat.le_refl 0
  | cons c text ih =>
      have filled : 1 ≤ (escapeChar c).length := by
        unfold escapeChar
        split <;> simp
      rw [List.flatMap_cons, List.length_append, List.length_cons]
      omega

theorem greatestDepth_letters (text : List Char) : Tree.greatestDepth (letters text) = 0 := by
  induction text with
  | nil => rfl
  | cons c text ih => exact (Nat.zero_max _).trans ih

theorem depth_ofItems_letters (text : List Char) : (Tree.ofItems (letters text)).depth ≤ 1 := by
  match text with
  | [] => exact Nat.zero_le 1
  | [_] => exact Nat.zero_le 1
  | c :: d :: rest =>
      have flat := greatestDepth_letters (c :: d :: rest)
      exact Nat.le_of_eq (congrArg (· + 1) flat)

/-- Whatever the text, its escaped form can be read. -/
theorem read?_escape (text : String) :
    Tree.read? (escape text) = some (Tree.ofItems (letters text.toList)) := by
  obtain ⟨spare, long⟩ : ∃ spare, 2 * (text.toList.flatMap escapeChar).length + 2 =
      spare + 1 + text.toList.length := by
    have enough := length_le_flatMap_escapeChar text.toList
    exact ⟨2 * (text.toList.flatMap escapeChar).length + 1 - text.toList.length, by omega⟩
  have read : readBranches (spare + 1 + text.toList.length) [] []
      ⟨text.toList.flatMap escapeChar, false, []⟩ =
        some (Tree.ofItems (letters text.toList), ⟨[], false, []⟩) := by
    rw [← List.append_nil (text.toList.flatMap escapeChar), readBranches_escaped,
      List.append_nil, readBranches_end_of_text, List.reverse_reverse]
  have shallow : (Tree.ofItems (letters text.toList)).depth ≤ depthLimit :=
    Nat.le_trans (depth_ofItems_letters text.toList) (by decide)
  rw [Tree.read?, toList_escape]
  dsimp only
  rw [long, read, Option.bind_eq_bind, Option.bind_some]
  exact if_pos ⟨rfl, shallow⟩

/-! ## Meaning -/

theorem meaning?_letter (c : Char) :
    (Tree.letter ⟨c, false⟩).meaning? .initial =
      some (.oneOf [(c.toNat, c.toNat)], .initial) :=
  rfl

theorem meanings?_letters (text : List Char) :
    Tree.meanings? .initial (letters text) = some (literal text, .initial) := by
  induction text with
  | nil => rfl
  | cons c text ih =>
      change Tree.meanings? .initial (.letter ⟨c, false⟩ :: letters text) = _
      rw [Tree.meanings?, meaning?_letter, Option.bind_eq_bind, Option.bind_some]
      dsimp only
      rw [ih]
      rfl

/-- The letters of a text mean an expression that matches this text alone. -/
theorem meaning?_ofItems_letters (text : List Char) :
    ∃ regex, (Tree.ofItems (letters text)).meaning? .initial = some (regex, .initial) ∧
      Matches regex = .takes (· = text) := by
  have whole := matchesInTurn_literal text
  match text with
  | [] => exact ⟨.empty, rfl, whole⟩
  | [c] =>
      refine ⟨_, meaning?_letter c, ?_⟩
      rwa [literal, List.map_singleton, matchesInTurn_single] at whole
  | c :: d :: rest =>
      refine ⟨.sequence (literal (c :: d :: rest)), ?_, whole⟩
      change (Tree.sequence (letters (c :: d :: rest))).meaning? .initial = _
      rw [Tree.meaning?, meanings?_letters]
      rfl

/-! ## Matching -/

/-- An expression that matches one text alone is found where the text is a part. -/
theorem isMatch_iff_infix {regex : Regex} {text : List Char}
    (alone : Matches regex = .takes (· = text)) (title : String) :
    regex.isMatch title = true ↔ text <:+: title.toList := by
  rw [isMatch_iff, alone]
  constructor
  · rintro ⟨skipped, start, stop, _, spans, taken, rfl, own, _⟩
    refine ⟨skipped, stop.after, ?_⟩
    rw [List.append_assoc, ← own.after]
    exact spans.after.symm
  · rintro ⟨skipped, rest, whole⟩
    refine ⟨skipped, ⟨skipped.reverse, text ++ rest⟩, ⟨text.reverse ++ skipped.reverse, rest⟩, [],
      ⟨?_, ?_⟩, text, rfl, ⟨rfl, rfl⟩, rfl⟩
    · rw [← whole, List.append_assoc]
    · rw [List.append_nil]

/-- An escaped text within the limits is found where the text is a part. -/
theorem isMatch_escape_iff {text : String} {regex : Regex}
    (compiled : compile? (escape text) = some regex) (title : String) :
    regex.isMatch title = true ↔ text.toList <:+: title.toList := by
  obtain ⟨found, meant, alone⟩ := meaning?_ofItems_letters text.toList
  rw [compile?, read?_escape, Option.bind_eq_bind, Option.bind_some, meant, Option.bind_eq_bind,
    Option.bind_some] at compiled
  obtain ⟨_, same⟩ := Option.ite_none_right_eq_some.mp compiled
  obtain rfl := Option.some.inj same
  exact isMatch_iff_infix alone title

end MappedCoverage.Regex
