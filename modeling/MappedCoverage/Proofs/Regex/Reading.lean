import MappedCoverage.Regex.Reader

/-!
# Reading regular expressions step by step

How the reader goes on at letters, brackets, groups and marks of repetition, where blanks count.
What it has read stands in front of what it had before, the last item first.
-/

namespace MappedCoverage.Regex

/-- The characters that do not stand for themselves. -/
def specialCharacters : List Char :=
  ['(', ')', '|', '[', '?', '*', '+', '{', '\\', '.', '^', '$']

/-- The letters of a text that stands for itself. -/
def letters (text : List Char) : List Tree :=
  text.map fun c => .letter ⟨c, false⟩

/-- Whether a text stands for itself. -/
def isPlain (text : List Char) : Bool :=
  text.all fun c => !specialCharacters.contains c

section

variable {fuel : Nat} {branches items : List Tree} {rest inner : List Char} {names : List String}

theorem readBranches_letter {c : Char} (plain : c ∉ specialCharacters) :
    readBranches (fuel + 1) branches items ⟨c :: rest, false, names⟩ =
      readBranches fuel branches (.letter ⟨c, false⟩ :: items) ⟨rest, false, names⟩ := by
  simp only [specialCharacters, List.mem_cons, List.not_mem_nil, or_false, not_or] at plain
  rw [readBranches]
  simp only [Source.token, Source.gotoToken, Source.restAfterSpace, Source.goto,
    Bool.false_eq_true, if_false]
  split <;> simp_all

/-- A plain text is read letter by letter. -/
theorem readBranches_letters (fuel : Nat) {text : List Char} {count : Nat}
    (long : text.length = count) (plain : isPlain text = true) :
    readBranches (fuel + count) branches items ⟨text ++ rest, false, names⟩ =
      readBranches fuel branches ((letters text).reverse ++ items) ⟨rest, false, names⟩ := by
  subst long
  induction text generalizing items with
  | nil => rfl
  | cons c text ih =>
      rw [isPlain, List.all_cons, Bool.and_eq_true, Bool.not_eq_true', List.contains_eq_mem,
        decide_eq_false_iff_not] at plain
      obtain ⟨own, others⟩ := plain
      rw [List.length_cons, ← Nat.add_assoc, List.cons_append, readBranches_letter own, ih others]
      simp [letters]

/-- A class whose inside is read. -/
theorem readBranches_brackets {body : ClassTree} (read : readClass fuel inner
      ⟨'[' :: inner, false, names⟩ = some (body, false, ⟨rest, false, names⟩)) :
    readBranches (fuel + 1) branches items ⟨'[' :: inner, false, names⟩ =
      readBranches fuel branches (.brackets body false :: items) ⟨rest, false, names⟩ := by
  change (readClass fuel inner ⟨'[' :: inner, false, names⟩ >>= fun read => _) = _
  rw [read]
  rfl

/-- A class that is repeated at the end of a group. -/
theorem readBranches_plus {body : ClassTree} :
    readBranches (fuel + 1) branches (.brackets body false :: items)
        ⟨'+' :: ')' :: rest, false, names⟩ =
      readBranches fuel branches (.repeated (.brackets body false) 1 none :: items)
        ⟨')' :: rest, false, names⟩ :=
  rfl

/-- The end of a group without branches. -/
theorem readBranches_close :
    readBranches (fuel + 1) [] items ⟨')' :: rest, false, names⟩ =
      some (Tree.ofItems items.reverse, ⟨')' :: rest, false, names⟩) :=
  rfl

/-- A group that captures nothing. -/
theorem readBranches_group {tree : Tree} (read : readBranches fuel [] [] ⟨inner, false, names⟩ =
      some (tree, ⟨')' :: rest, false, names⟩)) :
    readBranches (fuel + 1) branches items ⟨'(' :: '?' :: ':' :: inner, false, names⟩ =
      readBranches fuel branches (.group [] false tree :: items) ⟨rest, false, names⟩ := by
  change (readBranches fuel [] [] ⟨inner, false, names⟩ >>= fun read => _) = _
  rw [read]
  rfl

/-- A group that captures what starts with a class. -/
theorem readBranches_capture {tree : Tree} (opens : inner.head? = some '[')
    (read : readBranches fuel [] [] ⟨inner, false, names⟩ =
      some (tree, ⟨')' :: rest, false, names⟩)) :
    readBranches (fuel + 1) branches items ⟨'(' :: inner, false, names⟩ =
      readBranches fuel branches (.group [] true tree :: items) ⟨rest, false, names⟩ := by
  obtain ⟨inner, rfl⟩ := List.head?_eq_some_iff.mp opens
  change (readBranches fuel [] [] ⟨'[' :: inner, false, names⟩ >>= fun read => _) = _
  rw [read]
  rfl

end

end MappedCoverage.Regex
