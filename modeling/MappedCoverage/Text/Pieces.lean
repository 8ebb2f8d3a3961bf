/-!
# Pieces of a text

Splitting a text at a character and joining pieces again. A text always has one piece more than it
has separators, so the empty text has one empty piece and joining undoes splitting.
-/

namespace MappedCoverage.Text

/-- Puts a character in front of the first piece. -/
def extendFirst (c : Char) : List (List Char) → List (List Char)
  | [] => [[c]]
  | piece :: pieces => (c :: piece) :: pieces

/-- The pieces of a text between occurrences of a separator. -/
def split (separator : Char) (text : List Char) : List (List Char) :=
  text.foldr (fun c pieces => if c = separator then [] :: pieces else extendFirst c pieces) [[]]

/-- The pieces of a text with a separator between them. -/
def join (separator : Char) (pieces : List (List Char)) : List Char :=
  [separator].intercalate pieces

/-- The lines of a text; a final line break leaves an empty last line. -/
def lines (text : String) : List (List Char) :=
  split '\n' text.toList

/-- The text with the given lines. -/
def ofLines (lines : List (List Char)) : String :=
  String.ofList (join '\n' lines)

@[simp] theorem split_nil (separator : Char) : split separator [] = [[]] := rfl

theorem split_cons (separator c : Char) (text : List Char) :
    split separator (c :: text) =
      if c = separator then [] :: split separator text
      else extendFirst c (split separator text) := rfl

theorem split_ne_nil (separator : Char) (text : List Char) : split separator text ≠ [] := by
  cases text with
  | nil => simp
  | cons c rest =>
      rw [split_cons]
      split
      · simp
      · cases split separator rest <;> simp [extendFirst]

/-- Joining undoes splitting. -/
theorem join_split (separator : Char) (text : List Char) :
    join separator (split separator text) = text := by
  induction text with
  | nil => rfl
  | cons c rest ih =>
      rw [split_cons]
      split
      · next same =>
          subst same
          generalize pieces : split c rest = found at ih
          cases found with
          | nil => exact absurd pieces (split_ne_nil c rest)
          | cons piece tail => simpa [join, List.intercalate] using ih
      · generalize pieces : split separator rest = found at ih
        cases found with
        | nil => exact absurd pieces (split_ne_nil separator rest)
        | cons piece tail =>
            cases tail <;> simpa [join, List.intercalate, extendFirst] using ih

end MappedCoverage.Text
