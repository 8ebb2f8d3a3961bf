/-!
# Positions in a text

Readers report a fault by the number of bytes still unread. A position is the line, counted from
one, and the number of bytes of that line in front of the fault.
-/

namespace MappedCoverage.Text

/-- The number of bytes of a text in UTF-8. -/
def byteSize (text : List Char) : Nat :=
  text.foldl (fun size c => size + c.utf8Size) 0

/-- A line, counted from one, and a count of bytes in it. -/
structure Position where
  line : Nat
  column : Nat

/-- Moves a position over the first `bytes` bytes of a text. -/
def Position.advance (position : Position) : Nat → List Char → Position
  | _, [] => position
  | bytes, c :: rest =>
      if bytes = 0 then position
      else if bytes < c.utf8Size then ⟨position.line, position.column + bytes⟩
      else if c = '\n' then
        Position.advance ⟨position.line + 1, 0⟩ (bytes - c.utf8Size) rest
      else
        Position.advance ⟨position.line, position.column + c.utf8Size⟩ (bytes - c.utf8Size) rest

/-- The position of which `unread` bytes of the text are left. -/
def positionBefore (text : List Char) (unread : Nat) : Position :=
  Position.advance ⟨1, 0⟩ (byteSize text - unread) text

end MappedCoverage.Text
