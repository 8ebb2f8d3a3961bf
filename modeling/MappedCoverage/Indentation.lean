import MappedCoverage.Text.Pieces

/-!
# Indentation

Tabs at the start of a line become two spaces each; all other tabs stay.
-/

namespace MappedCoverage.Indentation

/-- A line with its leading tabs widened. -/
def widenLine : List Char → List Char
  | '\t' :: rest => ' ' :: ' ' :: widenLine rest
  | line => line

/-- A text with the leading tabs of its lines widened. -/
def normalize (text : String) : String :=
  Text.ofLines ((Text.lines text).map widenLine)

end MappedCoverage.Indentation
