import MappedCoverage.Regex.Compile

/-!
# Title filters

A filter selects test titles by a regular expression. A text that is no regular expression stands
for itself: its special characters are escaped, and the escaped text is the filter's source. Two
filters are equal when their sources are.
-/

namespace MappedCoverage

/-- A compiled title filter. -/
structure Grep where
  source : String
  regex : Regex

namespace Grep

/-- The filter whose expression is the given text, if that is an expression within the limits. -/
def ofExpression? (source : String) : Option Grep :=
  (Regex.compile? source).map fun regex => ⟨source, regex⟩

/-- The filter of a text: as an expression, else literally. -/
def compile? (text : String) : Option Grep :=
  (ofExpression? text).orElse fun _ => ofExpression? (Regex.escape text)

/-- Equality by source. -/
def same (a b : Grep) : Bool :=
  a.source == b.source

/-- Whether a title is selected. -/
def isMatch (grep : Grep) (title : String) : Bool :=
  grep.regex.isMatch title

end Grep

end MappedCoverage
