import MappedCoverage.Unicode.Classes

/-!
# Quoted texts

How a message shows a text: between double quotes, with an escape for a quote, a backslash, the
common control characters, and by code point for every other character that would not be seen on
its own.
-/

namespace MappedCoverage.Text

/-- The code points that cannot be seen: controls, formats, surrogates, private and unassigned code
points, separators other than the blank, and marks that extend the character before them. -/
def unseen : Unicode.Ranges :=
  let separators := (["Zs", "Zl", "Zp"].flatMap Unicode.category).filter (· ≠ (0x20, 0x20))
  Unicode.Ranges.normalize (separators ++ ["Cc", "Cf", "Cs", "Co", "Cn"].flatMap Unicode.category
    ++ Unicode.binaryProperty "Grapheme_Extend")

/-- A character between quotes. -/
def quotedChar (c : Char) : List Char :=
  if c = '"' then ['\\', '"']
  else if c = '\\' then ['\\', '\\']
  else if c = '\x00' then ['\\', '0']
  else if c = '\t' then ['\\', 't']
  else if c = '\n' then ['\\', 'n']
  else if c = '\r' then ['\\', 'r']
  else if ' ' ≤ c ∧ c ≤ '~' then [c]
  else if unseen.holds c.toNat then
    ['\\', 'u', '\x7b'] ++ Nat.toDigits 16 c.toNat ++ ['\x7d']
  else [c]

/-- A text between quotes. -/
def quoted (text : String) : String :=
  String.ofList ('"' :: (text.toList.flatMap quotedChar ++ ['"']))

end MappedCoverage.Text
