/-!
# White space

The characters with the property White_Space. Blank texts consist of nothing else.
-/

namespace MappedCoverage.Text

/-- The code points of white space: the ASCII blanks and line breaks, next line, the no-break
space, the spaces of fixed width and the line and paragraph separators. -/
def spaceCodes : List Nat :=
  [0x09, 0x0A, 0x0B, 0x0C, 0x0D, 0x20, 0x85, 0xA0, 0x1680, 0x2000, 0x2001, 0x2002, 0x2003, 0x2004,
    0x2005, 0x2006, 0x2007, 0x2008, 0x2009, 0x200A, 0x2028, 0x2029, 0x202F, 0x205F, 0x3000]

/-- Whether a character is white space. -/
def isSpace (c : Char) : Bool :=
  spaceCodes.contains c.toNat

/-- Whether a text holds nothing but white space. -/
def isBlank (text : String) : Bool :=
  text.toList.all isSpace

end MappedCoverage.Text
