import MappedCoverage.Unicode.Age
import MappedCoverage.Unicode.BinaryProperty
import MappedCoverage.Unicode.CaseFolding
import MappedCoverage.Unicode.GeneralCategory
import MappedCoverage.Unicode.Script
import MappedCoverage.Unicode.ScriptExtension
import MappedCoverage.Unicode.Segmentation

/-!
# Character classes

Classes by the name of a property or of a property and its value, and the classes of digits, spaces
and word characters. Names are compared without case, blanks, hyphens and low lines.
-/

namespace MappedCoverage.Unicode

/-- The general category of a short name. -/
def category (name : String) : Ranges :=
  ((generalCategories.find? (·.name = name)).map Property.ranges).getD []

/-- The binary property of a long name. -/
def binaryProperty (name : String) : Ranges :=
  ((binaryProperties.find? (·.name = name)).map Property.ranges).getD []

/-- Groups of general categories: their names and their members. -/
def categoryGroups : List (List String × List String) :=
  [(["l", "letter"], ["Lu", "Ll", "Lt", "Lm", "Lo"]),
    (["lc", "casedletter"], ["Lu", "Ll", "Lt"]),
    (["m", "mark", "combiningmark"], ["Mn", "Mc", "Me"]),
    (["n", "number"], ["Nd", "Nl", "No"]),
    (["p", "punctuation", "punct"], ["Pc", "Pd", "Ps", "Pe", "Pi", "Pf", "Po"]),
    (["s", "symbol"], ["Sm", "Sc", "Sk", "So"]),
    (["z", "separator"], ["Zs", "Zl", "Zp"]),
    (["c", "other"], ["Cc", "Cf", "Co", "Cn"])]

/-- A name in lower case without blanks, hyphens, low lines and a leading `is`. -/
def plainName (name : String) : String :=
  let lower := name.toList.map Char.toLower
  let marked := lower.take 2 = ['i', 's']
  let kept := (if marked then lower.drop 2 else lower).filter fun c =>
    c ≠ ' ' && c ≠ '_' && c ≠ '-' && c.toNat < 0x80
  if marked ∧ kept = ['c'] then "isc" else String.ofList kept

/-- The general category, or group of them, of a plain name. -/
def categoryNamed? (name : String) : Option Ranges :=
  if name = "any" then some [(0, lastCode)]
  else if name = "assigned" then some (category "Cn").complement
  else if name = "ascii" then some [(0, 0x7F)]
  else
    match categoryGroups.find? (·.1.contains name) with
    | some group => some (Ranges.normalize (group.2.flatMap category))
    | none => (named? name generalCategories).map Property.ranges

/-- The class of a property name alone: a binary property, a general category or a script. -/
def classNamed? (name : String) : Option Ranges :=
  let plain := plainName name
  let binary :=
    if plain = "cf" ∨ plain = "sc" ∨ plain = "lc" then none
    else (named? plain binaryProperties).map Property.ranges
  binary.orElse fun _ =>
    (categoryNamed? plain).orElse fun _ => (named? plain scripts).map Property.ranges

/-- The code points assigned up to an age. -/
def assignedBy? (name : String) : Option Ranges :=
  if (named? name ages).isSome then
    let earlier := ages.takeWhile fun age => !age.names.contains name
    let own := (named? name ages).toList
    some (Ranges.normalize ((earlier ++ own).flatMap Property.ranges))
  else none

/-- The class of a property and its value. -/
def classOfValue? (property value : String) : Option Ranges :=
  let property := plainName property
  let value := plainName value
  if property ∈ ["gc", "generalcategory", "category"] then categoryNamed? value
  else if property ∈ ["sc", "script"] then (named? value scripts).map Property.ranges
  else if property ∈ ["scx", "scriptextensions"] then
    (named? value scriptExtensions).map Property.ranges
  else if property = "age" then assignedBy? value
  else if property ∈ ["gcb", "graphemeclusterbreak"] then
    (named? value graphemeClusterBreaks).map Property.ranges
  else if property ∈ ["wb", "wordbreak"] then (named? value wordBreaks).map Property.ranges
  else if property ∈ ["sb", "sentencebreak"] then (named? value sentenceBreaks).map Property.ranges
  else none

/-- Decimal digits. -/
def digits : Ranges := category "Nd"

/-- White space. -/
def spaces : Ranges := binaryProperty "White_Space"

/-- Letters and other alphabetic characters. -/
def alphabetic : Ranges := binaryProperty "Alphabetic"

/-- The word characters of ASCII: digits, letters and the low line. -/
def asciiWordCharacters : Ranges :=
  [(0x30, 0x39), (0x41, 0x5A), (0x5F, 0x5F), (0x61, 0x7A)]

/-- Word characters: those of ASCII, and beyond it letters and other alphabetic characters, marks,
decimal digits, connector punctuation and the join controls. -/
def wordCharacters : Ranges :=
  asciiWordCharacters ++ Ranges.inter [(0x80, lastCode)]
    (alphabetic ++ category "Mn" ++ category "Mc" ++ category "Me" ++ digits ++ category "Pc"
      ++ binaryProperty "Join_Control")

/-- Whether a character is a word character; among ASCII these are letters, digits and the low
line. -/
def isWord (c : Char) : Bool :=
  if c.toNat < 0x80 then c.isAlphanum || c = '_' else wordCharacters.holds c.toNat

/-- Whether a character is alphabetic. -/
def isAlphabetic (c : Char) : Bool :=
  if c.toNat < 0x80 then c.isAlpha else alphabetic.holds c.toNat

/-- Numbers of any kind. -/
def numbers : Ranges := category "Nd" ++ category "Nl" ++ category "No"

/-- Whether a character is a number of any kind. -/
def isNumeric (c : Char) : Bool :=
  if c.toNat < 0x80 then c.isDigit
  else numbers.holds c.toNat

/-- Adds every code point that folds like a member. -/
def Ranges.foldClosure (ranges : Ranges) : Ranges :=
  let added := foldingSets.filter fun set => set.any ranges.holds
  Ranges.normalize (ranges ++ added.flatten.map fun code => (code, code))

end MappedCoverage.Unicode
