import MappedCoverage.Text.Pieces

/-!
# Ranges of code points

A property of characters is given as the ranges of its code points, in increasing order. The tables
write them in hexadecimal with blanks between ranges.
-/

namespace MappedCoverage.Unicode

/-- Ranges of code points, ends included, in increasing order. -/
abbrev Ranges := List (Nat × Nat)

/-- The value of a hexadecimal digit in upper case. -/
def hexDigitValue (c : Char) : Nat :=
  if c.isDigit then c.toNat - '0'.toNat else c.toNat - 'A'.toNat + 10

/-- The value of a hexadecimal number. -/
def hexNumber (digits : List Char) : Nat :=
  digits.foldl (fun value c => value * 16 + hexDigitValue c) 0

/-- The range that a word of a table writes: two numbers with a hyphen between them, or one. -/
def readRange (word : List Char) : Nat × Nat :=
  match Text.split '-' word with
  | [first, last] => (hexNumber first, hexNumber last)
  | _ => (hexNumber word, hexNumber word)

/-- The words of a line of a table. -/
def words (line : String) : List (List Char) :=
  Text.split ' ' line.toList

/-- The ranges that the lines of a table write. -/
def readRanges (table : List String) : Ranges :=
  (table.flatMap words).map readRange

/-- Whether a code point lies in one of the ranges. -/
def Ranges.holds (ranges : Ranges) (code : Nat) : Bool :=
  ranges.any fun range => range.1 ≤ code && code ≤ range.2

/-- The greatest code point. -/
def lastCode : Nat := 0x10FFFF

/-- Merges a range into ranges that start no later, the last of them first. -/
def mergeRange (merged : Ranges) (range : Nat × Nat) : Ranges :=
  match merged with
  | [] => [range]
  | previous :: rest =>
      if range.1 ≤ previous.2 + 1 then (previous.1, max previous.2 range.2) :: rest
      else range :: previous :: rest

/-- The same code points in increasing, separated ranges. -/
def Ranges.normalize (ranges : Ranges) : Ranges :=
  let sorted := ranges.mergeSort fun a b => a.1 ≤ b.1
  (sorted.foldl mergeRange []).reverse

/-- The gaps from a code point on between ranges in increasing order. -/
def gapsFrom (first : Nat) : Ranges → Ranges
  | [] => if first ≤ lastCode then [(first, lastCode)] else []
  | range :: rest =>
      if first < range.1 then (first, range.1 - 1) :: gapsFrom (range.2 + 1) rest
      else gapsFrom (range.2 + 1) rest

/-- The code points outside. -/
def Ranges.complement (ranges : Ranges) : Ranges :=
  gapsFrom 0 ranges.normalize

/-- The code points in either. -/
def Ranges.union (a b : Ranges) : Ranges :=
  Ranges.normalize (a ++ b)

/-- The code points in both. -/
def Ranges.inter (a b : Ranges) : Ranges :=
  Ranges.normalize (a.flatMap fun r => b.filterMap fun s =>
    if max r.1 s.1 ≤ min r.2 s.2 then some (max r.1 s.1, min r.2 s.2) else none)

/-- The code points in the first but not in the second. -/
def Ranges.difference (a b : Ranges) : Ranges :=
  Ranges.inter a b.complement

/-- The code points in exactly one. -/
def Ranges.symmetricDifference (a b : Ranges) : Ranges :=
  Ranges.union (a.difference b) (b.difference a)

/-- A property with its names, in lower case without separators, and the table of its ranges. -/
structure Property where
  name : String
  names : List String
  table : List String

/-- The ranges of a property. -/
def Property.ranges (property : Property) : Ranges :=
  readRanges property.table

/-- The property of a given name. -/
def named? (name : String) (properties : List Property) : Option Property :=
  properties.find? (·.names.contains name)

end MappedCoverage.Unicode
