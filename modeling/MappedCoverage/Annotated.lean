import MappedCoverage.SourceMap.Basic

/-!
# Annotated code

Generated code beside the source lines that it came from. Every line but the last is shown; a
line that mappings name is followed by a label with the numbers of its source lines and by their
text, in columns as wide as the widest such line and label. A column holds at most 65535 characters.
-/

namespace MappedCoverage.Annotated

/-- The greatest width of a column. -/
def widthLimit : Nat := 65535

/-- A text filled up with blanks to a width; a longer text is kept whole. -/
def padRight? (width : Nat) (text : List Char) : Option (List Char) :=
  if width ≤ widthLimit then some (text ++ List.replicate (width - text.length) ' ') else none

/-- Adds a source line unless it is there. -/
def addOrigin (line : Nat) (origins : List Nat) : List Nat :=
  if line ∈ origins then origins else origins ++ [line]

/-- For each generated line up to a count, from zero, the source lines that mappings relate to
it, in the order of the mappings. -/
def originTable (count : Nat) (mappings : List SourceMap.LineMapping) : Array (List Nat) :=
  mappings.foldl
    (fun table mapping => table.modify mapping.generatedLine (addOrigin mapping.sourceLine))
    (Array.replicate (count + 1) [])

/-- The number of a line. -/
def lineText (line : Nat) : List Char :=
  Nat.toDigits 10 line

/-- The label of source lines. -/
def label : List Nat → List Char
  | [line] => "Line: ".toList ++ lineText line
  | lines => "Lines: ".toList ++ Text.join ',' (lines.map lineText)

/-- A line by its number from one; a number out of range has an empty line. -/
def lineAt (lines : List (List Char)) (number : Nat) : List Char :=
  match number with
  | 0 => []
  | index + 1 => (lines[index]?).getD []

/-- A line of generated code with the source lines that it came from. -/
structure Row where
  generated : List Char
  origins : List Nat

/-- The rows of generated lines but the last; `number` is the number of the first. -/
def rows (table : Array (List Nat)) : Nat → List (List Char) → List Row
  | _, [] => []
  | _, [_] => []
  | number, line :: rest => ⟨line, (table[number]?).getD []⟩ :: rows table (number + 1) rest

/-- The greatest of some numbers, zero for none. -/
def greatest (numbers : List Nat) : Nat :=
  numbers.foldr max 0

/-- The rows that mappings name. -/
def mapped (rows : List Row) : List Row :=
  rows.filter (·.origins ≠ [])

/-- The length of the longest mapped line. -/
def lineWidth (rows : List Row) : Nat :=
  greatest ((mapped rows).map (·.generated.length))

/-- The length of the longest label. -/
def labelWidth (rows : List Row) : Nat :=
  greatest ((mapped rows).map fun row => (label row.origins).length)

/-- A row as it is written between columns of the given widths. -/
def Row.write? (sources : List (List Char)) (lineWidth labelWidth : Nat) (row : Row) :
    Option (List Char) :=
  match row.origins with
  | [] => some row.generated
  | origins => do
      let line ← padRight? (lineWidth + 3) row.generated
      let label ← padRight? (labelWidth + 1) (label origins)
      return line ++ label ++ ['|', ' '] ++ (origins.map (lineAt sources)).flatten

/-- The annotated text of generated code. -/
def render? (generated source : String) (mappings : List SourceMap.LineMapping) :
    Option String := do
  let lines := Text.lines generated
  let rows := rows (originTable lines.length mappings) 1 lines
  let written ← rows.mapM (Row.write? (Text.lines source) (lineWidth rows) (labelWidth rows))
  return Text.ofLines written

/-- What annotating a text comes to. -/
inductive Attempt where
  /-- The text has no map comment. -/
  | unmapped
  | annotated (text : String)
  | refused (fault : SourceMap.Fault)
  /-- A column would be too wide. -/
  | tooWide

/-- Annotates a text by the map in its last map comment. -/
def attempt (generated : String) : Attempt :=
  match SourceMap.extract? generated with
  | .error fault => .refused fault
  | .ok none => .unmapped
  | .ok (some map) =>
      match map.firstContent with
      | .error fault => .refused fault
      | .ok source =>
          match render? generated source map.mappings with
          | none => .tooWide
          | some text => .annotated text

/-- The annotated text, or the text as it is when it has no usable map. -/
def annotate? (generated : String) : Option String :=
  match attempt generated with
  | .annotated text => some text
  | .tooWide => none
  | _ => some generated

end MappedCoverage.Annotated
