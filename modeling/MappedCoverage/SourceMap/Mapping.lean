import MappedCoverage.SourceMap.Vlq
import MappedCoverage.Text.Pieces

/-!
# Line mappings

The mappings of a source map relate lines of generated code to lines of its sources. They are
written line by line between semicolons, segment by segment between commas; the source and the
source line of a segment are differences from those of the segment before it, across lines. Of a
segment only its line, its source line and its source are kept.
-/

namespace MappedCoverage.SourceMap

/-- A segment: lines are counted from one, sources from zero. -/
structure LineMapping where
  generatedLine : Nat
  sourceLine : Nat
  source : Nat
deriving DecidableEq

/-- The sums of the differences so far. -/
structure Totals where
  source : Int
  sourceLine : Int
deriving DecidableEq

/-- The sums before the first segment. -/
def Totals.zero : Totals := ⟨0, 0⟩

/-- A sum that fits 64 bits. -/
def wideSum? (a b : Int) : Option Int :=
  if -0x8000_0000_0000_0000 ≤ a + b ∧ a + b < 0x8000_0000_0000_0000 then some (a + b) else none

/-- The count from one of a line counted from zero, if it fits 32 bits. -/
def lineNumber? (line : Int) : Option Nat :=
  if 0 ≤ line ∧ line < 0xFFFF_FFFF then some (line.toNat + 1) else none

/-- The number of a source, if it fits 32 bits. -/
def sourceNumber? (source : Int) : Option Nat :=
  if 0 ≤ source ∧ source < 0x1_0000_0000 then some source.toNat else none

/-- The mapping that the numbers of a segment give, with the new sums; a segment without a source
gives none. -/
def Totals.advance (totals : Totals) (line : Nat) :
    List Int → Option (Totals × List LineMapping)
  | _ :: sourceStep :: lineStep :: _ :: _ => do
      let source ← wideSum? totals.source sourceStep
      let sourceLine ← wideSum? totals.sourceLine lineStep
      let mapping : LineMapping :=
        { generatedLine := ← lineNumber? line
          sourceLine := ← lineNumber? sourceLine
          source := ← sourceNumber? source }
      return (⟨source, sourceLine⟩, [mapping])
  | _ => some (totals, [])

/-- A segment that cannot be read. -/
structure Malformed where
  segment : List Char
deriving DecidableEq

/-- The mappings of segments of one line. -/
def readSegments (line : Nat) (totals : Totals) :
    List (List Char) → Except Malformed (Totals × List LineMapping)
  | [] => .ok (totals, [])
  | segment :: rest => do
      let read := (fields? segment).bind (totals.advance line)
      match read with
      | none => .error ⟨segment⟩
      | some (totals, first) =>
          let (totals, others) ← readSegments line totals rest
          return (totals, first ++ others)

/-- The segments of a line; empty pieces are none. -/
def segments (line : List Char) : List (List Char) :=
  (Text.split ',' line).filter (· ≠ [])

/-- The mappings of lines from a line on, counted from zero. -/
def readLines (totals : Totals) : Nat → List (List Char) → Except Malformed (List LineMapping)
  | _, [] => .ok []
  | line, text :: rest => do
      let (totals, first) ← readSegments line totals (segments text)
      let others ← readLines totals (line + 1) rest
      return first ++ others

/-- The mappings that a text writes. -/
def readMappings (text : String) : Except Malformed (List LineMapping) :=
  readLines .zero 0 (Text.split ';' text.toList)

end MappedCoverage.SourceMap
