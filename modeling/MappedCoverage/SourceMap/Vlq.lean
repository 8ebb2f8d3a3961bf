import MappedCoverage.Base64

/-!
# Variable-length numbers

A segment of mappings is a run of signed numbers. A number is written in groups of five bits, the
lowest first; each group is a base64 symbol whose sixth bit tells that another group follows, and
the lowest bit of the whole is the sign. A number takes at most twelve groups, and a segment has
one, four or five numbers.
-/

namespace MappedCoverage.SourceMap

/-- The numbers read so far, last first, and the number being read: its value and the place of its
next group. -/
structure Partial where
  fields : List Int
  value : Nat
  shift : Nat

/-- Nothing read. -/
def Partial.start : Partial := ⟨[], 0, 0⟩

/-- The signed number that a value stands for. -/
def signed (value : Nat) : Int :=
  if value % 2 = 1 then -((value / 2 : Nat) : Int) else ((value / 2 : Nat) : Int)

/-- Reads one symbol; a thirteenth group and a sixth number are refused. -/
def Partial.step (state : Partial) (c : Char) : Option Partial := do
  let symbol ← Base64.value? c
  if 55 < state.shift then none
  else
    let value := state.value + (symbol % 32) <<< state.shift
    if 32 ≤ symbol then some ⟨state.fields, value, state.shift + 5⟩
    else if 4 < state.fields.length then none
    else some ⟨signed value :: state.fields, 0, 0⟩

/-- The numbers read, if the last one is complete and their count is one, four or five. -/
def Partial.finish (state : Partial) : Option (List Int) :=
  if state.shift = 0 ∧ state.fields.length ∈ [1, 4, 5] then some state.fields.reverse else none

/-- The numbers of a segment. -/
def fields? (segment : List Char) : Option (List Int) := do
  let state ← segment.foldlM Partial.step .start
  state.finish

end MappedCoverage.SourceMap
