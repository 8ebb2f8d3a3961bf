import MappedCoverage.Regex.Meaning
import MappedCoverage.Regex.Reader

/-!
# Compiling regular expressions

A written expression compiles when it can be read, has a meaning, and its automaton stays within a
limit of ten mebibytes. The size of the automaton is estimated from the number of its states.
-/

namespace MappedCoverage.Regex

/-- The bytes that one state takes. -/
def stateSize : Nat := 32

/-- The bytes that one transition takes. -/
def transitionSize : Nat := 8

/-- The number of bytes of a code point in UTF-8. -/
def encodedLength (code : Nat) : Nat :=
  if code < 0x80 then 1 else if code < 0x800 then 2 else if code < 0x10000 then 3 else 4

/-- The size of the states that read one character of the ranges: a single character takes a state
for each of its bytes, ASCII ranges share one state, and others take states for each range. -/
def oneOfSize (ranges : Unicode.Ranges) : Nat :=
  match ranges with
  | [(first, last)] =>
      if first = last then stateSize * encodedLength first
      else if last < 0x80 then stateSize
      else 16 * stateSize
  | _ =>
      if ranges.all (·.2 < 0x80) then 2 * stateSize + transitionSize * ranges.length
      else 2 * stateSize * ranges.length

mutual

/-- Whether an expression can only match the empty text. -/
def isEmptyOnly : Regex → Bool
  | .empty => true
  | .oneOf _ => false
  | .look _ => true
  | .capture inner => isEmptyOnly inner
  | .sequence items => areEmptyOnly items
  | .choice branches => areEmptyOnly branches
  | .repeated inner _ most => most = some 0 || isEmptyOnly inner

/-- Whether all expressions can only match the empty text. -/
def areEmptyOnly : List Regex → Bool
  | [] => true
  | item :: rest => isEmptyOnly item && areEmptyOnly rest

end

mutual

/-- The size of the automaton of an expression. -/
def size : Regex → Nat
  | .empty => stateSize
  | .oneOf ranges => oneOfSize ranges
  | .look _ => stateSize
  | .capture inner => size inner + 2 * stateSize
  | .sequence items => sizeOfAll items
  | .choice branches => sizeOfAll branches + 2 * stateSize + transitionSize * branches.length
  | .repeated inner least most =>
      let once := size inner
      let bound := fun (count : Nat) => if isEmptyOnly inner then min count 1 else count
      match most with
      | none => max 1 (bound least) * once + 2 * stateSize
      | some most =>
          bound most * once + (bound most - bound least) * 2 * stateSize + stateSize

/-- The size of the automata of several expressions. -/
def sizeOfAll : List Regex → Nat
  | [] => 0
  | item :: rest => size item + sizeOfAll rest

end

/-- The greatest size of an automaton. -/
def sizeLimit : Nat := 10 * 0x10_0000

/-- The expression that a pattern denotes. -/
def compile? (pattern : String) : Option Regex := do
  let tree ← Tree.read? pattern
  let (regex, _) ← tree.meaning? Flags.initial
  if size regex ≤ sizeLimit then some regex else none

end MappedCoverage.Regex
