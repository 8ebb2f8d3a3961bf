import MappedCoverage.Unicode.Classes

/-!
# Regular expressions

Regular expressions over characters, with assertions about the neighbours of a place in the text.
An expression takes a set of places to the set of places where a match that starts in the first set
can end; a text matches when some place of it leads to any place at all.
-/

namespace MappedCoverage

/-- What an assertion asks of the characters before and after a place. -/
inductive Look where
  | textStart
  | textEnd
  | lineStart
  | lineEnd
  | anyLineStart
  | anyLineEnd
  | wordBoundary (ascii : Bool)
  | notWordBoundary (ascii : Bool)
  | wordStart (ascii : Bool)
  | wordEnd (ascii : Bool)
  | wordStartHalf (ascii : Bool)
  | wordEndHalf (ascii : Bool)

/-- A regular expression. -/
inductive Regex where
  | empty
  | oneOf (ranges : Unicode.Ranges)
  | look (assertion : Look)
  | capture (inner : Regex)
  | sequence (items : List Regex)
  | choice (branches : List Regex)
  | repeated (inner : Regex) (least : Nat) (most : Option Nat)

namespace Regex

/-- Whether there is a character here and it is a word character. -/
def wordHere (ascii : Bool) : Option Char → Bool
  | none => false
  | some c => if ascii then c.isAlphanum || c = '_' else Unicode.isWord c

/-- Whether an assertion holds between two characters; `none` stands for the ends of the text. -/
def holdsBetween (before after : Option Char) : Look → Bool
  | .textStart => before.isNone
  | .textEnd => after.isNone
  | .lineStart => before.isNone || before = some '\n'
  | .lineEnd => after.isNone || after = some '\n'
  | .anyLineStart =>
      before.isNone || before = some '\n' || (before = some '\r' && after ≠ some '\n')
  | .anyLineEnd =>
      after.isNone || after = some '\r' || (after = some '\n' && before ≠ some '\r')
  | .wordBoundary ascii => wordHere ascii before != wordHere ascii after
  | .notWordBoundary ascii => wordHere ascii before == wordHere ascii after
  | .wordStart ascii => !wordHere ascii before && wordHere ascii after
  | .wordEnd ascii => wordHere ascii before && !wordHere ascii after
  | .wordStartHalf ascii => !wordHere ascii before
  | .wordEndHalf ascii => !wordHere ascii after

/-- Places of a text in increasing order. -/
abbrev Places := List Nat

/-- Merges two increasing lists of places; `fuel` bounds the length of the result. -/
def mergeFrom : Nat → Places → Places → Places
  | _, [], b => b
  | _, a, [] => a
  | 0, a, b => a ++ b
  | fuel + 1, i :: a, j :: b =>
      if i < j then i :: mergeFrom fuel a (j :: b)
      else if j < i then j :: mergeFrom fuel (i :: a) b
      else i :: mergeFrom fuel a b

/-- The places in either list. -/
def merge (a b : Places) : Places :=
  mergeFrom (a.length + b.length) a b

/-- Takes a step a fixed number of times. -/
def steps (step : Places → Places) : Nat → Places → Places
  | 0, places => places
  | _ + 1, [] => []
  | count + 1, places => steps step count (step places)

/-- The places reached by at most `count` further steps; it stops when a step finds nothing new. -/
def stepsUpTo (step : Places → Places) : Nat → Places → Places → Places
  | 0, reached, _ => reached
  | count + 1, reached, frontier =>
      let found := (step frontier).filter fun place => !reached.contains place
      if found.isEmpty then reached else stepsUpTo step count (merge reached found) found

/-- The place before a place. -/
def charBefore? (text : Array Char) (place : Nat) : Option Char :=
  if place = 0 then none else text[place - 1]?

/-- The places after one character of the ranges. -/
def afterOneOf (text : Array Char) (ranges : Unicode.Ranges) (places : Places) : Places :=
  places.filterMap fun place =>
    match text[place]? with
    | some c => if ranges.holds c.toNat then some (place + 1) else none
    | none => none

mutual

/-- The places where a match that starts at one of the given places can end. -/
def ends (text : Array Char) : Regex → Places → Places
  | .empty => fun places => places
  | .oneOf ranges => afterOneOf text ranges
  | .look assertion => fun places => places.filter fun place =>
      holdsBetween (charBefore? text place) text[place]? assertion
  | .capture inner => ends text inner
  | .sequence items => endsInTurn text items
  | .choice branches => endsOfAny text branches
  | .repeated inner least most =>
      let step := ends text inner
      fun places =>
        let reached := steps step least places
        let further :=
          match most with
          | some most => min (most - least) (text.size + 1)
          | none => text.size + 1
        stepsUpTo step further reached reached

/-- The ends of matches of all items one after another. -/
def endsInTurn (text : Array Char) : List Regex → Places → Places
  | [] => fun places => places
  | item :: rest =>
      let first := ends text item
      let later := endsInTurn text rest
      fun places => later (first places)

/-- The ends of matches of any branch. -/
def endsOfAny (text : Array Char) : List Regex → Places → Places
  | [] => fun _ => []
  | branch :: rest =>
      let one := ends text branch
      let others := endsOfAny text rest
      fun places => merge (one places) (others places)

end

/-- Whether some part of a text matches. -/
def isMatch (regex : Regex) (text : String) : Bool :=
  let characters := text.toList.toArray
  !(ends characters regex (List.range (characters.size + 1))).isEmpty

end Regex

end MappedCoverage
