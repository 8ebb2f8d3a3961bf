import MappedCoverage.Yaml.Node

/-!
# Linked nodes

Anchors and aliases are linked by numbers in the order of the text. An anchor has the count of
different names in front of it as its number; a name that is used again gets a new number but does
not add to the count, so the next name may get the same number. The last node of a number is the one
that its aliases denote.
-/

namespace MappedCoverage.Yaml

/-- A node whose anchor, if any, and whose aliases are numbers. -/
inductive Tree where
  | alias (number : Nat)
  | scalar (number : Option Nat) (tag : Option (List Char)) (text : List Char) (isPlain : Bool)
  | sequence (number : Option Nat) (tag : Option (List Char)) (items : List Tree)
  | mapping (number : Option Nat) (tag : Option (List Char)) (entries : List (Tree × Tree))

/-- The numbers of anchor names, newest first, and the count of different names. -/
structure Anchors where
  numbers : List (List Char × Nat)
  count : Nat

/-- No anchors. -/
def Anchors.empty : Anchors := ⟨[], 0⟩

/-- Numbers an anchor. -/
def Anchors.add (anchors : Anchors) : Option (List Char) → Option Nat × Anchors
  | none => (none, anchors)
  | some name =>
      let isNew := (anchors.numbers.lookup name).isNone
      (some anchors.count,
        { numbers := (name, anchors.count) :: anchors.numbers
          count := if isNew then anchors.count + 1 else anchors.count })

mutual

/-- Links a node; an alias of an unknown name is refused. -/
def Node.link? (anchors : Anchors) : Node → Option (Tree × Anchors)
  | .alias name => (anchors.numbers.lookup name).map fun number => (.alias number, anchors)
  | .scalar properties text isPlain =>
      let (number, anchors) := anchors.add properties.anchor
      some (.scalar number properties.tag text isPlain, anchors)
  | .sequence properties items => do
      let (number, anchors) := anchors.add properties.anchor
      let (items, anchors) ← Node.linkItems? anchors items
      return (.sequence number properties.tag items, anchors)
  | .mapping properties entries => do
      let (number, anchors) := anchors.add properties.anchor
      let (entries, anchors) ← Node.linkEntries? anchors entries
      return (.mapping number properties.tag entries, anchors)

/-- Links nodes one after another. -/
def Node.linkItems? (anchors : Anchors) : List Node → Option (List Tree × Anchors)
  | [] => some ([], anchors)
  | item :: rest => do
      let (first, anchors) ← item.link? anchors
      let (others, anchors) ← Node.linkItems? anchors rest
      return (first :: others, anchors)

/-- Links entries one after another, the key before the value. -/
def Node.linkEntries? (anchors : Anchors) :
    List (Node × Node) → Option (List (Tree × Tree) × Anchors)
  | [] => some ([], anchors)
  | (key, value) :: rest => do
      let (key, anchors) ← key.link? anchors
      let (value, anchors) ← value.link? anchors
      let (others, anchors) ← Node.linkEntries? anchors rest
      return ((key, value) :: others, anchors)

end

/-- A number with its node, if there is a number. -/
def numbered (number : Option Nat) (tree : Tree) : List (Nat × Tree) :=
  (number.map fun number => (number, tree)).toList

mutual

/-- The anchored nodes by number, in the order of the text. -/
def Tree.anchored : Tree → List (Nat × Tree)
  | .alias _ => []
  | .scalar number tag text isPlain => numbered number (.scalar number tag text isPlain)
  | .sequence number tag items =>
      numbered number (.sequence number tag items) ++ Tree.anchoredItems items
  | .mapping number tag entries =>
      numbered number (.mapping number tag entries) ++ Tree.anchoredEntries entries

/-- The anchored nodes in items. -/
def Tree.anchoredItems : List Tree → List (Nat × Tree)
  | [] => []
  | item :: rest => item.anchored ++ Tree.anchoredItems rest

/-- The anchored nodes in entries. -/
def Tree.anchoredEntries : List (Tree × Tree) → List (Nat × Tree)
  | [] => []
  | (key, value) :: rest => key.anchored ++ value.anchored ++ Tree.anchoredEntries rest

end

mutual

/-- The number of events of a node: a scalar and an alias are one, a collection starts and ends. -/
def Tree.eventCount : Tree → Nat
  | .alias _ => 1
  | .scalar _ _ _ _ => 1
  | .sequence _ _ items => 2 + Tree.eventCounts items
  | .mapping _ _ entries => 2 + Tree.entryEventCounts entries

/-- The number of events of items. -/
def Tree.eventCounts : List Tree → Nat
  | [] => 0
  | item :: rest => item.eventCount + Tree.eventCounts rest

/-- The number of events of entries. -/
def Tree.entryEventCounts : List (Tree × Tree) → Nat
  | [] => 0
  | (key, value) :: rest => key.eventCount + value.eventCount + Tree.entryEventCounts rest

end

end MappedCoverage.Yaml
