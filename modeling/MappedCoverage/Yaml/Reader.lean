import MappedCoverage.Document.Basic
import MappedCoverage.Yaml.Tokens
import MappedCoverage.Yaml.Tree

/-!
# Reading YAML documents

A document of a text denotes the value of its node. Keys are texts as they are written, and the last
value of a key counts. Collections nest to 128 levels, aliased ones included, and aliases are
followed a bounded number of times, so a short text cannot denote an endless value.
-/

namespace MappedCoverage.Yaml

/-- The value of an integer of at most 64 bits. -/
def integerValue? (value : Int) : Option Document :=
  if -0x8000_0000_0000_0000 ≤ value ∧ value < 0x1_0000_0000_0000_0000 then
    some (.number (.integer value))
  else none

/-- The value of a floating-point number; infinities and not-a-number have none and are null. -/
def realValue (value : Float) : Document :=
  if value.isFinite then .number (.real value) else .null

/-- The value of a plain scalar without a tag. -/
def plainValue? (text : String) : Option Document :=
  match Plain.read text with
  | .null => some .null
  | .boolean value => some (.boolean value)
  | .integer value => integerValue? value
  | .real value => some (realValue value)
  | .text => some (.text text)

/-- What standard tags start with. -/
def standardTag : List Char := "tag:yaml.org,2002:".toList

/-- Whether a tag asks for a type of its own, which no value has. -/
def isLocalTag (tag : Option (List Char)) : Bool :=
  match tag with
  | some ('!' :: _) => true
  | _ => false

/-- The value of a scalar under a standard tag; a tag of another kind makes it a text. -/
def taggedValue? (tag : List Char) (text : String) : Option Document :=
  if tag = standardTag ++ "bool".toList then
    match Plain.read text with
    | .boolean value => some (.boolean value)
    | _ => none
  else if tag = standardTag ++ "int".toList then
    (integer? text.toList).bind integerValue?
  else if tag = standardTag ++ "float".toList then
    (real? text.toList).map realValue
  else if tag = standardTag ++ "null".toList then
    if text ≠ "" ∧ Plain.read text matches .null then some .null else none
  else some (.text text)

/-- The value of a scalar. -/
def scalarValue? (tag : Option (List Char)) (text : String) (isPlain : Bool) : Option Document :=
  match tag with
  | some tag => taggedValue? tag text
  | none => if isPlain then plainValue? text else some (.text text)

/-- The anchored nodes that aliases denote, and how often aliases may be followed. -/
structure Links where
  trees : List (Nat × Tree)
  limit : Nat

/-- Follows an alias; `jumps` counts the aliases followed so far. -/
def Links.follow? (links : Links) (jumps : Nat) : Tree → Option (Tree × Nat)
  | .alias number =>
      if links.limit ≤ jumps then none
      else (links.trees.lookup number).map fun tree => (tree, jumps + 1)
  | tree => some (tree, jumps)

/-- The values of items by a reader of one, with the aliases followed. -/
def itemValues? (value? : Nat → Tree → Option (Document × Nat)) :
    Nat → List Tree → Option (List Document × Nat)
  | jumps, [] => some ([], jumps)
  | jumps, item :: rest => do
      let (first, jumps) ← value? jumps item
      let (others, jumps) ← itemValues? value? jumps rest
      return (first :: others, jumps)

/-- The text of a key, which must be a scalar. -/
def keyText? (links : Links) (jumps : Nat) (tree : Tree) : Option (String × Nat) := do
  match ← links.follow? jumps tree with
  | (.scalar _ _ text _, jumps) => return (String.ofList text, jumps)
  | _ => none

/-- The values of entries by a reader of one, added to those of the entries before. -/
def entryValues? (links : Links) (value? : Nat → Tree → Option (Document × Nat)) :
    Entries Document → Nat → List (Tree × Tree) → Option (Entries Document × Nat)
  | written, jumps, [] => some (written, jumps)
  | written, jumps, (key, value) :: rest => do
      let (key, jumps) ← keyText? links jumps key
      let (value, jumps) ← value? jumps value
      entryValues? links value? (Entries.insert key value written) jumps rest

/-- The value of a tree whose collections nest to at most `depth` levels. -/
def value? (links : Links) (depth : Nat) (jumps : Nat) (tree : Tree) :
    Option (Document × Nat) := do
  let (tree, jumps) ← links.follow? jumps tree
  match tree, depth with
  | .alias _, _ => none
  | .scalar _ tag text isPlain, _ =>
      if isLocalTag tag then none
      else (scalarValue? tag (String.ofList text) isPlain).map fun value => (value, jumps)
  | .sequence _ tag items, depth + 1 =>
      if isLocalTag tag then none
      else do
        let (items, jumps) ← itemValues? (value? links depth) jumps items
        return (.sequence items, jumps)
  | .mapping _ tag entries, depth + 1 =>
      if isLocalTag tag then none
      else do
        let (entries, jumps) ← entryValues? links (value? links depth) [] jumps entries
        return (.record entries, jumps)
  | _, 0 => none

/-- The number of levels that collections may nest to. -/
def depthLimit : Nat := 128

/-- How often aliases may be followed for each event. -/
def jumpsPerEvent : Nat := 100

/-- The value of a node. -/
def Node.value? (node : Node) : Option Document := do
  let (tree, _) ← node.link? .empty
  let links : Links := ⟨tree.anchored.reverse, tree.eventCount * jumpsPerEvent⟩
  let (value, _) ← Yaml.value? links depthLimit 0 tree
  return value

/-- The document that a YAML text denotes; a text without one denotes null. -/
def read? (text : String) : Option Document := do
  let tokens ← tokens? text
  match ← Node.ofTokens? tokens with
  | none => return .null
  | some node => node.value?

end MappedCoverage.Yaml
