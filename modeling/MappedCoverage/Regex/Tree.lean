import MappedCoverage.Unicode.Classes

/-!
# Written regular expressions

The tree of a regular expression as it is written. Flags change the meaning of what follows them up
to the end of their group, so a tree has no meaning of its own; see `Tree.meaning?`.
-/

namespace MappedCoverage.Regex

/-- A flag of a written expression. -/
inductive Flag where
  | ignoreCase
  | multiLine
  | dotMatchesNewline
  | swapGreed
  | unicode
  | crlf
  | ignoreSpace
deriving DecidableEq

/-- A flag and whether it is set or cleared. -/
abbrev FlagChanges := List (Flag × Bool)

/-- A character; one that was written as a byte in two hexadecimal digits is marked. -/
structure Letter where
  char : Char
  isByte : Bool

/-- The classes with a letter of their own. -/
inductive Shorthand where
  | digit
  | space
  | word

/-- A class asked for by property. -/
inductive PropertyName where
  | alone (name : String)
  | withValue (name value : String)

/-- How two classes are combined. -/
inductive ClassOperator where
  | intersection
  | difference
  | symmetricDifference

/-- The inside of brackets. -/
inductive ClassTree where
  | single (letter : Letter)
  | range (first last : Letter)
  | ascii (ranges : Unicode.Ranges) (negated : Bool)
  | shorthand (kind : Shorthand) (negated : Bool)
  | property (name : PropertyName) (negated : Bool)
  | brackets (body : ClassTree) (negated : Bool)
  | union (items : List ClassTree)
  | combined (operator : ClassOperator) (left right : ClassTree)

/-- An assertion, before flags choose between lines and the whole text. -/
inductive Anchor where
  | caret
  | dollar
  | textStart
  | textEnd
  | wordBoundary
  | notWordBoundary
  | wordStart
  | wordEnd
  | wordStartHalf
  | wordEndHalf

/-- A regular expression as it is written. -/
inductive Tree where
  | empty
  | flags (changes : FlagChanges)
  | letter (letter : Letter)
  | dot
  | anchor (kind : Anchor)
  | shorthand (kind : Shorthand) (negated : Bool)
  | property (name : PropertyName) (negated : Bool)
  | brackets (body : ClassTree) (negated : Bool)
  | repeated (inner : Tree) (least : Nat) (most : Option Nat)
  | group (changes : FlagChanges) (captures : Bool) (inner : Tree)
  | alternation (branches : List Tree)
  | sequence (items : List Tree)

/-- A class that lists items; one item stands for itself. -/
def ClassTree.ofItems : List ClassTree → ClassTree
  | [item] => item
  | items => .union items

/-- A sequence of items; one item stands for itself. -/
def Tree.ofItems : List Tree → Tree
  | [] => .empty
  | [item] => item
  | items => .sequence items

mutual

/-- How deeply a class is nested. -/
def ClassTree.depth : ClassTree → Nat
  | .brackets body _ => body.depth + 1
  | .union items => if items.isEmpty then 0 else ClassTree.greatestDepth items + 1
  | .combined _ left right => max left.depth right.depth + 1
  | _ => 0

/-- The greatest depth of several classes. -/
def ClassTree.greatestDepth : List ClassTree → Nat
  | [] => 0
  | item :: rest => max item.depth (ClassTree.greatestDepth rest)

end

mutual

/-- How deeply an expression is nested. -/
def Tree.depth : Tree → Nat
  | .brackets body _ => body.depth + 1
  | .repeated inner _ _ => inner.depth + 1
  | .group _ _ inner => inner.depth + 1
  | .alternation branches => Tree.greatestDepth branches + 1
  | .sequence items => Tree.greatestDepth items + 1
  | _ => 0

/-- The greatest depth of several expressions. -/
def Tree.greatestDepth : List Tree → Nat
  | [] => 0
  | item :: rest => max item.depth (Tree.greatestDepth rest)

end

end MappedCoverage.Regex
