import MappedCoverage.Regex.Basic
import MappedCoverage.Regex.Tree

/-!
# The meaning of written regular expressions

Flags are followed from left to right, and a group restores those in force before it. With Unicode
switched off, classes list bytes; one that holds a byte beyond ASCII, or a dot, would match part of
a character and has no meaning.
-/

namespace MappedCoverage.Regex

/-- The flags that change what an expression matches. -/
structure Flags where
  ignoreCase : Bool
  multiLine : Bool
  dotMatchesNewline : Bool
  unicode : Bool
  crlf : Bool

/-- The flags in force at the start. -/
def Flags.initial : Flags := ⟨false, false, false, true, false⟩

/-- The flags after one change. -/
def Flags.change (flags : Flags) (flag : Flag) (value : Bool) : Flags :=
  match flag with
  | .ignoreCase => { flags with ignoreCase := value }
  | .multiLine => { flags with multiLine := value }
  | .dotMatchesNewline => { flags with dotMatchesNewline := value }
  | .unicode => { flags with unicode := value }
  | .crlf => { flags with crlf := value }
  | .swapGreed => flags
  | .ignoreSpace => flags

/-- The flags after changes. -/
def Flags.after (flags : Flags) (changes : FlagChanges) : Flags :=
  changes.foldl (fun flags change => flags.change change.1 change.2) flags

/-- The last ASCII code point. -/
def lastAscii : Nat := 0x7F

/-- The last byte. -/
def lastByte : Nat := 0xFF

/-- Whether all code points are ASCII. -/
def isAscii (ranges : Unicode.Ranges) : Bool :=
  ranges.all (·.2 ≤ lastAscii)

/-- Adds the other case of ASCII letters. -/
def foldAscii (ranges : Unicode.Ranges) : Unicode.Ranges :=
  let lower := (ranges.inter [(0x41, 0x5A)]).map fun range => (range.1 + 0x20, range.2 + 0x20)
  let upper := (ranges.inter [(0x61, 0x7A)]).map fun range => (range.1 - 0x20, range.2 - 0x20)
  Unicode.Ranges.normalize (ranges ++ lower ++ upper)

/-- Adds every character of the same case folding, if case is ignored. -/
def fold (flags : Flags) (ranges : Unicode.Ranges) : Unicode.Ranges :=
  if flags.ignoreCase then
    if flags.unicode then Unicode.Ranges.foldClosure ranges else foldAscii ranges
  else ranges

/-- Folds, then negates if asked to; bytes beyond ASCII have no meaning. -/
def foldAndNegate (flags : Flags) (negated : Bool) (ranges : Unicode.Ranges) :
    Option Unicode.Ranges :=
  let folded := fold flags ranges
  let result :=
    if negated then
      if flags.unicode then folded.complement else folded.complement.inter [(0, lastByte)]
    else folded
  if flags.unicode || isAscii result then some result else none

/-- The characters of a shorthand. -/
def Shorthand.ranges (unicode : Bool) : Shorthand → Unicode.Ranges
  | .digit => if unicode then Unicode.digits else [(0x30, 0x39)]
  | .space => if unicode then Unicode.spaces else [(0x09, 0x0D), (0x20, 0x20)]
  | .word => if unicode then Unicode.wordCharacters else Unicode.asciiWordCharacters

/-- The meaning of a shorthand. -/
def shorthandMeaning? (flags : Flags) (kind : Shorthand) (negated : Bool) :
    Option Unicode.Ranges :=
  foldAndNegate { flags with ignoreCase := false } negated (kind.ranges flags.unicode)

/-- The meaning of a property; without Unicode it has none. -/
def propertyMeaning? (flags : Flags) (name : PropertyName) (negated : Bool) :
    Option Unicode.Ranges := do
  let ranges ←
    match name with
    | .alone name => Unicode.classNamed? name
    | .withValue name value => Unicode.classOfValue? name value
  if flags.unicode then foldAndNegate flags negated ranges else none

/-- The code point of a member of a class; without Unicode it is an ASCII character. -/
def memberCode? (flags : Flags) (letter : Letter) : Option Nat :=
  if flags.unicode || letter.char.toNat ≤ lastAscii then some letter.char.toNat else none

/-- The characters that an operator leaves of two classes. -/
def ClassOperator.combine (left right : Unicode.Ranges) : ClassOperator → Unicode.Ranges
  | .intersection => left.inter right
  | .difference => left.difference right
  | .symmetricDifference => left.symmetricDifference right

mutual

/-- The characters that a class lists. -/
def ClassTree.meaning? (flags : Flags) : ClassTree → Option Unicode.Ranges
  | .single letter => do
      let code ← memberCode? flags letter
      return [(code, code)]
  | .range first last => do
      let first ← memberCode? flags first
      let last ← memberCode? flags last
      return [(first, last)]
  | .ascii ranges negated => foldAndNegate flags negated ranges
  | .shorthand kind negated => shorthandMeaning? flags kind negated
  | .property name negated => propertyMeaning? flags name negated
  | .brackets body negated => do
      let ranges ← body.meaning? flags
      foldAndNegate flags negated ranges
  | .union items => do
      let parts ← ClassTree.meanings? flags items
      return Unicode.Ranges.normalize parts
  | .combined operator left right => do
      let left ← left.meaning? flags
      let right ← right.meaning? flags
      return operator.combine (fold flags left) (fold flags right)

/-- The characters that several classes list. -/
def ClassTree.meanings? (flags : Flags) : List ClassTree → Option Unicode.Ranges
  | [] => some []
  | item :: rest => do
      let ranges ← item.meaning? flags
      let others ← ClassTree.meanings? flags rest
      return ranges ++ others

end

/-- The meaning of an anchor. -/
def Anchor.look (flags : Flags) : Anchor → Look
  | .caret =>
      if flags.multiLine then (if flags.crlf then .anyLineStart else .lineStart) else .textStart
  | .dollar =>
      if flags.multiLine then (if flags.crlf then .anyLineEnd else .lineEnd) else .textEnd
  | .textStart => .textStart
  | .textEnd => .textEnd
  | .wordBoundary => .wordBoundary !flags.unicode
  | .notWordBoundary => .notWordBoundary !flags.unicode
  | .wordStart => .wordStart !flags.unicode
  | .wordEnd => .wordEnd !flags.unicode
  | .wordStartHalf => .wordStartHalf !flags.unicode
  | .wordEndHalf => .wordEndHalf !flags.unicode

/-- The characters that a dot stands for. -/
def dotMeaning? (flags : Flags) : Option Unicode.Ranges :=
  if !flags.unicode then none
  else if flags.dotMatchesNewline then some [(0, Unicode.lastCode)]
  else if flags.crlf then some (Unicode.Ranges.complement [(0x0A, 0x0A), (0x0D, 0x0D)])
  else some (Unicode.Ranges.complement [(0x0A, 0x0A)])

/-- The characters that a letter stands for; without Unicode a byte must be ASCII. -/
def letterMeaning? (flags : Flags) (letter : Letter) : Option Unicode.Ranges :=
  let code := letter.char.toNat
  if !flags.unicode && letter.isByte && code > lastAscii then none
  else some (fold flags [(code, code)])

mutual

/-- The meaning of a tree under flags, and the flags in force after it. -/
def Tree.meaning? (flags : Flags) : Tree → Option (Regex × Flags)
  | .empty => some (.empty, flags)
  | .flags changes => some (.empty, flags.after changes)
  | .letter written =>
      (letterMeaning? flags written).map fun ranges => (.oneOf ranges, flags)
  | .dot => (dotMeaning? flags).map fun ranges => (.oneOf ranges, flags)
  | .anchor kind => some (.look (kind.look flags), flags)
  | .shorthand kind negated =>
      (shorthandMeaning? flags kind negated).map fun ranges => (.oneOf ranges, flags)
  | .property name negated =>
      (propertyMeaning? flags name negated).map fun ranges => (.oneOf ranges, flags)
  | .brackets body negated => do
      let ranges ← body.meaning? flags
      let ranges ← foldAndNegate flags negated ranges
      return (.oneOf ranges, flags)
  | .repeated inner least most => do
      let (inner, flags) ← inner.meaning? flags
      return (.repeated inner least most, flags)
  | .group changes captures inner => do
      let (inner, _) ← inner.meaning? (flags.after changes)
      return (if captures then .capture inner else inner, flags)
  | .alternation branches => do
      let (branches, flags) ← Tree.meanings? flags branches
      return (.choice branches, flags)
  | .sequence items => do
      let (items, flags) ← Tree.meanings? flags items
      return (.sequence items, flags)

/-- The meanings of trees one after another. -/
def Tree.meanings? (flags : Flags) : List Tree → Option (List Regex × Flags)
  | [] => some ([], flags)
  | item :: rest => do
      let (first, flags) ← item.meaning? flags
      let (others, flags) ← Tree.meanings? flags rest
      return (first :: others, flags)

end

end MappedCoverage.Regex
