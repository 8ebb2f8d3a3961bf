import MappedCoverage.Text.Pieces
import MappedCoverage.Yaml.Cursor

/-!
# Tokens

The words of a YAML text, and readers of those that have content: anchors, tags, directives and the
five kinds of scalars. A reader gives what it read and the place after it, or nothing where the text
is no such word.
-/

namespace MappedCoverage.Yaml

/-- A word of a text. -/
inductive Token where
  | versionDirective (major minor : Nat)
  | tagDirective (handle expansion : List Char)
  | documentStart
  | documentEnd
  | blockSequenceStart
  | blockMappingStart
  | blockEnd
  | flowSequenceStart
  | flowSequenceEnd
  | flowMappingStart
  | flowMappingEnd
  | blockEntry
  | flowEntry
  | key
  | value
  | alias (name : List Char)
  | anchor (name : List Char)
  | tag (handle suffix : List Char)
  | scalar (text : List Char) (isPlain : Bool)
  | streamEnd
deriving DecidableEq

/-- The characters of names. -/
def isNameChar (c : Char) : Bool :=
  c.isAlphanum || c = '_' || c = '-'

/-- The characters besides blanks and line ends that may follow a name. -/
def nameEnders : List Char :=
  ['?', ':', ',', ']', '}', '%', '@', Char.ofNat 0x60]

/-- Reads the name of an anchor or an alias after its indicator. -/
def readName? (cursor : Cursor) : Option (List Char × Cursor) :=
  let (name, cursor) := cursor.span isNameChar
  let ends :=
    match cursor.here? with
    | some c => isBlankOrEnd (some c) || nameEnders.contains c
    | none => true
  if name.isEmpty || !ends then none else some (name, cursor)

/-- Reads the handle of a tag: an exclamation mark, perhaps a name, perhaps another mark. Without
the second mark it is only the start of a tag, which a directive does not allow. -/
def readHandle? (isDirective : Bool) (cursor : Cursor) : Option (List Char × Cursor) :=
  if cursor.here? ≠ some '!' then none
  else
    let (name, cursor) := (cursor.skip 1).span isNameChar
    if cursor.here? = some '!' then some ('!' :: (name ++ ['!']), cursor.skip 1)
    else if isDirective && !name.isEmpty then none
    else some ('!' :: name, cursor)

/-- The marks that may stand in a tag. -/
def tagMarks : List Char :=
  [';', '/', '?', ':', '@', '&', '=', '+', '$', '.', '!', '~', '*', Char.ofNat 0x27, '(', ')']

/-- The marks that may stand only in a tag between angle brackets. -/
def verbatimMarks : List Char := [',', '[', ']']

/-- The value of an octet written as a percent sign and two hexadecimal digits. -/
def octet? : List Char → Option Nat
  | '%' :: a :: b :: _ => do
      let a ← digit? 16 a
      let b ← digit? 16 b
      return a * 16 + b
  | _ => none

/-- The number of octets of a character by its first octet. -/
def octetCount? (first : Nat) : Option Nat :=
  if first < 0x80 then some 1
  else if first / 0x20 = 0x06 then some 2
  else if first / 0x10 = 0x0E then some 3
  else if first / 0x08 = 0x1E then some 4
  else none

/-- Reads further octets of a character. -/
def readOctets? : Nat → Cursor → Option (List UInt8 × Cursor)
  | 0, cursor => some ([], cursor)
  | count + 1, cursor => do
      let octet ← octet? cursor.rest
      if octet / 0x40 ≠ 0x02 then none
      else
        let (octets, cursor) ← readOctets? count (cursor.skip 3)
        return (UInt8.ofNat octet :: octets, cursor)

/-- Reads a character that is written as octets. -/
def readEscapedOctets? (cursor : Cursor) : Option (List Char × Cursor) := do
  let first ← octet? cursor.rest
  let count ← octetCount? first
  let (octets, cursor) ← readOctets? (count - 1) (cursor.skip 3)
  let text ← String.fromUTF8? ⟨(UInt8.ofNat first :: octets).toArray⟩
  return (text.toList, cursor)

/-- Reads the characters of a tag; `fuel` bounds their number. -/
def readTagChars? (isVerbatim : Bool) : Nat → Cursor → Option (List Char × Cursor)
  | 0, cursor => some ([], cursor)
  | fuel + 1, cursor =>
      match cursor.here? with
      | none => some ([], cursor)
      | some c =>
          if c = '%' then do
            let (first, cursor) ← readEscapedOctets? cursor
            let (others, cursor) ← readTagChars? isVerbatim fuel cursor
            return (first ++ others, cursor)
          else if isNameChar c || tagMarks.contains c || (isVerbatim && verbatimMarks.contains c) then do
            let (others, cursor) ← readTagChars? isVerbatim fuel (cursor.skip 1)
            return (c :: others, cursor)
          else some ([], cursor)

/-- Reads a tag, or the rest of one whose start has been read. -/
def readTagText? (isVerbatim : Bool) (start : List Char) (cursor : Cursor) :
    Option (List Char × Cursor) := do
  let (text, cursor) ← readTagChars? isVerbatim cursor.rest.length cursor
  if start.isEmpty ∧ text.isEmpty then none else some (start.drop 1 ++ text, cursor)

/-- Whether a handle is written between two exclamation marks. -/
def isHandle (handle : List Char) : Bool :=
  2 ≤ handle.length && handle.getLast? = some '!'

/-- Reads a tag at its exclamation mark. -/
def readTag? (isFlow : Bool) (cursor : Cursor) : Option (Token × Cursor) := do
  let (token, cursor) ←
    if cursor.at? 1 = some '<' then do
      let (text, cursor) ← readTagText? true [] (cursor.skip 2)
      if cursor.here? = some '>' then some (Token.tag [] text, cursor.skip 1) else none
    else do
      let (handle, cursor) ← readHandle? false cursor
      if isHandle handle then
        let (suffix, cursor) ← readTagText? false [] cursor
        return (Token.tag handle suffix, cursor)
      else
        let (suffix, cursor) ← readTagText? false handle cursor
        return (if suffix.isEmpty then Token.tag [] ['!'] else Token.tag ['!'] suffix, cursor)
  if (isFlow && cursor.here? = some ',') || cursor.blankOrEndAt 0 then some (token, cursor)
  else none

/-- Reads a number of at most nine digits. -/
def readVersionNumber? (cursor : Cursor) : Option (Nat × Cursor) :=
  let (digits, cursor) := cursor.span Char.isDigit
  if digits.isEmpty ∨ 9 < digits.length then none else some (decimal digits, cursor)

/-- Reads the content of a directive after its name. -/
def readDirectiveContent? (name : List Char) (cursor : Cursor) : Option (Token × Cursor) :=
  let cursor := cursor.skipWhile isSpaceOrTab
  if name = "YAML".toList then do
    let (major, cursor) ← readVersionNumber? cursor
    if cursor.here? ≠ some '.' then none
    else
      let (minor, cursor) ← readVersionNumber? (cursor.skip 1)
      return (Token.versionDirective major minor, cursor)
  else if name = "TAG".toList then do
    let (handle, cursor) ← readHandle? true cursor
    if !(cursor.here?.any isSpaceOrTab) then none
    else
      let (expansion, cursor) ← readTagText? true [] (cursor.skipWhile isSpaceOrTab)
      if cursor.blankOrEndAt 0 then some (Token.tagDirective handle expansion, cursor) else none
  else none

/-- Reads a directive at its percent sign, up to the next line. -/
def readDirective? (cursor : Cursor) : Option (Token × Cursor) := do
  let (name, cursor) := (cursor.skip 1).span isNameChar
  if name.isEmpty || !cursor.blankOrEndAt 0 then none
  else
    let (token, cursor) ← readDirectiveContent? name cursor
    let cursor ← cursor.finishLine?
    return (token, cursor)

/-- What folding makes of line ends: the first is dropped if others follow and becomes a blank if
none does. -/
def folded (first others : List Char) : List Char :=
  if first = ['\n'] then (if others.isEmpty then [' '] else others) else first ++ others

/-- The blanks and line ends between two words of a scalar: blanks of one line, or the first line
end and the others. -/
structure Gap where
  blanks : List Char
  first : List Char
  others : List Char
  isBroken : Bool

/-- The gap as it stands in the text of a scalar. -/
def Gap.text (gap : Gap) : List Char :=
  if gap.isBroken then folded gap.first gap.others else gap.blanks

/-- Reads blanks and line ends; `fuel` bounds their number. A tab in front of column `tabLimit` of a
further line is refused. -/
def readGap? (tabLimit : Nat) : Nat → Gap → Cursor → Option (Gap × Cursor)
  | 0, gap, cursor => some (gap, cursor)
  | fuel + 1, gap, cursor =>
      match cursor.here? with
      | none => some (gap, cursor)
      | some c =>
          if isSpaceOrTab c then
            if gap.isBroken then
              if c = '\t' ∧ cursor.column < tabLimit then none
              else readGap? tabLimit fuel gap (cursor.skip 1)
            else readGap? tabLimit fuel { gap with blanks := gap.blanks ++ [c] } (cursor.skip 1)
          else if isBreak c then
            let (lineEnd, cursor) := cursor.takeLineEnd
            if gap.isBroken then
              readGap? tabLimit fuel { gap with others := gap.others ++ lineEnd } cursor
            else readGap? tabLimit fuel { gap with first := lineEnd, isBroken := true } cursor
          else some (gap, cursor)

/-- The characters of short escapes in a double-quoted scalar. -/
def escapedChars : List (Char × Char) :=
  [('0', '\x00'), ('a', '\x07'), ('b', '\x08'), ('t', '\x09'), ('\t', '\x09'), ('n', '\x0A'),
    ('v', '\x0B'), ('f', '\x0C'), ('r', '\x0D'), ('e', '\x1B'), (' ', ' '), ('"', '"'),
    ('/', '/'), ('\\', '\\'), ('N', '\u0085'), ('_', '\u00A0'), ('L', '\u2028'), ('P', '\u2029')]

/-- The number of digits of an escape by code point. -/
def escapeLength? : Char → Option Nat
  | 'x' => some 2
  | 'u' => some 4
  | 'U' => some 8
  | _ => none

/-- Reads an escape at its backslash. -/
def readEscape? (cursor : Cursor) : Option (Char × Cursor) := do
  let letter ← cursor.at? 1
  match escapedChars.lookup letter with
  | some c => return (c, cursor.skip 2)
  | none =>
      let count ← escapeLength? letter
      let digits := (cursor.rest.drop 2).take count
      let code ← digits? 16 digits
      if digits.length < count ∨ (0xD800 ≤ code ∧ code ≤ 0xDFFF) ∨ 0x10FFFF < code then none
      else return (Char.ofNat code, cursor.skip (2 + count))

/-- Reads the words of a quoted scalar after its opening quote, with the gaps between them; `taken`
holds what was read, in reverse, and `fuel` bounds the steps. -/
def readQuoted? (quote : Char) : Nat → List Char → Cursor → Option (List Char × Cursor)
  | 0, _, _ => none
  | fuel + 1, taken, cursor =>
      let isSingle := quote ≠ '"'
      match cursor.here? with
      | none => none
      | some c =>
          if cursor.atDocumentMarker then none
          else if c = quote then
            if isSingle ∧ cursor.at? 1 = some quote then
              readQuoted? quote fuel (quote :: taken) (cursor.skip 2)
            else some (taken.reverse, cursor.skip 1)
          else if isBlankOrEnd (some c) then do
            let (gap, cursor) ← readGap? 0 (cursor.rest.length + 1) ⟨[], [], [], false⟩ cursor
            readQuoted? quote fuel (gap.text.reverse ++ taken) cursor
          else if c = '\\' ∧ !isSingle then
            if (cursor.skip 1).atBreak then do
              let cursor := (cursor.skip 1).skipLineEnd
              let (gap, cursor) ← readGap? 0 (cursor.rest.length + 1) ⟨[], [], [], true⟩ cursor
              readQuoted? quote fuel (gap.text.reverse ++ taken) cursor
            else do
              let (escaped, cursor) ← readEscape? cursor
              readQuoted? quote fuel (escaped :: taken) cursor
          else readQuoted? quote fuel (c :: taken) (cursor.skip 1)

/-- The marks that structure flow collections. -/
def flowMarks : List Char := [',', '[', ']', '{', '}']

/-- How the words of a plain scalar on one line end. -/
inductive WordEnd where
  | blank
  | mark
  | refused

/-- Reads the characters of a plain scalar up to a blank or a mark. -/
def readWord (isFlow : Bool) : Nat → List Char → Cursor → List Char × Cursor × WordEnd
  | 0, taken, cursor => (taken, cursor, .mark)
  | fuel + 1, taken, cursor =>
      match cursor.here? with
      | none => (taken, cursor, .blank)
      | some c =>
          let next := cursor.at? 1
          if isBlankOrEnd (some c) then (taken, cursor, .blank)
          else if isFlow ∧ c = ':' ∧ next.any (fun d => flowMarks.contains d || d = '?') then
            (taken, cursor, .refused)
          else if (c = ':' ∧ isBlankOrEnd next) ∨ (isFlow ∧ flowMarks.contains c) then
            (taken, cursor, .mark)
          else readWord isFlow fuel (c :: taken) (cursor.skip 1)

/-- A plain scalar in reverse, the place after it, and whether a line ended after its last word. -/
structure PlainScalar where
  reversed : List Char
  cursor : Cursor
  isBroken : Bool

/-- Reads the words of a plain scalar whose further lines start at column `indent` at least, outside
flow collections; `gap` is the gap read last. -/
def readPlain? (isFlow : Bool) (indent : Nat) :
    Nat → List Char → Gap → Cursor → Option PlainScalar
  | 0, taken, gap, cursor => some ⟨taken, cursor, gap.isBroken⟩
  | fuel + 1, taken, gap, cursor =>
      if cursor.atDocumentMarker ∨ cursor.here? = some '#' then
        some ⟨taken, cursor, gap.isBroken⟩
      else
        let (word, after, ending) := readWord isFlow (cursor.rest.length + 1) [] cursor
        let isEmpty := word.isEmpty
        let taken := if isEmpty then taken else word ++ (gap.text.reverse ++ taken)
        let gap : Gap := if isEmpty then gap else ⟨[], [], [], false⟩
        match ending with
        | .refused => none
        | .mark => some ⟨taken, after, gap.isBroken⟩
        | .blank =>
            if after.rest.isEmpty then some ⟨taken, after, gap.isBroken⟩
            else do
              let (gap, next) ← readGap? indent (after.rest.length + 1) gap after
              if !isFlow ∧ next.column < indent then some ⟨taken, next, gap.isBroken⟩
              else readPlain? isFlow indent fuel taken gap next

/-- How the line ends after a block scalar are treated. -/
inductive Chomping where
  | strip
  | clip
  | keep

/-- The chomping that a sign stands for. -/
def chomping? : Option Char → Option Chomping
  | some '+' => some .keep
  | some '-' => some .strip
  | _ => none

/-- Reads the header of a block scalar after its indicator: chomping and indentation in any
order. -/
def readHeader? (cursor : Cursor) : Option (Chomping × Nat × Cursor) :=
  let digit := fun (cursor : Cursor) => (cursor.here?.filter Char.isDigit).map fun c =>
    c.toNat - '0'.toNat
  match chomping? cursor.here? with
  | some chomping =>
      let cursor := cursor.skip 1
      match digit cursor with
      | none => some (chomping, 0, cursor)
      | some 0 => none
      | some increment => some (chomping, increment, cursor.skip 1)
  | none =>
      match digit cursor with
      | none => some (.clip, 0, cursor)
      | some 0 => none
      | some increment =>
          let cursor := cursor.skip 1
          match chomping? cursor.here? with
          | some chomping => some (chomping, increment, cursor.skip 1)
          | none => some (.clip, increment, cursor)

/-- Reads indentation and line ends in front of a line of a block scalar. An `indent` of zero is not
known yet: then any indentation is read, and the deepest is the second component. -/
def readBlockBreaks? (indent : Nat) :
    Nat → Nat → List Char → Cursor → Option (List Char × Nat × Cursor)
  | 0, deepest, breaks, cursor => some (breaks, deepest, cursor)
  | fuel + 1, deepest, breaks, cursor =>
      let blanks := (cursor.rest.takeWhile (· = ' ')).length
      let cursor := cursor.skip (if indent = 0 then blanks else min blanks (indent - cursor.column))
      let deepest := max deepest cursor.column
      if (indent = 0 ∨ cursor.column < indent) ∧ cursor.here? = some '\t' then none
      else if cursor.atBreak then
        let (lineEnd, cursor) := cursor.takeLineEnd
        readBlockBreaks? indent fuel deepest (breaks ++ lineEnd) cursor
      else some (breaks, deepest, cursor)

/-- Reads the lines of a block scalar. `taken` holds what was read, in reverse; `first` is the end
of the last line and `others` are the empty lines after it; `wasBlank` tells that the last line
started with a blank. -/
def readBlockLines? (isLiteral : Bool) (chomping : Chomping) (indent : Nat) :
    Nat → List Char → List Char → List Char → Bool → Cursor → Option (List Char × Cursor)
  | 0, _, _, _, _, _ => none
  | fuel + 1, taken, first, others, wasBlank, cursor =>
      if cursor.column = indent ∧ !cursor.rest.isEmpty then do
        let isBlank := cursor.here?.any isSpaceOrTab
        let joined :=
          if !isLiteral ∧ first = ['\n'] ∧ !wasBlank ∧ !isBlank then
            (if others.isEmpty then [' '] else others)
          else first ++ others
        let (line, cursor) := cursor.span (!isBreak ·)
        let (lineEnd, cursor) := cursor.takeLineEnd
        let (breaks, _, cursor) ← readBlockBreaks? indent (cursor.rest.length + 1) 0 [] cursor
        readBlockLines? isLiteral chomping indent fuel
          (line.reverse ++ (joined.reverse ++ taken)) lineEnd breaks isBlank cursor
      else
        let ending :=
          match chomping with
          | .strip => []
          | .clip => first
          | .keep => first ++ others
        some (taken.reverse ++ ending, cursor)

/-- Reads a block scalar after its indicator; `parent` is the indentation around it. -/
def readBlock? (isLiteral : Bool) (parent : Int) (cursor : Cursor) :
    Option (List Char × Cursor) := do
  let (chomping, increment, cursor) ← readHeader? cursor
  let cursor ← cursor.finishLine?
  let given := if increment = 0 then 0 else (max parent 0).toNat + increment
  let (breaks, deepest, cursor) ← readBlockBreaks? given (cursor.rest.length + 1) 0 [] cursor
  let indent := if given = 0 then max deepest (max (parent + 1).toNat 1) else given
  readBlockLines? isLiteral chomping indent (cursor.rest.length + 1) [] [] breaks false cursor

end MappedCoverage.Yaml
