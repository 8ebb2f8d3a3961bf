import MappedCoverage.Yaml.Style

/-!
# Cursors

A place in a YAML text: the characters left, with their distance from the start of the text and of
the line. Lines end at a carriage return, a line feed, both together, a next line, a line separator
or a paragraph separator; all but the last two read as a line feed.
-/

namespace MappedCoverage.Yaml

/-- A place in a text. -/
structure Cursor where
  rest : List Char
  index : Nat
  line : Nat
  column : Nat

namespace Cursor

/-- The start of a text. -/
def start (text : List Char) : Cursor := ⟨text, 0, 0, 0⟩

/-- The character here. -/
def here? (cursor : Cursor) : Option Char := cursor.rest.head?

/-- The character at a distance. -/
def at? (cursor : Cursor) (distance : Nat) : Option Char := cursor.rest[distance]?

/-- The place after characters of one line. -/
def skip (cursor : Cursor) (count : Nat) : Cursor :=
  { cursor with
    rest := cursor.rest.drop count
    index := cursor.index + count
    column := cursor.column + count }

/-- The characters from here on that satisfy a condition, and the place after them. -/
def span (cursor : Cursor) (condition : Char → Bool) : List Char × Cursor :=
  let taken := cursor.rest.takeWhile condition
  (taken, cursor.skip taken.length)

/-- The place after the characters from here on that satisfy a condition. -/
def skipWhile (cursor : Cursor) (condition : Char → Bool) : Cursor :=
  (cursor.span condition).2

/-- Whether a line ends here. -/
def atBreak (cursor : Cursor) : Bool :=
  match cursor.here? with
  | some c => isBreak c
  | none => false

/-- Whether a line or the text ends here. -/
def atLineEnd (cursor : Cursor) : Bool :=
  cursor.rest.isEmpty || cursor.atBreak

/-- Whether there is a blank, a line end or the end of the text at a distance. -/
def blankOrEndAt (cursor : Cursor) (distance : Nat) : Bool :=
  isBlankOrEnd (cursor.at? distance)

/-- What a line end reads as, and the place after it; elsewhere nothing is read. -/
def takeLineEnd (cursor : Cursor) : List Char × Cursor :=
  let next := fun (count : Nat) =>
    { rest := cursor.rest.drop count
      index := cursor.index + count
      line := cursor.line + 1
      column := 0 : Cursor }
  match cursor.rest with
  | '\r' :: '\n' :: _ => (['\n'], next 2)
  | c :: _ =>
      if c = '\u2028' ∨ c = '\u2029' then ([c], next 1)
      else if isBreak c then (['\n'], next 1)
      else ([], cursor)
  | [] => ([], cursor)

/-- The place after a line end. -/
def skipLineEnd (cursor : Cursor) : Cursor :=
  cursor.takeLineEnd.2

end Cursor

/-- Whether a character is a blank or a tab. -/
def isSpaceOrTab (c : Char) : Bool := c = ' ' || c = '\t'

/-- The place after blanks and a comment, which must fill the line. -/
def Cursor.finishLine? (cursor : Cursor) : Option Cursor :=
  let cursor := cursor.skipWhile isSpaceOrTab
  let cursor := if cursor.here? = some '#' then cursor.skipWhile (!isBreak ·) else cursor
  if cursor.atLineEnd then some cursor.skipLineEnd else none

/-- Whether a marker of documents stands here at the start of a line. -/
def Cursor.atMarker (cursor : Cursor) (c : Char) : Bool :=
  cursor.column = 0 && cursor.rest.take 3 = [c, c, c] && cursor.blankOrEndAt 3

/-- Whether a document starts or ends here. -/
def Cursor.atDocumentMarker (cursor : Cursor) : Bool :=
  cursor.atMarker '-' || cursor.atMarker '.'

end MappedCoverage.Yaml
