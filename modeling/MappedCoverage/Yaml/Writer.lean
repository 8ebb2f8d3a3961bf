import MappedCoverage.Decimal.Layout
import MappedCoverage.Document.Basic
import MappedCoverage.Text.Position
import MappedCoverage.Yaml.Style

/-!
# Writing YAML

A document is written in block style with two blanks a level; a sequence in a record stands as deep
as its key. Empty sequences and records are written as brackets. A key that spans lines or is longer
than 128 bytes is written behind a question mark.
-/

namespace MappedCoverage.Yaml

/-- A number. -/
def numberText : Number → List Char
  | .integer value => (toString value).toList
  | .real value => (Decimal.Layout.yaml.text value).toList

/-- Starts a new line with blanks; a text that ends with a line end has started it already. -/
def onNewLine (indent : Nat) (text : List Char) : List Char :=
  match text.getLast? with
  | some c => if isBreak c then text ++ blanks indent else text ++ '\n' :: blanks indent
  | none => blanks indent

/-- Texts on lines of their own. -/
def stacked (indent : Nat) : List (List Char) → List Char
  | [] => []
  | [text] => text
  | text :: rest => onNewLine indent text ++ stacked indent rest

/-- The greatest number of bytes of a key in front of its colon. -/
def simpleKeyLimit : Nat := 128

/-- Whether a key stands in front of its colon on one line. -/
def isSimpleKey (key : String) : Bool :=
  !key.toList.any isBreak && Text.byteSize key.toList ≤ simpleKeyLimit

/-- What stands between a key and its value: the value is on the same line, or on the next at an
indentation. -/
inductive Placement where
  | sameLine
  | nextLine (deeper : Nat)

/-- Where a value stands behind a simple key. -/
def placement : Document → Placement
  | .sequence (_ :: _) => .nextLine 0
  | .record (_ :: _) => .nextLine 2
  | _ => .sameLine

mutual

/-- A document whose further lines are indented at least as deep as `indent`. -/
def nodeText (indent : Nat) : Document → List Char
  | .null => "null".toList
  | .boolean value => if value then "true".toList else "false".toList
  | .number value => numberText value
  | .text value => scalarText indent value
  | .sequence items => if items.isEmpty then ['[', ']'] else stacked indent (itemTexts indent items)
  | .record entries =>
      if entries.isEmpty then ['{', '}'] else stacked indent (entryTexts indent entries)

/-- The items of a sequence, each behind a hyphen. -/
def itemTexts (indent : Nat) : List Document → List (List Char)
  | [] => []
  | item :: rest => (['-', ' '] ++ nodeText (indent + 2) item) :: itemTexts indent rest

/-- The entries of a record. -/
def entryTexts (indent : Nat) : List (String × Document) → List (List Char)
  | [] => []
  | (key, value) :: rest =>
      let text :=
        if isSimpleKey key then
          let key := scalarText (indent + 2) key ++ [':']
          match placement value with
          | .sameLine => key ++ ' ' :: nodeText (indent + 2) value
          | .nextLine deeper => onNewLine (indent + deeper) key ++ nodeText (indent + deeper) value
        else
          onNewLine indent (['?', ' '] ++ scalarText (indent + 2) key)
            ++ [':', ' '] ++ nodeText (indent + 2) value
      text :: entryTexts indent rest

end

/-- The text of a document, with a final line end. -/
def write (document : Document) : String :=
  let text := nodeText 0 document
  String.ofList (onNewLine 0 text)

end MappedCoverage.Yaml
