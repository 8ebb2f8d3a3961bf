import MappedCoverage.Text.Blank
import MappedCoverage.Text.Pieces
import MappedCoverage.Unicode.Classes

/-!
# Map comments

Generated code carries its source map in a comment on a line of its own: an address of type JSON,
perhaps with a character set, whose content is base64. Blanks may follow. The last such line of a
text counts.
-/

namespace MappedCoverage.SourceMap

/-- What a map comment starts with. -/
def commentOpening : List Char :=
  "//# sourceMappingURL=data:application/json".toList

/-- What stands in front of a character set. -/
def charsetMark : List Char := ";charset=".toList

/-- What stands in front of the payload. -/
def payloadMark : List Char := ";base64,".toList

/-- The characters of a character set. -/
def isCharsetChar (c : Char) : Bool :=
  Unicode.isWord c || c = '-'

/-- The characters of a payload. -/
def isPayloadChar (c : Char) : Bool :=
  ('A' ≤ c && c ≤ 'Z') || ('a' ≤ c && c ≤ 'z') || ('0' ≤ c && c ≤ '9')
    || c = '+' || c = '/' || c = '='

/-- What follows a given beginning. -/
def after? : List Char → List Char → Option (List Char)
  | [], text => some text
  | _ :: _, [] => none
  | expected :: beginning, c :: rest => if c = expected then after? beginning rest else none

/-- What follows a character set, if one is given. -/
def afterCharset? (text : List Char) : Option (List Char) :=
  match after? charsetMark text with
  | none => some text
  | some rest =>
      if (rest.takeWhile isCharsetChar).isEmpty then none
      else some (rest.dropWhile isCharsetChar)

/-- The payload of a line that is a map comment. -/
def payload? (line : List Char) : Option (List Char) := do
  let rest ← after? commentOpening line
  let rest ← afterCharset? rest
  let rest ← after? payloadMark rest
  let payload := rest.takeWhile isPayloadChar
  if !payload.isEmpty && (rest.dropWhile isPayloadChar).all Text.isSpace then some payload
  else none

/-- The payload of the last map comment of a text. -/
def findPayload? (text : String) : Option String :=
  (((Text.lines text).filterMap payload?).getLast?).map String.ofList

end MappedCoverage.SourceMap
