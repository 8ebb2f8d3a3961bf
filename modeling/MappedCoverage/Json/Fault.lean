import MappedCoverage.Text.Position

/-!
# Faults of JSON texts

Why a text is refused, and where: a fault carries its cause and the number of bytes unread when it
was noticed.
-/

namespace MappedCoverage.Json

/-- Why a JSON text is refused. -/
inductive Cause where
  | endInList
  | endInRecord
  | endInText
  | endInValue
  | colonExpected
  | listSeparatorExpected
  | recordSeparatorExpected
  | wordExpected
  | valueExpected
  | invalidEscape
  | invalidNumber
  | numberOutOfRange
  | controlCharacter
  | keyExpected
  | loneSurrogate
  | trailingComma
  | trailingCharacters
  | surrogatePairExpected
  | tooDeep
  /-- The text is JSON, but not of the shape that its reader asks for. -/
  | shape (message : String)

/-- The wording of a cause. -/
def Cause.message : Cause → String
  | .endInList => "EOF while parsing a list"
  | .endInRecord => "EOF while parsing an object"
  | .endInText => "EOF while parsing a string"
  | .endInValue => "EOF while parsing a value"
  | .colonExpected => "expected `:`"
  | .listSeparatorExpected => "expected `,` or `]`"
  | .recordSeparatorExpected => "expected `,` or `\x7d`"
  | .wordExpected => "expected ident"
  | .valueExpected => "expected value"
  | .invalidEscape => "invalid escape"
  | .invalidNumber => "invalid number"
  | .numberOutOfRange => "number out of range"
  | .controlCharacter => "control character (\\u0000-\\u001F) found while parsing a string"
  | .keyExpected => "key must be a string"
  | .loneSurrogate => "lone leading surrogate in hex escape"
  | .trailingComma => "trailing comma"
  | .trailingCharacters => "trailing characters"
  | .surrogatePairExpected => "unexpected end of hex escape"
  | .tooDeep => "recursion limit exceeded"
  | .shape message => message

/-- A cause and the number of bytes unread. -/
structure Fault where
  cause : Cause
  unread : Nat

/-- A fault noticed after what has been read. -/
def Fault.here (cause : Cause) (rest : List Char) : Fault :=
  ⟨cause, Text.byteSize rest⟩

/-- A fault in the next byte. -/
def Fault.next (cause : Cause) (rest : List Char) : Fault :=
  ⟨cause, Text.byteSize rest - 1⟩

/-- The report of a fault in a text. -/
def Fault.report (fault : Fault) (text : String) : String :=
  let position := Text.positionBefore text.toList fault.unread
  s!"{fault.cause.message} at line {position.line} column {position.column}"

end MappedCoverage.Json
