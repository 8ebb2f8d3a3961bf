import MappedCoverage.Json.Shape

/-!
# Writing JSON

A document is written either compactly or over indented lines of two spaces a level; the entries of
a record stand in their order. Reading takes both forms back.
-/

namespace MappedCoverage.Json

/-- A hexadecimal digit in lower case. -/
def hexDigit (n : Nat) : Char :=
  (['0', '1', '2', '3', '4', '5', '6', '7', '8', '9', 'a', 'b', 'c', 'd', 'e', 'f'] : List Char)
    |>.getD n '0'

/-- A character as it stands between quotes. -/
def escape (c : Char) : List Char :=
  if c = '"' then ['\\', '"']
  else if c = '\\' then ['\\', '\\']
  else if c = '\x08' then ['\\', 'b']
  else if c = '\x0c' then ['\\', 'f']
  else if c = '\n' then ['\\', 'n']
  else if c = '\r' then ['\\', 'r']
  else if c = '\t' then ['\\', 't']
  else if c.toNat < 0x20 then
    ['\\', 'u', '0', '0', hexDigit (c.toNat / 16), hexDigit (c.toNat % 16)]
  else [c]

/-- A text between quotes. -/
def quote (text : String) : String :=
  String.ofList ('"' :: (text.toList.flatMap escape ++ ['"']))

/-- The text of a scalar. -/
def scalar : Document → String
  | .boolean value => if value then "true" else "false"
  | .number value => numberText value
  | .text value => quote value
  | _ => "null"

mutual

/-- Compact JSON text. -/
def compact : Document → String
  | .sequence items => "[" ++ String.intercalate "," (compactItems items) ++ "]"
  | .record entries => "\x7b" ++ String.intercalate "," (compactEntries entries) ++ "\x7d"
  | .null => scalar .null
  | .boolean value => scalar (.boolean value)
  | .number value => scalar (.number value)
  | .text value => scalar (.text value)

/-- The compact texts of items. -/
def compactItems : List Document → List String
  | [] => []
  | item :: rest => compact item :: compactItems rest

/-- The compact texts of entries. -/
def compactEntries : List (String × Document) → List String
  | [] => []
  | (key, value) :: rest => (quote key ++ ":" ++ compact value) :: compactEntries rest

end

/-- Two spaces a level. -/
def indentation (level : Nat) : String :=
  String.ofList (List.replicate (2 * level) ' ')

/-- Lines between an opening and a closing bracket, one level in. -/
def bracketed (opening closing : String) (level : Nat) (lines : List String) : String :=
  if lines.isEmpty then opening ++ closing
  else
    let separator := ",\n" ++ indentation (level + 1)
    opening ++ "\n" ++ indentation (level + 1) ++ String.intercalate separator lines
      ++ "\n" ++ indentation level ++ closing

mutual

/-- Indented JSON text of a document at a level. -/
def indented (level : Nat) : Document → String
  | .sequence items => bracketed "[" "]" level (indentedItems (level + 1) items)
  | .record entries => bracketed "\x7b" "\x7d" level (indentedEntries (level + 1) entries)
  | .null => scalar .null
  | .boolean value => scalar (.boolean value)
  | .number value => scalar (.number value)
  | .text value => scalar (.text value)

/-- The indented texts of items. -/
def indentedItems (level : Nat) : List Document → List String
  | [] => []
  | item :: rest => indented level item :: indentedItems level rest

/-- The indented texts of entries. -/
def indentedEntries (level : Nat) : List (String × Document) → List String
  | [] => []
  | (key, value) :: rest =>
      (quote key ++ ": " ++ indented level value) :: indentedEntries level rest

end

/-- Indented JSON text without a final line break. -/
def pretty (document : Document) : String :=
  indented 0 document

end MappedCoverage.Json
