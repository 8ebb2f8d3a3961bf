import MappedCoverage.Decimal.Layout
import MappedCoverage.Json.Reader
import MappedCoverage.Text.Quoted

/-!
# Reading JSON of a known shape

Readers that ask for a text, an optional text, a list or a record of known fields, and fault on
any other value by naming what was found and what was asked for. Values that nobody asked for are
passed over: their nesting is not limited and their numbers may have any size.
-/

namespace MappedCoverage.Json

/-- What a value is called in a fault. -/
inductive Found where
  | null
  | boolean (value : Bool)
  | number (value : Number)
  | text (value : String)
  | list
  | record

/-- The text of a number. -/
def numberText : Number → String
  | .integer value => toString value
  | .real value => Decimal.Layout.json.text value

/-- The name of a value in a fault. -/
def Found.name : Found → String
  | .null => "null"
  | .boolean value => if value then "boolean `true`" else "boolean `false`"
  | .number (.integer value) => s!"integer `{toString value}`"
  | .number (.real value) => s!"floating point `{Decimal.Layout.json.text value}`"
  | .text value => "string " ++ Text.quoted value
  | .list => "sequence"
  | .record => "map"

/-- The name of the kind of a document. -/
def Found.ofDocument : Document → Found
  | .null => .null
  | .boolean value => .boolean value
  | .number value => .number value
  | .text value => .text value
  | .sequence _ => .list
  | .record _ => .record

/-- The message for a value of another kind than the one asked for. -/
def mismatch (found : Found) (expected : String) : String :=
  s!"invalid type: {found.name}, expected {expected}"

/-- The fault of a value that is not what was asked for. A list or record is faulted before it is
read, any other value after. -/
def refuse (expected : String) (text : List Char) : Fault :=
  let shape := fun (found : Found) (rest : List Char) =>
    Fault.here (.shape (mismatch found expected)) rest
  let after := fun {α : Type} (reading : Except Fault (α × List Char)) (found : α → Found) =>
    match reading with
    | .ok (value, rest) => shape (found value) rest
    | .error fault => fault
  match text with
  | [] => .here .endInValue []
  | 'n' :: rest => after (readWord ['u', 'l', 'l'] rest) fun _ => .null
  | 't' :: rest => after (readWord ['r', 'u', 'e'] rest) fun _ => .boolean true
  | 'f' :: rest => after (readWord ['a', 'l', 's', 'e'] rest) fun _ => .boolean false
  | '-' :: rest => after (readNumber false rest) .number
  | '"' :: rest => after (readText rest) .text
  | '[' :: rest => shape .list ('[' :: rest)
  | '{' :: rest => shape .record ('{' :: rest)
  | c :: rest =>
      if c.isDigit then after (readNumber true (c :: rest)) .number
      else .next .valueExpected (c :: rest)

/-- Reads a text. -/
def readTextValue (text : List Char) : Except Fault (String × List Char) :=
  match skipBlanks text with
  | '"' :: rest => readText rest
  | rest => .error (refuse "a string" rest)

/-- Reads a text or null. -/
def readOptionalText (text : List Char) : Except Fault (Option String × List Char) :=
  match skipBlanks text with
  | 'n' :: rest => do
      let (_, rest) ← readWord ['u', 'l', 'l'] rest
      return (none, rest)
  | rest => do
      let (value, rest) ← readTextValue rest
      return (some value, rest)

/-- Reads the items of a list by a reader of one item; `fuel` bounds their number. -/
def readListItems {α : Type} (readItem : List Char → Except Fault (α × List Char)) :
    Nat → Bool → List α → List Char → Except Fault (List α × List Char)
  | 0, _, _, text => .error (.here .endInList text)
  | fuel + 1, first, taken, text => do
      match ← nextItem first text with
      | .close rest => return (taken.reverse, rest)
      | .item rest =>
          let (value, rest) ← readItem rest
          readListItems readItem fuel false (value :: taken) rest

/-- Reads a list by a reader of one item. -/
def readList
    {α : Type}
    (readItem : List Char → Except Fault (α × List Char))
    (text : List Char) :
    Except Fault (List α × List Char) :=
  match skipBlanks text with
  | '[' :: rest => readListItems readItem (rest.length + 1) true [] rest
  | rest => .error (refuse "a sequence" rest)

/-- A list or record that is being passed over. -/
inductive Frame where
  | list
  | record

/-- What passing over does next: a value, or what follows one. -/
inductive Passing where
  | value
  | separator (first : Bool)

/-- Passes over the next step of a value inside the given frames, innermost first. -/
def skipFrom : Nat → Passing → List Frame → List Char → Except Fault (Unit × List Char)
  | 0, _, _, text => .error (.here .endInValue text)
  | fuel + 1, .value, frames, text => do
      let close := fun (reading : Reading Unit) => do
        let (_, rest) ← (reading : Except Fault (Unit × List Char))
        skipFrom fuel (.separator false) frames rest
      match skipBlanks text with
      | [] => .error (.here .endInValue [])
      | 'n' :: rest => close (readWord ['u', 'l', 'l'] rest)
      | 't' :: rest => close (readWord ['r', 'u', 'e'] rest)
      | 'f' :: rest => close (readWord ['a', 'l', 's', 'e'] rest)
      | '-' :: rest => close (skipNumber rest)
      | '"' :: rest => close (skipText rest)
      | '[' :: rest => skipFrom fuel (.separator true) (.list :: frames) rest
      | '{' :: rest => skipFrom fuel (.separator true) (.record :: frames) rest
      | c :: rest =>
          if c.isDigit then close (skipNumber (c :: rest))
          else .error (.next .valueExpected (c :: rest))
  | _ + 1, .separator _, [], text => .ok ((), text)
  | fuel + 1, .separator first, .list :: frames, text =>
      match skipBlanks text with
      | [] => .error (.here .endInList [])
      | ']' :: rest => skipFrom fuel (.separator false) frames rest
      | c :: rest =>
          if first then skipFrom fuel .value (.list :: frames) (c :: rest)
          else if c = ',' then skipFrom fuel .value (.list :: frames) rest
          else .error (.next .listSeparatorExpected (c :: rest))
  | fuel + 1, .separator first, .record :: frames, text => do
      let entry := fun (rest : List Char) => do
        match skipBlanks rest with
        | [] => .error (.here .endInRecord [])
        | '"' :: rest =>
            let (_, rest) ← (skipText rest : Except Fault (Unit × List Char))
            let (_, rest) ← (readColon rest : Except Fault (Unit × List Char))
            skipFrom fuel .value (.record :: frames) rest
        | rest => .error (.next .keyExpected rest)
      match skipBlanks text with
      | [] => .error (.here .endInRecord [])
      | '}' :: rest => skipFrom fuel (.separator false) frames rest
      | c :: rest =>
          if first then entry (c :: rest)
          else if c = ',' then entry rest
          else .error (.next .recordSeparatorExpected (c :: rest))

/-- Passes over a value. -/
def skipValue (text : List Char) : Except Fault (Unit × List Char) :=
  skipFrom (2 * text.length + 2) .value [] text

/-- The end of a list that was read item by item up to here. -/
def closeList (text : List Char) : Except Fault (Unit × List Char) :=
  match skipBlanks text with
  | [] => .error (.here .endInList [])
  | ']' :: rest => .ok ((), rest)
  | ',' :: rest =>
      match skipBlanks rest with
      | ']' :: rest => .error (.next .trailingComma (']' :: rest))
      | rest => .error (.next .trailingCharacters rest)
  | rest => .error (.next .trailingCharacters rest)

end MappedCoverage.Json
