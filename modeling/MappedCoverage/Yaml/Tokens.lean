import MappedCoverage.Yaml.Token

/-!
# The tokens of a text

Tokens are taken from left to right. Outside flow collections the indentation opens and closes block
collections. What may be a key is noted with its place among the tokens; a colon that follows on the
same line makes it one, and the tokens that open the key are put in front of it.
-/

namespace MappedCoverage.Yaml

/-- A place where a key may have started. -/
structure KeyStart where
  /-- A required key stands at the indentation of its collection. -/
  isRequired : Bool
  /-- The number of tokens in front of the key. -/
  place : Nat
  index : Nat
  line : Nat
  column : Nat

/-- The tokens taken so far, last first, with what they leave open. -/
structure Scan where
  cursor : Cursor
  tokens : List Token
  /-- The possible key of each open flow collection, innermost first, and of the block around. -/
  keys : List (Option KeyStart)
  /-- The indentation of the innermost block collection, and of those around it. -/
  indent : Int
  indents : List Int
  keyAllowed : Bool

namespace Scan

/-- Nothing taken. -/
def start (text : List Char) : Scan where
  cursor := .start text
  tokens := []
  keys := [none]
  indent := -1
  indents := []
  keyAllowed := true

/-- Whether a flow collection is open. -/
def isFlow (scan : Scan) : Bool :=
  1 < scan.keys.length

/-- Appends a token. -/
def push (scan : Scan) (token : Token) : Scan :=
  { scan with tokens := token :: scan.tokens }

/-- Puts a token in front of those from a place on. -/
def pushAt (scan : Scan) (place : Nat) (token : Token) : Scan :=
  let later := scan.tokens.take (scan.tokens.length - place)
  let earlier := scan.tokens.drop (scan.tokens.length - place)
  { scan with tokens := later ++ token :: earlier }

/-- Moves on. -/
def goto (scan : Scan) (cursor : Cursor) : Scan :=
  { scan with cursor }

/-- Moves over characters of one line. -/
def skip (scan : Scan) (count : Nat) : Scan :=
  scan.goto (scan.cursor.skip count)

/-- Allows or forbids keys. -/
def allowKey (scan : Scan) (keyAllowed : Bool) : Scan :=
  { scan with keyAllowed }

/-- The possible key of the innermost collection. -/
def key? (scan : Scan) : Option KeyStart :=
  (scan.keys.head?).join

/-- Sets the possible key of the innermost collection. -/
def setKey (scan : Scan) (key : Option KeyStart) : Scan :=
  { scan with keys := key :: scan.keys.drop 1 }

/-- Gives the possible key up, which must not be a required one. -/
def dropKey? (scan : Scan) : Option Scan :=
  match scan.key? with
  | some key => if key.isRequired then none else some (scan.setKey none)
  | none => some scan

/-- Notes that a key may start here. -/
def saveKey? (scan : Scan) : Option Scan :=
  if scan.keyAllowed then do
    let cursor := scan.cursor
    let key : KeyStart :=
      { isRequired := !scan.isFlow && scan.indent = cursor.column
        place := scan.tokens.length
        index := cursor.index
        line := cursor.line
        column := cursor.column }
    let scan ← scan.dropKey?
    return scan.setKey (some key)
  else some scan

/-- The greatest number of characters of a key in front of its colon. -/
def keyLimit : Nat := 1024

/-- Whether a possible key has become impossible: keys stand on one line and are short. -/
def isStale (scan : Scan) (key : KeyStart) : Bool :=
  key.line < scan.cursor.line || key.index + keyLimit < scan.cursor.index

/-- Gives impossible keys up. -/
def dropStaleKeys? (scan : Scan) : Option Scan := do
  let keys ← scan.keys.mapM fun key? =>
    match key? with
    | none => some none
    | some key =>
        if scan.isStale key then (if key.isRequired then none else some none) else some (some key)
  return { scan with keys }

/-- Opens a block collection at a column deeper than the indentation, at a place among the
tokens. -/
def openBlock (scan : Scan) (column place : Nat) (token : Token) : Scan :=
  if scan.isFlow ∨ (column : Int) ≤ scan.indent then scan
  else
    let scan := { scan with indent := column, indents := scan.indent :: scan.indents }
    scan.pushAt place token

/-- Closes the block collections deeper than a column. -/
def closeBlocks (scan : Scan) (column : Int) : Scan :=
  if scan.isFlow then scan
  else
    let closing := (scan.indent :: scan.indents).takeWhile (column < ·)
    let left := (scan.indent :: scan.indents).dropWhile (column < ·)
    { scan with
      tokens := closing.map (fun _ => Token.blockEnd) ++ scan.tokens
      indent := left.headD (-1)
      indents := left.drop 1 }

/-- Moves over blanks, comments and line ends to the next token. Tabs are blanks only where no key
may start; `fuel` bounds the lines. -/
def toNextToken : Nat → Scan → Scan
  | 0, scan => scan
  | fuel + 1, scan =>
      let tabs := scan.isFlow || !scan.keyAllowed
      let cursor := scan.cursor.skipWhile fun c => c = ' ' || (tabs && c = '\t')
      let cursor := if cursor.here? = some '#' then cursor.skipWhile (!isBreak ·) else cursor
      if cursor.atBreak then
        toNextToken fuel ((scan.goto cursor.skipLineEnd).allowKey (!scan.isFlow || scan.keyAllowed))
      else scan.goto cursor

/-- Takes the end of the text. -/
def takeEnd? (scan : Scan) : Option Scan := do
  let scan ← (scan.closeBlocks (-1)).dropKey?
  return (scan.allowKey false).push .streamEnd

/-- Takes a directive. -/
def takeDirective? (scan : Scan) : Option Scan := do
  let scan ← (scan.closeBlocks (-1)).dropKey?
  let (token, cursor) ← readDirective? scan.cursor
  return ((scan.allowKey false).push token).goto cursor

/-- Takes a marker of documents. -/
def takeMarker? (scan : Scan) (token : Token) : Option Scan := do
  let scan ← (scan.closeBlocks (-1)).dropKey?
  return ((scan.allowKey false).push token).skip 3

/-- Takes the start of a flow collection, which may start a key. -/
def takeFlowStart? (scan : Scan) (token : Token) : Option Scan := do
  let scan ← scan.saveKey?
  let scan := { scan with keys := none :: scan.keys }
  return ((scan.allowKey true).push token).skip 1

/-- Takes the end of a flow collection. -/
def takeFlowEnd? (scan : Scan) (token : Token) : Option Scan := do
  let scan ← scan.dropKey?
  let scan := if scan.isFlow then { scan with keys := scan.keys.drop 1 } else scan
  return ((scan.allowKey false).push token).skip 1

/-- Takes the comma between entries of a flow collection. -/
def takeFlowEntry? (scan : Scan) : Option Scan := do
  let scan ← scan.dropKey?
  return ((scan.allowKey true).push .flowEntry).skip 1

/-- Opens a block collection here, where a key must be allowed. -/
def openBlockHere? (scan : Scan) (token : Token) : Option Scan :=
  if scan.isFlow then some scan
  else if scan.keyAllowed then
    some (scan.openBlock scan.cursor.column scan.tokens.length token)
  else none

/-- Takes the hyphen in front of an item. -/
def takeBlockEntry? (scan : Scan) : Option Scan := do
  let scan ← scan.openBlockHere? .blockSequenceStart
  let scan ← scan.dropKey?
  return ((scan.allowKey true).push .blockEntry).skip 1

/-- Takes the question mark in front of a key. -/
def takeKey? (scan : Scan) : Option Scan := do
  let scan ← scan.openBlockHere? .blockMappingStart
  let scan ← scan.dropKey?
  return ((scan.allowKey !scan.isFlow).push .key).skip 1

/-- Takes the colon in front of a value: it makes the possible key one, or follows a key behind a
question mark. -/
def takeValue? (scan : Scan) : Option Scan := do
  match scan.key? with
  | some key =>
      let scan := scan.pushAt key.place .key
      let scan := (scan.openBlock key.column key.place .blockMappingStart).setKey none
      return ((scan.allowKey false).push .value).skip 1
  | none =>
      let scan ← scan.openBlockHere? .blockMappingStart
      return ((scan.allowKey !scan.isFlow).push .value).skip 1

/-- Takes a token that may start a key, by a reader of its content. -/
def takeContent? (scan : Scan) (read? : Cursor → Option (Token × Cursor)) : Option Scan := do
  let scan ← scan.saveKey?
  let (token, cursor) ← read? scan.cursor
  return ((scan.allowKey false).push token).goto cursor

/-- Takes an alias or an anchor. -/
def takeName? (scan : Scan) (token : List Char → Token) : Option Scan :=
  scan.takeContent? fun cursor =>
    (readName? (cursor.skip 1)).map fun (name, cursor) => (token name, cursor)

/-- Takes a quoted scalar. -/
def takeQuoted? (scan : Scan) (quote : Char) : Option Scan :=
  scan.takeContent? fun cursor =>
    (readQuoted? quote (cursor.rest.length + 1) [] (cursor.skip 1)).map fun (text, cursor) =>
      (.scalar text false, cursor)

/-- Takes a block scalar, after which a key may start. -/
def takeBlock? (scan : Scan) (isLiteral : Bool) : Option Scan := do
  let scan ← scan.dropKey?
  let (text, cursor) ← readBlock? isLiteral scan.indent (scan.cursor.skip 1)
  return ((scan.allowKey true).push (.scalar text false)).goto cursor

/-- Takes a plain scalar; a key may start after it if a line ended after its last word. -/
def takePlain? (scan : Scan) : Option Scan := do
  let scan ← scan.saveKey?
  let length := scan.cursor.rest.length
  let indent := (scan.indent + 1).toNat
  let plain ← readPlain? scan.isFlow indent (length + 1) [] ⟨[], [], [], false⟩ scan.cursor
  let token := Token.scalar plain.reversed.reverse true
  return ((scan.allowKey plain.isBroken).push token).goto plain.cursor

/-- Whether a plain scalar may start with a character before another. -/
def startsPlain (isFlow : Bool) (c : Char) (next : Option Char) : Bool :=
  let isMark := openers.contains c || c = '-' || c = '?' || c = ':'
  !(isBlankOrEnd (some c) || isMark)
    || (c = '-' && !next.any isSpaceOrTab)
    || (!isFlow && (c = '?' || c = ':') && !isBlankOrEnd next)

/-- Takes the token at the place of the scan, which is not the end of the text. -/
def takeToken? (scan : Scan) (c : Char) : Option Scan :=
  let next := scan.cursor.at? 1
  let isFlow := scan.isFlow
  if scan.cursor.column = 0 ∧ c = '%' then scan.takeDirective?
  else if scan.cursor.atMarker '-' then scan.takeMarker? .documentStart
  else if scan.cursor.atMarker '.' then scan.takeMarker? .documentEnd
  else if c = '[' then scan.takeFlowStart? .flowSequenceStart
  else if c = '{' then scan.takeFlowStart? .flowMappingStart
  else if c = ']' then scan.takeFlowEnd? .flowSequenceEnd
  else if c = '}' then scan.takeFlowEnd? .flowMappingEnd
  else if c = ',' then scan.takeFlowEntry?
  else if c = '-' ∧ isBlankOrEnd next then scan.takeBlockEntry?
  else if c = '?' ∧ (isFlow ∨ isBlankOrEnd next) then scan.takeKey?
  else if c = ':' ∧ (isFlow ∨ isBlankOrEnd next) then scan.takeValue?
  else if c = '*' then scan.takeName? .alias
  else if c = '&' then scan.takeName? .anchor
  else if c = '!' then scan.takeContent? (readTag? isFlow)
  else if c = '|' ∧ !isFlow then scan.takeBlock? true
  else if c = '>' ∧ !isFlow then scan.takeBlock? false
  else if c = '"' ∨ c = Char.ofNat 0x27 then scan.takeQuoted? c
  else if startsPlain isFlow c next then scan.takePlain?
  else none

/-- Takes all tokens; `fuel` bounds their number. -/
def takeAll? : Nat → Scan → Option Scan
  | 0, _ => none
  | fuel + 1, scan => do
      let scan ← (scan.toNextToken (scan.cursor.rest.length + 1)).dropStaleKeys?
      let scan := scan.closeBlocks scan.cursor.column
      match scan.cursor.here? with
      | none => scan.takeEnd?
      | some c =>
          let scan ← scan.takeToken? c
          takeAll? fuel scan

end Scan

/-- Whether a character may stand in a text at all. -/
def isAllowed (c : Char) : Bool :=
  let code := c.toNat
  code = 0x09 || code = 0x0A || code = 0x0D || (0x20 ≤ code && code ≤ 0x7E) || code = 0x85
    || (0xA0 ≤ code && code ≠ 0xFEFF && code ≠ 0xFFFE && code ≠ 0xFFFF)

/-- A text without the mark of its byte order. -/
def withoutMark : List Char → List Char
  | '\ufeff' :: rest => rest
  | text => text

/-- The tokens of a text. -/
def tokens? (text : String) : Option (List Token) := do
  let characters := withoutMark text.toList
  if !characters.all isAllowed then none
  else
    let scan ← Scan.takeAll? (characters.length + 2) (.start characters)
    return scan.tokens.reverse

end MappedCoverage.Yaml
