import MappedCoverage.Regex.Tree
import MappedCoverage.Text.Blank

/-!
# Reading regular expressions

Readers from the unread characters to a tree; every one of them refuses by `none`, since only the
fact that an expression is malformed matters. Look-around, back references and unknown escapes are
malformed. With the flag `x`, blanks and comments between tokens are passed over.
-/

namespace MappedCoverage.Regex

/-- What a reader has left, whether it passes over blanks, and the names of the groups so far. -/
structure Source where
  rest : List Char
  loose : Bool
  names : List String

namespace Source

/-- Drops a comment up to and with its line break. -/
def dropComment (text : List Char) : List Char :=
  (text.dropWhile (· ≠ '\n')).drop 1

/-- Drops blanks and comments; `fuel` bounds their number. -/
def dropSpaceFrom : Nat → List Char → List Char
  | _, [] => []
  | 0, text => text
  | fuel + 1, c :: rest =>
      if Text.isSpace c then dropSpaceFrom fuel rest
      else if c = '#' then dropSpaceFrom fuel (dropComment rest)
      else c :: rest

/-- The text left when a source stands at a given text and blanks are passed over if they are to
be. -/
def restAfterSpace (loose : Bool) (text : List Char) : List Char :=
  if loose then dropSpaceFrom text.length text else text

/-- Goes to a given text. -/
def goto (source : Source) (rest : List Char) : Source :=
  { source with rest }

/-- Goes to a given text and passes over blanks. -/
def gotoToken (source : Source) (rest : List Char) : Source :=
  { source with rest := restAfterSpace source.loose rest }

/-- Passes over blanks. -/
def token (source : Source) : Source :=
  source.gotoToken source.rest

/-- The next character that is neither blank nor the mark of a comment, seen from a text; the first
character of the text when there is none. -/
def peekToken? (source : Source) (text : List Char) : Option Char :=
  let afterSpace := text.dropWhile Text.isSpace
  let found :=
    match afterSpace with
    | '#' :: rest => (rest.dropWhile Text.isSpace).head?
    | rest => rest.head?
  if source.loose then found.orElse fun _ => text.head? else text.head?

end Source

/-- The value of a hexadecimal digit. -/
def hexDigit? (c : Char) : Option Nat :=
  if c.isDigit then some (c.toNat - '0'.toNat)
  else if 'a' ≤ c ∧ c ≤ 'f' then some (c.toNat - 'a'.toNat + 10)
  else if 'A' ≤ c ∧ c ≤ 'F' then some (c.toNat - 'A'.toNat + 10)
  else none

/-- The character of a code point, unless it is a surrogate or too great. -/
def charOfCode? (code : Nat) : Option Char :=
  if code < 0xD800 ∨ (0xDFFF < code ∧ code < 0x110000) then some (Char.ofNat code) else none

/-- Reads a fixed number of hexadecimal digits. -/
def readHexDigits : Nat → Nat → Source → Option (Char × Source)
  | 0, code, source => (charOfCode? code).map fun c => (c, source)
  | count + 1, code, source =>
      match source.rest with
      | [] => none
      | c :: rest => do
          let digit ← hexDigit? c
          readHexDigits count (code * 16 + digit) (source.gotoToken rest)

/-- Reads hexadecimal digits up to a closing brace. -/
def readHexBrace : Nat → Nat → Nat → Source → Option (Char × Source)
  | 0, _, _, _ => none
  | fuel + 1, count, code, source =>
      match source.rest with
      | [] => none
      | '}' :: rest =>
          if count = 0 then none
          else (charOfCode? code).map fun c => (c, source.gotoToken rest)
      | c :: rest => do
          let digit ← hexDigit? c
          readHexBrace fuel (count + 1) (code * 16 + digit) (source.gotoToken rest)

/-- Reads the code of a character after its escape letter. -/
def readHex (digits : Nat) (rest : List Char) (source : Source) : Option (Letter × Source) :=
  let opened := source.gotoToken rest
  match opened.rest with
  | '{' :: inner => do
      let (c, source) ← readHexBrace (inner.length + 1) 0 0 (opened.gotoToken inner)
      return (⟨c, false⟩, source)
  | _ => do
      let (c, source) ← readHexDigits digits 0 opened
      return (⟨c, digits = 2⟩, source)

/-- Collects characters up to a closing brace, without the blanks that are passed over. -/
def readBraced : Nat → List Char → Source → Option (List Char × Source)
  | 0, _, _ => none
  | fuel + 1, taken, source =>
      match source.rest with
      | [] => none
      | '}' :: rest => some (taken.reverse, source.goto rest)
      | c :: rest => readBraced fuel (c :: taken) (source.gotoToken rest)

/-- Splits a text at the first place where a separator stands. -/
def splitAt? (separator : List Char) : List Char → Option (List Char × List Char)
  | [] => none
  | c :: rest =>
      if separator.isPrefixOf (c :: rest) then some ([], (c :: rest).drop separator.length)
      else (splitAt? separator rest).map fun (front, back) => (c :: front, back)

/-- The property that the inside of braces asks for. -/
def PropertyName.ofText (text : List Char) : PropertyName :=
  let parts :=
    (splitAt? ['!', '='] text).orElse fun _ =>
      (splitAt? [':'] text).orElse fun _ => splitAt? ['='] text
  match parts with
  | some (name, value) => .withValue (String.ofList name) (String.ofList value)
  | none => .alone (String.ofList text)

/-- Reads a property after its escape letter. -/
def readProperty (rest : List Char) (source : Source) : Option (PropertyName × Source) :=
  let opened := source.gotoToken rest
  match opened.rest with
  | [] => none
  | '{' :: inner => do
      let (text, source) ← readBraced (inner.length + 1) [] (opened.gotoToken inner)
      return (PropertyName.ofText text, source)
  | '\\' :: _ => none
  | c :: rest => some (.alone (String.ofList [c]), opened.gotoToken rest)

/-- The characters that have a meaning of their own unescaped. -/
def isMeta (c : Char) : Bool :=
  ['\\', '.', '+', '*', '?', '(', ')', '|', '[', ']', '{', '}', '^', '$', '#', '&', '-', '~'].contains c

/-- A text as it is written in an expression to stand for itself. -/
def escape (text : String) : String :=
  String.ofList (text.toList.flatMap fun c => if isMeta c then ['\\', c] else [c])

/-- The characters that a backslash may stand before without changing their meaning. -/
def isEscapable (c : Char) : Bool :=
  isMeta c || (c.toNat < 0x80 && !c.isAlphanum && c ≠ '<' && c ≠ '>')

/-- An item that stands for one character or one place. -/
inductive Primitive where
  | letter (letter : Letter)
  | dot
  | anchor (kind : Anchor)
  | shorthand (kind : Shorthand) (negated : Bool)
  | property (name : PropertyName) (negated : Bool)

/-- The tree of a primitive. -/
def Primitive.tree : Primitive → Tree
  | .letter char => .letter char
  | .dot => .dot
  | .anchor kind => .anchor kind
  | .shorthand kind negated => .shorthand kind negated
  | .property name negated => .property name negated

/-- The class item of a primitive, if it stands for one character. -/
def Primitive.classItem? : Primitive → Option ClassTree
  | .letter char => some (.single char)
  | .shorthand kind negated => some (.shorthand kind negated)
  | .property name negated => some (.property name negated)
  | _ => none

/-- The letters and the hyphen. -/
def isBoundaryLetter (c : Char) : Bool :=
  c.isAlpha || c = '-'

/-- The special word boundary of a name. -/
def boundaryNamed? (name : List Char) : Option Anchor :=
  match String.ofList name with
  | "start" => some .wordStart
  | "end" => some .wordEnd
  | "start-half" => some .wordStartHalf
  | "end-half" => some .wordEndHalf
  | _ => none

/-- Collects the letters of the name of a word boundary. -/
def takeBoundaryName : Nat → List Char → Source → List Char × Source
  | 0, taken, source => (taken.reverse, source)
  | fuel + 1, taken, source =>
      match source.rest with
      | c :: rest =>
          if isBoundaryLetter c then takeBoundaryName fuel (c :: taken) (source.gotoToken rest)
          else (taken.reverse, source)
      | [] => (taken.reverse, source)

/-- Reads what may follow `\b`: the name of a special word boundary in braces. -/
def readBoundary (source : Source) : Option (Anchor × Source) :=
  match source.rest with
  | '{' :: inner =>
      let opened := source.gotoToken inner
      match opened.rest with
      | [] => none
      | c :: _ =>
          if isBoundaryLetter c then
            let (name, source) := takeBoundaryName (inner.length + 1) [] opened
            match source.rest with
            | '}' :: rest => (boundaryNamed? name).map fun anchor => (anchor, source.goto rest)
            | _ => none
          else some (.wordBoundary, source)
  | _ => some (.wordBoundary, source)

/-- Reads an escape after its backslash. -/
def readEscaped (source : Source) : Option (Primitive × Source) :=
  match source.rest with
  | [] => none
  | c :: rest =>
      let after := source.goto rest
      let letter := fun (d : Char) => some (Primitive.letter ⟨d, false⟩, after)
      match c with
      | 'x' => (readHex 2 rest source).map fun (letter, source) => (.letter letter, source)
      | 'u' => (readHex 4 rest source).map fun (letter, source) => (.letter letter, source)
      | 'U' => (readHex 8 rest source).map fun (letter, source) => (.letter letter, source)
      | 'p' => (readProperty rest source).map fun (name, source) => (.property name false, source)
      | 'P' => (readProperty rest source).map fun (name, source) => (.property name true, source)
      | 'd' => some (.shorthand .digit false, after)
      | 'D' => some (.shorthand .digit true, after)
      | 's' => some (.shorthand .space false, after)
      | 'S' => some (.shorthand .space true, after)
      | 'w' => some (.shorthand .word false, after)
      | 'W' => some (.shorthand .word true, after)
      | 'a' => letter '\x07'
      | 'f' => letter '\x0c'
      | 't' => letter '\t'
      | 'n' => letter '\n'
      | 'r' => letter '\r'
      | 'v' => letter '\x0b'
      | 'A' => some (.anchor .textStart, after)
      | 'z' => some (.anchor .textEnd, after)
      | 'b' => (readBoundary after).map fun (anchor, source) => (.anchor anchor, source)
      | 'B' => some (.anchor .notWordBoundary, after)
      | '<' => some (.anchor .wordStart, after)
      | '>' => some (.anchor .wordEnd, after)
      | _ => if isEscapable c then letter c else none

/-- The ASCII class of a name. -/
def asciiClass? (name : List Char) : Option Unicode.Ranges :=
  match String.ofList name with
  | "alnum" => some [(0x30, 0x39), (0x41, 0x5A), (0x61, 0x7A)]
  | "alpha" => some [(0x41, 0x5A), (0x61, 0x7A)]
  | "ascii" => some [(0, 0x7F)]
  | "blank" => some [(0x09, 0x09), (0x20, 0x20)]
  | "cntrl" => some [(0, 0x1F), (0x7F, 0x7F)]
  | "digit" => some [(0x30, 0x39)]
  | "graph" => some [(0x21, 0x7E)]
  | "lower" => some [(0x61, 0x7A)]
  | "print" => some [(0x20, 0x7E)]
  | "punct" => some [(0x21, 0x2F), (0x3A, 0x40), (0x5B, 0x60), (0x7B, 0x7E)]
  | "space" => some [(0x09, 0x0D), (0x20, 0x20)]
  | "upper" => some [(0x41, 0x5A)]
  | "word" => some [(0x30, 0x39), (0x41, 0x5A), (0x5F, 0x5F), (0x61, 0x7A)]
  | "xdigit" => some [(0x30, 0x39), (0x41, 0x46), (0x61, 0x66)]
  | _ => none

/-- Reads the name of an ASCII class between `[:` and `:]`, from after the bracket. -/
def readAsciiClass? (text : List Char) : Option (ClassTree × List Char) :=
  match text with
  | ':' :: rest =>
      let (negated, name) :=
        match rest with
        | '^' :: name => (true, name)
        | name => (false, name)
      match name.span (· ≠ ':') with
      | (name, ':' :: ']' :: after) =>
          (asciiClass? name).map fun ranges => (.ascii ranges negated, after)
      | _ => none
  | _ => none

/-- Reads one member of a class. -/
def readMember (source : Source) : Option (Primitive × Source) :=
  match source.rest with
  | [] => none
  | '\\' :: rest => readEscaped (source.goto rest)
  | c :: rest => some (.letter ⟨c, false⟩, source.goto rest)

/-- Reads a member of a class or a range between two of them. -/
def readMemberRange (source : Source) : Option (ClassTree × Source) := do
  let (first, source) ← readMember source
  let source := source.token
  match source.rest with
  | [] => none
  | '-' :: rest =>
      let next := source.peekToken? rest
      if next = some ']' ∨ next = some '-' then
        return (← first.classItem?, source)
      else
        let opened := source.gotoToken rest
        if opened.rest.isEmpty then none
        else
          let (last, source) ← readMember opened
          match first, last with
          | .letter first, .letter last =>
              if first.char ≤ last.char then return (.range first last, source) else none
          | _, _ => none
  | _ => return (← first.classItem?, source)

/-- Joins a pending operator and its left side with what stands on its right. -/
def combinePending (pending : Option (ClassOperator × ClassTree)) (right : ClassTree) : ClassTree :=
  match pending with
  | some (operator, left) => .combined operator left right
  | none => right

/-- Takes hyphens that stand first in a class. -/
def takeHyphens : Nat → List ClassTree → Source → Option (List ClassTree × Source)
  | 0, items, source => some (items, source)
  | fuel + 1, items, source =>
      match source.rest with
      | [] => none
      | '-' :: rest => takeHyphens fuel (.single ⟨'-', false⟩ :: items) (source.gotoToken rest)
      | _ => some (items, source)

/-- Reads the start of a class after its bracket: negation and the members that stand for
themselves only there. -/
def openClass (rest : List Char) (source : Source) : Option (Bool × List ClassTree × Source) := do
  let opened := source.gotoToken rest
  let (negated, opened) :=
    match opened.rest with
    | '^' :: rest => (true, opened.gotoToken rest)
    | _ => (false, opened)
  let (items, source) ← takeHyphens (opened.rest.length + 1) [] opened
  match items, source.rest with
  | _, [] => none
  | [], ']' :: rest =>
      let source := source.gotoToken rest
      if source.rest.isEmpty then none
      else return (negated, [.single ⟨']', false⟩], source)
  | items, _ => return (negated, items, source)

/-- The operator that two characters write. -/
def operator? : List Char → Option (ClassOperator × List Char)
  | '&' :: '&' :: rest => some (.intersection, rest)
  | '-' :: '-' :: rest => some (.difference, rest)
  | '~' :: '~' :: rest => some (.symmetricDifference, rest)
  | _ => none

mutual

/-- Reads a class after its opening bracket. -/
def readClass : Nat → List Char → Source → Option (ClassTree × Bool × Source)
  | 0, _, _ => none
  | fuel + 1, rest, source => do
      let (negated, items, source) ← openClass rest source
      let (body, source) ← readClassItems fuel none items source
      return (body, negated, source)

/-- Reads the items of a class up to its closing bracket; `items` holds those since the pending
operator, in reverse. -/
def readClassItems :
    Nat → Option (ClassOperator × ClassTree) → List ClassTree → Source →
      Option (ClassTree × Source)
  | 0, _, _, _ => none
  | fuel + 1, pending, items, source =>
      let source := source.token
      let body := fun (_ : Unit) => combinePending pending (ClassTree.ofItems items.reverse)
      match source.rest with
      | [] => none
      | ']' :: rest => some (body (), source.goto rest)
      | '[' :: rest =>
          match readAsciiClass? rest with
          | some (item, rest) => readClassItems fuel pending (item :: items) (source.goto rest)
          | none => do
              let (inner, negated, source) ← readClass fuel rest source
              readClassItems fuel pending (.brackets inner negated :: items) source
      | _ =>
          match operator? source.rest with
          | some (operator, rest) =>
              readClassItems fuel (some (operator, body ())) [] (source.goto rest)
          | none => do
              let (item, source) ← readMemberRange source
              readClassItems fuel pending (item :: items) source

end

/-- The greatest count of a repetition. -/
def countLimit : Nat := 0x1_0000_0000

/-- Collects decimal digits. -/
def takeDecimal : Nat → List Char → Source → List Char × Source
  | 0, taken, source => (taken.reverse, source)
  | fuel + 1, taken, source =>
      match source.rest with
      | c :: rest =>
          if c.isDigit then takeDecimal fuel (c :: taken) (source.gotoToken rest)
          else (taken.reverse, source)
      | [] => (taken.reverse, source)

/-- A count of a repetition, or its absence. -/
inductive Count where
  | missing
  | given (count : Nat)

/-- Reads a count between blanks; counts beyond 32 bits are malformed. -/
def readCount (source : Source) : Option (Count × Source) :=
  let source := source.goto (source.rest.dropWhile Text.isSpace)
  let (digits, source) := takeDecimal (source.rest.length + 1) [] source
  let source := source.gotoToken (source.rest.dropWhile Text.isSpace)
  if digits.isEmpty then some (.missing, source)
  else
    let count := digits.foldl (fun count c => count * 10 + (c.toNat - '0'.toNat)) 0
    if count < countLimit then some (.given count, source) else none

/-- The least and greatest number of repetitions. -/
structure Bounds where
  least : Nat
  most : Option Nat

/-- Reads the counts of a repetition after its opening brace. -/
def readBounds (rest : List Char) (source : Source) : Option (Bounds × Source) := do
  let opened := source.gotoToken rest
  if opened.rest.isEmpty then none
  else
    let (first, source) ← readCount opened
    match first, source.rest with
    | .given least, '}' :: rest => return (⟨least, some least⟩, source.gotoToken rest)
    | .given least, ',' :: rest =>
        let source := source.gotoToken rest
        match source.rest with
        | '}' :: rest => return (⟨least, none⟩, source.gotoToken rest)
        | _ =>
            let (last, source) ← readCount source
            match last, source.rest with
            | .given most, '}' :: rest =>
                if least ≤ most then return (⟨least, some most⟩, source.gotoToken rest) else none
            | _, _ => none
    | _, _ => none

/-- Drops the mark of a repetition that prefers fewer turns; it does not change what matches. -/
def dropLazyMark : List Char → List Char
  | '?' :: rest => rest
  | rest => rest

/-- Repeats the last item read; there must be one, and it must not be flags. -/
def repeatLast (bounds : Bounds) : List Tree → Option (List Tree)
  | [] => none
  | .empty :: _ => none
  | .flags _ :: _ => none
  | item :: items => some (.repeated item bounds.least bounds.most :: items)

/-- Whether a character may stand in the name of a group. -/
def isNameCharacter (first : Bool) (c : Char) : Bool :=
  c = '_' || Unicode.isAlphabetic c
    || (!first && (c = '.' || c = '[' || c = ']' || Unicode.isNumeric c))

/-- Reads the name of a group up to its closing angle; names are not empty and do not repeat. -/
def readGroupName (source : Source) : Option Source :=
  match source.rest.span (· ≠ '>') with
  | (name, '>' :: rest) =>
      let text := String.ofList name
      match name with
      | [] => none
      | c :: others =>
          if isNameCharacter true c && others.all (isNameCharacter false)
              && !source.names.contains text then
            some { source with rest, names := text :: source.names }
          else none
  | _ => none

/-- The flag of a letter. -/
def flagOf? : Char → Option Flag
  | 'i' => some .ignoreCase
  | 'm' => some .multiLine
  | 's' => some .dotMatchesNewline
  | 'U' => some .swapGreed
  | 'u' => some .unicode
  | 'R' => some .crlf
  | 'x' => some .ignoreSpace
  | _ => none

/-- Reads flags up to `:` or `)`: no flag repeats, and a hyphen clears those after it. -/
def readFlags : FlagChanges → Bool → List Char → Option (FlagChanges × List Char)
  | _, _, [] => none
  | changes, cleared, c :: rest =>
      if c = ':' ∨ c = ')' then
        let dangling := cleared && !changes.any fun change => !change.2
        if dangling then none else some (changes.reverse, c :: rest)
      else if c = '-' then
        if cleared then none else readFlags changes true rest
      else
        match flagOf? c with
        | some flag =>
            if changes.any fun change => change.1 = flag then none
            else readFlags ((flag, !cleared) :: changes) cleared rest
        | none => none

/-- Whether flags tell to pass over blanks from here on. -/
def looseAfter (loose : Bool) (changes : FlagChanges) : Bool :=
  match changes.find? (·.1 = .ignoreSpace) with
  | some change => change.2
  | none => loose

/-- What an opening parenthesis starts. -/
inductive Opening where
  | flags (changes : FlagChanges)
  | group (changes : FlagChanges) (captures : Bool)

/-- Reads an opening parenthesis, from after it, up to the first item of its group. -/
def readOpening (rest : List Char) (source : Source) : Option (Opening × Source) :=
  let source := source.gotoToken rest
  match source.rest with
  | '?' :: '=' :: _ => none
  | '?' :: '!' :: _ => none
  | '?' :: '<' :: '=' :: _ => none
  | '?' :: '<' :: '!' :: _ => none
  | '?' :: 'P' :: '<' :: name =>
      (readGroupName (source.goto name)).map fun source => (.group [] true, source)
  | '?' :: '<' :: name =>
      (readGroupName (source.goto name)).map fun source => (.group [] true, source)
  | '?' :: flags => do
      let (changes, rest) ← readFlags [] false flags
      match rest with
      | ')' :: rest =>
          if changes.isEmpty then none else return (.flags changes, source.goto rest)
      | _ :: rest => return (.group changes false, source.goto rest)
      | [] => none
  | _ => some (.group [] true, source)

/-- The tree of the branches read: one branch stands for itself. -/
def ofBranches (branches : List Tree) (items : List Tree) : Tree :=
  match branches with
  | [] => Tree.ofItems items.reverse
  | _ => .alternation ((Tree.ofItems items.reverse :: branches).reverse)

/-- Reads branches up to a closing parenthesis or the end; `branches` and `items` hold what has
been read, in reverse. -/
def readBranches : Nat → List Tree → List Tree → Source → Option (Tree × Source)
  | 0, _, _, _ => none
  | fuel + 1, branches, items, source =>
      let source := source.token
      let again := fun (bounds : Bounds) (rest : List Char) => do
        let items ← repeatLast bounds items
        readBranches fuel branches items (source.goto (dropLazyMark rest))
      match source.rest with
      | [] => some (ofBranches branches items, source)
      | ')' :: _ => some (ofBranches branches items, source)
      | '|' :: rest =>
          readBranches fuel (Tree.ofItems items.reverse :: branches) [] (source.goto rest)
      | '(' :: rest => do
          match ← readOpening rest source with
          | (.flags changes, source) =>
              let source := { source with loose := looseAfter source.loose changes }
              readBranches fuel branches (.flags changes :: items) source
          | (.group changes captures, inner) =>
              let opened := { inner with loose := looseAfter inner.loose changes }
              let (tree, closed) ← readBranches fuel [] [] opened
              match closed.rest with
              | ')' :: rest =>
                  let source := { closed with rest, loose := source.loose }
                  readBranches fuel branches (.group changes captures tree :: items) source
              | _ => none
      | '[' :: rest => do
          let (body, negated, source) ← readClass fuel rest source
          readBranches fuel branches (.brackets body negated :: items) source
      | '?' :: rest => again ⟨0, some 1⟩ rest
      | '*' :: rest => again ⟨0, none⟩ rest
      | '+' :: rest => again ⟨1, none⟩ rest
      | '{' :: rest => do
          let (bounds, after) ← readBounds rest source
          let items ← repeatLast bounds items
          readBranches fuel branches items (after.goto (dropLazyMark after.rest))
      | '\\' :: rest => do
          let (item, source) ← readEscaped (source.goto rest)
          readBranches fuel branches (item.tree :: items) source
      | '.' :: rest => readBranches fuel branches (.dot :: items) (source.goto rest)
      | '^' :: rest => readBranches fuel branches (.anchor .caret :: items) (source.goto rest)
      | '$' :: rest => readBranches fuel branches (.anchor .dollar :: items) (source.goto rest)
      | c :: rest => readBranches fuel branches (.letter ⟨c, false⟩ :: items) (source.goto rest)

/-- The greatest depth of a tree. -/
def depthLimit : Nat := 250

/-- The tree of a written expression. -/
def Tree.read? (pattern : String) : Option Tree := do
  let text := pattern.toList
  let (tree, source) ← readBranches (2 * text.length + 2) [] [] ⟨text, false, []⟩
  if source.rest.isEmpty ∧ tree.depth ≤ depthLimit then some tree else none

end MappedCoverage.Regex
