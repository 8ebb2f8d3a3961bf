import MappedCoverage.Text.Pieces

/-!
# Glob patterns

A pattern is a list of tokens: characters, `?`, bracket classes, `*` for any run within a piece of
a path, and `**` for any run of whole pieces. A `**` stands alone between separators and takes the
separator after it; a pattern with a longer run of stars, a `**` beside other characters, or an
unclosed class is malformed. There is no escape character: a class of one character stands for it.
-/

namespace MappedCoverage.Glob

/-- A member of a bracket class. -/
inductive Member where
  | single (c : Char)
  | range (first last : Char)
deriving DecidableEq

/-- Whether a member admits a character. -/
def Member.admits (c : Char) : Member → Bool
  | .single d => c = d
  | .range first last => first ≤ c && c ≤ last

/-- A token of a pattern. -/
inductive Token where
  | char (c : Char)
  | anyChar
  | anyOf (members : List Member)
  | noneOf (members : List Member)
  | anyRun
  | anyPieces
deriving DecidableEq

/-- Why a pattern is malformed. -/
inductive Flaw where
  | longRun
  | mixedPieces
  | unclosedClass
deriving DecidableEq

/-- A flaw and the number of characters in front of it. -/
structure Malformed where
  position : Nat
  flaw : Flaw
deriving DecidableEq

/-- The wording of a flaw. -/
def Flaw.message : Flaw → String
  | .longRun => "wildcards are either regular `*` or recursive `**`"
  | .mixedPieces => "recursive wildcards must form a single path component"
  | .unclosedClass => "invalid range pattern"

/-- The report on a malformed pattern. -/
def Malformed.message (malformed : Malformed) : String :=
  s!"Pattern syntax error near position {malformed.position}: {malformed.flaw.message}"

/-- The members that the inside of a bracket class lists. -/
def members : List Char → List Member
  | first :: '-' :: last :: rest => .range first last :: members rest
  | c :: rest => .single c :: members rest
  | [] => []

/-- The inside of a class up to its closing bracket, which cannot be its first character, and what
follows. -/
def classBody? : List Char → Option (List Char × List Char)
  | [] => none
  | first :: rest =>
      match rest.span (· ≠ ']') with
      | (_, []) => none
      | (inside, _ :: after) => some (first :: inside, after)

/-- Reads a class after its opening bracket: `!` in front of its members excludes them. -/
def readClass? : List Char → Option (Token × List Char)
  | '!' :: rest => (classBody? rest).map fun (inside, after) => (.noneOf (members inside), after)
  | rest => (classBody? rest).map fun (inside, after) => (.anyOf (members inside), after)

/-- Whether a `**` may stand after this character. -/
def opensPiece : Option Char → Bool
  | none => true
  | some c => c = '/'

/-- Appends a `**` token to tokens in reverse; after another `**` it adds nothing, unless that one
opens the pattern. -/
def pushPieces (taken : List Token) : List Token :=
  match taken with
  | .anyPieces :: _ :: _ => taken
  | _ => .anyPieces :: taken

/-- Reads the tokens of a pattern. `position` counts the characters read, `previous` is the last of
them and `taken` holds the tokens so far, in reverse; `fuel` bounds the tokens. -/
def readTokens :
    Nat → Nat → Option Char → List Token → List Char → Except Malformed (List Token)
  | _, _, _, taken, [] => .ok taken.reverse
  | 0, _, _, taken, _ => .ok taken.reverse
  | fuel + 1, position, previous, taken, c :: rest =>
      if c = '?' then
        readTokens fuel (position + 1) (some c) (.anyChar :: taken) rest
      else if c = '*' then
        match rest with
        | '*' :: '*' :: _ => .error ⟨position + 2, .longRun⟩
        | '*' :: after =>
            if opensPiece previous then
              match after with
              | [] => .ok (pushPieces taken).reverse
              | '/' :: after => readTokens fuel (position + 3) (some '/') (pushPieces taken) after
              | _ => .error ⟨position + 2, .mixedPieces⟩
            else .error ⟨position - 1, .mixedPieces⟩
        | _ => readTokens fuel (position + 1) (some c) (.anyRun :: taken) rest
      else if c = '[' then
        match readClass? rest with
        | some (token, after) =>
            readTokens fuel (position + 1 + (rest.length - after.length)) (some ']')
              (token :: taken) after
        | none => .error ⟨position, .unclosedClass⟩
      else readTokens fuel (position + 1) (some c) (.char c :: taken) rest

/-- A compiled pattern. -/
structure Pattern where
  source : String
  tokens : List Token
deriving DecidableEq

/-- Compiles a pattern. -/
def Pattern.compile (source : String) : Except Malformed Pattern := do
  let tokens ← readTokens source.toList.length 0 none [] source.toList
  return ⟨source, tokens⟩

/-- The characters that stand for themselves only inside a class. -/
def isSpecial (c : Char) : Bool :=
  c = '?' || c = '*' || c = '[' || c = ']'

/-- A character as it is written to stand for itself. -/
def escapeChar (c : Char) : List Char :=
  if isSpecial c then ['[', c, ']'] else [c]

/-- A text as it is written in a pattern to stand for itself. -/
def escape (text : String) : String :=
  String.ofList (text.toList.flatMap escapeChar)

end MappedCoverage.Glob
