import MappedCoverage.Yaml.Plain

/-!
# Styles of scalars

A text is written plainly where it reads back as itself, else between single quotes, else between
double quotes with escapes; a text with line feeds is written as a literal block where possible.
-/

namespace MappedCoverage.Yaml

/-- Whether a character ends a line. -/
def isBreak (c : Char) : Bool :=
  c = '\n' || c = '\r' || c = '\u0085' || c = '\u2028' || c = '\u2029'

/-- Whether there is a blank, a line end or no character here. -/
def isBlankOrEnd : Option Char → Bool
  | none => true
  | some c => c = ' ' || c = '\t' || c = '\x00' || isBreak c

/-- Whether a character is written without an escape. -/
def isPrintable (c : Char) : Bool :=
  let code := c.toNat
  code = 0x0A || (0x20 ≤ code && code ≤ 0x7E)
    || (0xA0 ≤ code && code ≠ 0xFEFF && code ≠ 0xFFFE && code ≠ 0xFFFF)

/-- How a scalar is written. -/
inductive Style where
  | plain
  | singleQuoted
  | doubleQuoted
  | literal

/-- The characters that no plain scalar starts with: they have a meaning of their own there. -/
def openers : List Char :=
  ['#', ',', '[', ']', '{', '}', '&', '*', '!', '|', '>', Char.ofNat 0x27, '"', '%', '@',
    Char.ofNat 0x60]

/-- Whether a mapping mark or a comment starts after the first character. -/
def hasInnerMark (previous : Char) : List Char → Bool
  | [] => false
  | c :: rest =>
      (c = ':' && isBlankOrEnd rest.head?) || (c = '#' && isBlankOrEnd (some previous))
        || hasInnerMark c rest

/-- Whether a text would read as something else where a plain scalar may stand. -/
def hasMark : List Char → Bool
  | [] => false
  | c :: rest =>
      openers.contains c
        || ((c = '?' || c = ':' || c = '-') && isBlankOrEnd rest.head?)
        || (c = '-' && rest.take 2 = ['-', '-']) || (c = '.' && rest.take 2 = ['.', '.'])
        || hasInnerMark c rest

/-- Whether two neighbours satisfy two conditions. -/
def hasPair (first second : Char → Bool) : List Char → Bool
  | a :: b :: rest => (first a && second b) || hasPair first second (b :: rest)
  | _ => false

/-- Whether a character is a blank. -/
def isBlankChar (c : Char) : Bool := c = ' '

/-- Whether a text can only be written with escapes. -/
def needsEscape (text : List Char) : Bool :=
  text.any (!isPrintable ·) || hasPair isBlankChar isBreak text

/-- Whether a text can be written as a literal block. -/
def fitsLiteral (text : List Char) : Bool :=
  !needsEscape text && text.getLast? ≠ some ' '

/-- Whether a text can be written between single quotes. -/
def fitsSingleQuoted (text : List Char) : Bool :=
  !needsEscape text && !hasPair isBreak isBlankChar text

/-- Whether a text can be written plainly, apart from what it would stand for. -/
def fitsPlain (text : List Char) : Bool :=
  !needsEscape text && !text.any isBreak && text.head? ≠ some ' ' && text.getLast? ≠ some ' '
    && !hasMark text

/-- Whether a plain scalar stands for its own text. -/
def standsForText (text : String) : Bool :=
  !hasLeadingZero text.toList &&
    match Plain.read text with
    | .text => true
    | _ => false

/-- The style of a text. -/
def Style.ofText (text : String) : Style :=
  let chars := text.toList
  if chars.contains '\n' then
    if fitsLiteral chars then .literal else .doubleQuoted
  else if standsForText text && fitsPlain chars then .plain
  else if fitsSingleQuoted chars then .singleQuoted
  else .doubleQuoted

/-- A number of blanks. -/
def blanks (count : Nat) : List Char :=
  List.replicate count ' '

/-- A text between single quotes, with lines after the first indented. -/
def singleQuotedBody (indent : Nat) : Bool → List Char → List Char
  | lineStart, [] => if lineStart then blanks indent else []
  | lineStart, c :: rest =>
      if isBreak c then c :: singleQuotedBody indent true rest
      else
        (if lineStart then blanks indent else [])
          ++ (if c = Char.ofNat 0x27 then [c, c] else [c])
          ++ singleQuotedBody indent false rest

/-- A number in upper-case hexadecimal digits, filled up with zeros. -/
def hexDigits (width value : Nat) : List Char :=
  let digits := (Nat.toDigits 16 value).map Char.toUpper
  List.replicate (width - digits.length) '0' ++ digits

/-- The short escapes. -/
def shortEscapes : List (Char × Char) :=
  [('\x00', '0'), ('\x07', 'a'), ('\x08', 'b'), ('\x09', 't'), ('\x0A', 'n'), ('\x0B', 'v'),
    ('\x0C', 'f'), ('\x0D', 'r'), ('\x1B', 'e'), ('"', '"'), ('\\', '\\'), ('\u0085', 'N'),
    ('\u00A0', '_'), ('\u2028', 'L'), ('\u2029', 'P')]

/-- A character between double quotes. -/
def doubleQuotedChar (c : Char) : List Char :=
  if isPrintable c && !isBreak c && c ≠ '"' && c ≠ '\\' then [c]
  else
    match shortEscapes.lookup c with
    | some letter => ['\\', letter]
    | none =>
        if c.toNat ≤ 0xFF then '\\' :: 'x' :: hexDigits 2 c.toNat
        else if c.toNat ≤ 0xFFFF then '\\' :: 'u' :: hexDigits 4 c.toNat
        else '\\' :: 'U' :: hexDigits 8 c.toNat

/-- The header of a literal block: its indentation if the text starts with a blank or a line end,
and whether it ends without a line end or with several. -/
def literalHeader (text : List Char) : List Char :=
  let hint :=
    match text.head? with
    | some c => if c = ' ' || isBreak c then ['2'] else []
    | none => []
  let chomping :=
    match text.reverse with
    | [] => ['-']
    | last :: earlier =>
        if !isBreak last then ['-']
        else
          match earlier with
          | [] => ['+']
          | c :: _ => if isBreak c then ['+'] else []
  '|' :: (hint ++ chomping)

/-- The lines of a literal block. -/
def literalBody (indent : Nat) : Bool → List Char → List Char
  | _, [] => []
  | lineStart, c :: rest =>
      if isBreak c then c :: literalBody indent true rest
      else (if lineStart then blanks indent else []) ++ c :: literalBody indent false rest

/-- A text as a scalar whose further lines are indented. -/
def scalarText (indent : Nat) (text : String) : List Char :=
  let chars := text.toList
  match Style.ofText text with
  | .plain => chars
  | .singleQuoted =>
      Char.ofNat 0x27 :: (singleQuotedBody indent false chars ++ [Char.ofNat 0x27])
  | .doubleQuoted => '"' :: (chars.flatMap doubleQuotedChar ++ ['"'])
  | .literal => literalHeader chars ++ '\n' :: literalBody indent true chars

end MappedCoverage.Yaml
