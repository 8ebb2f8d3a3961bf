import MappedCoverage.Decimal.Reading
import MappedCoverage.Document.Basic
import MappedCoverage.Json.Fault

/-!
# JSON tokens

Readers of blanks, words, texts and numbers. A reader takes the unread characters and gives a value
with what it left, or a fault. Integers of at most 64 bits are exact; every other number is a
double by scaled reading, from as many leading digits as fit in 64 bits.
-/

namespace MappedCoverage.Json

/-- The result of a reader: a value and the characters left. -/
abbrev Reading (α : Type) := Except Fault (α × List Char)

/-- The characters that may stand between tokens. -/
def isBlank (c : Char) : Bool :=
  c = ' ' || c = '\n' || c = '\t' || c = '\r'

/-- Drops blanks. -/
def skipBlanks (text : List Char) : List Char :=
  text.dropWhile isBlank

/-- Reads the rest of a word whose first letter has been read. -/
def readWord : List Char → List Char → Reading Unit
  | [], text => .ok ((), text)
  | _ :: _, [] => .error (.here .endInValue [])
  | expected :: word, c :: rest =>
      if c = expected then readWord word rest else .error (.here .wordExpected rest)

/-- The value of a hexadecimal digit. -/
def hexValue? (c : Char) : Option Nat :=
  if c.isDigit then some (c.toNat - '0'.toNat)
  else if 'a' ≤ c ∧ c ≤ 'f' then some (c.toNat - 'a'.toNat + 10)
  else if 'A' ≤ c ∧ c ≤ 'F' then some (c.toNat - 'A'.toNat + 10)
  else none

/-- The value of four hexadecimal digits. -/
def hexUnit? : List Char → Option (Nat × List Char)
  | a :: b :: c :: d :: rest => do
      let a ← hexValue? a
      let b ← hexValue? b
      let c ← hexValue? c
      let d ← hexValue? d
      some (((a * 16 + b) * 16 + c) * 16 + d, rest)
  | _ => none

/-- Reads the four digits of an escaped UTF-16 unit. -/
def readUnit (text : List Char) : Reading Nat :=
  match hexUnit? text with
  | some found => .ok found
  | none =>
      let unread := Text.byteSize text
      if unread < 4 then .error ⟨.endInText, 0⟩ else .error ⟨.invalidEscape, unread - 4⟩

/-- Reads the second half of a surrogate pair whose first half is `high`. -/
def readLowSurrogate (high : Nat) : List Char → Except Fault (Char × List Char)
  | [] => .error (.here .endInText [])
  | '\\' :: 'u' :: rest => do
      let (low, rest) ← readUnit rest
      if 0xDC00 ≤ low ∧ low ≤ 0xDFFF then
        .ok (Char.ofNat ((high - 0xD800) * 0x400 + (low - 0xDC00) + 0x10000), rest)
      else .error (.here .loneSurrogate rest)
  | '\\' :: [] => .error (.here .endInText [])
  | '\\' :: c :: rest => .error ⟨.surrogatePairExpected, Text.byteSize (c :: rest) - 1⟩
  | c :: rest => .error ⟨.surrogatePairExpected, Text.byteSize (c :: rest) - 1⟩

/-- Reads an escape after its backslash. -/
def readEscape : List Char → Except Fault (Char × List Char)
  | [] => .error (.here .endInText [])
  | '"' :: rest => .ok ('"', rest)
  | '\\' :: rest => .ok ('\\', rest)
  | '/' :: rest => .ok ('/', rest)
  | 'b' :: rest => .ok ('\x08', rest)
  | 'f' :: rest => .ok ('\x0c', rest)
  | 'n' :: rest => .ok ('\n', rest)
  | 'r' :: rest => .ok ('\r', rest)
  | 't' :: rest => .ok ('\t', rest)
  | 'u' :: rest => do
      let (unit, rest) ← readUnit rest
      if 0xDC00 ≤ unit ∧ unit ≤ 0xDFFF then .error (.here .loneSurrogate rest)
      else if 0xD800 ≤ unit ∧ unit ≤ 0xDBFF then readLowSurrogate unit rest
      else .ok (Char.ofNat unit, rest)
  | c :: rest => .error ⟨.invalidEscape, Text.byteSize (c :: rest) - 1⟩

/-- Reads a text after its opening quote; `fuel` bounds the characters and `taken` holds those read
so far, in reverse. -/
def readTextFrom : Nat → List Char → List Char → Except Fault (String × List Char)
  | _, _, [] => .error (.here .endInText [])
  | 0, _, text => .error (.here .endInText text)
  | fuel + 1, taken, c :: rest =>
      if c = '"' then .ok (String.ofList taken.reverse, rest)
      else if c = '\\' then do
        let (escaped, rest) ← readEscape rest
        readTextFrom fuel (escaped :: taken) rest
      else if c.toNat < 0x20 then .error (.here .controlCharacter rest)
      else readTextFrom fuel (c :: taken) rest

/-- Reads a text after its opening quote. -/
def readText (text : List Char) : Reading String :=
  readTextFrom (text.length + 1) [] text

/-- Passes over a text after its opening quote; escaped surrogates need no partner. -/
def skipTextFrom : Nat → List Char → Except Fault (Unit × List Char)
  | _, [] => .error (.here .endInText [])
  | 0, text => .error (.here .endInText text)
  | fuel + 1, c :: rest =>
      if c = '"' then .ok ((), rest)
      else if c = '\\' then
        match rest with
        | [] => .error (.here .endInText [])
        | 'u' :: rest => do
            let (_, rest) ← readUnit rest
            skipTextFrom fuel rest
        | d :: rest =>
            if d ∈ ['"', '\\', '/', 'b', 'f', 'n', 'r', 't'] then skipTextFrom fuel rest
            else .error ⟨.invalidEscape, Text.byteSize (d :: rest) - 1⟩
      else if c.toNat < 0x20 then .error (.here .controlCharacter (c :: rest))
      else skipTextFrom fuel rest

/-- Passes over a text after its opening quote. -/
def skipText (text : List Char) : Reading Unit :=
  skipTextFrom (text.length + 1) text

/-- The value of a decimal digit. -/
def digitValue (c : Char) : Nat :=
  c.toNat - '0'.toNat

/-- Whether a digit can be appended to a significand without exceeding 64 bits. -/
def fitsDigit (significand : Nat) (c : Char) : Bool :=
  significand * 10 + digitValue c < 0x1_0000_0000_0000_0000

/-- Whether the first character left is a digit. -/
def startsWithDigit : List Char → Bool
  | c :: _ => c.isDigit
  | [] => false

/-- Appends digits to a significand as long as it fits in 64 bits; gives their number too. -/
def takeDigits (significand count : Nat) : List Char → Nat × Nat × List Char
  | [] => (significand, count, [])
  | c :: rest =>
      if c.isDigit && fitsDigit significand c then
        takeDigits (significand * 10 + digitValue c) (count + 1) rest
      else (significand, count, c :: rest)

/-- A double with the sign of the number read. -/
def signed (positive : Bool) (value : Float) : Float :=
  if positive then value else -value

/-- The double of a significand and an exponent. -/
def scaledNumber (positive : Bool) (significand : Nat) (exponent : Int) (rest : List Char) :
    Reading Number :=
  match Decimal.scaled? (UInt64.ofNat significand) exponent with
  | some value => .ok (.real (signed positive value), rest)
  | none => .error (.here .numberOutOfRange rest)

/-- The exponents that fit in 32 bits. -/
def exponentLimit : Nat := 0x7FFF_FFFF

/-- Reads the digits of an exponent as long as they fit in 32 bits; `none` when one does not, with
what follows that digit. -/
def takeExponent (exponent : Nat) : List Char → Option Nat × List Char
  | [] => (some exponent, [])
  | c :: rest =>
      if c.isDigit then
        if exponent * 10 + digitValue c ≤ exponentLimit then
          takeExponent (exponent * 10 + digitValue c) rest
        else (none, rest)
      else (some exponent, c :: rest)

/-- Keeps an exponent within 32 bits. -/
def saturate (exponent : Int) : Int :=
  if exponent > exponentLimit then exponentLimit
  else if exponent < -(exponentLimit + 1 : Int) then -(exponentLimit + 1)
  else exponent

/-- Reads an exponent after its letter. -/
def readExponent (positive : Bool) (significand : Nat) (shift : Int) (text : List Char) :
    Reading Number :=
  let (growing, digits) :=
    match text with
    | '+' :: rest => (true, rest)
    | '-' :: rest => (false, rest)
    | _ => (true, text)
  match digits with
  | [] => .error (.here .endInValue [])
  | c :: rest =>
      if c.isDigit then
        match takeExponent (digitValue c) rest with
        | (some exponent, rest) =>
            let total := if growing then shift + exponent else shift - exponent
            scaledNumber positive significand (saturate total) rest
        | (none, rest) =>
            if significand ≠ 0 ∧ growing then .error (.here .numberOutOfRange rest)
            else .ok (.real (signed positive 0), rest.dropWhile Char.isDigit)
      else .error ⟨.invalidNumber, Text.byteSize (c :: rest) - 1⟩

/-- Whether the first character left opens an exponent. -/
def exponentRest? : List Char → Option (List Char)
  | 'e' :: rest => some rest
  | 'E' :: rest => some rest
  | _ => none

/-- Reads the decimal places after the point. -/
def readPlaces (positive : Bool) (significand : Nat) (shift : Int) (text : List Char) :
    Reading Number :=
  let (significand, count, rest) := takeDigits significand 0 text
  let shift := shift - count
  if count = 0 ∧ ¬ startsWithDigit rest then
    match rest with
    | [] => .error (.here .endInValue [])
    | _ => .error (.next .invalidNumber rest)
  else
    let rest := rest.dropWhile Char.isDigit
    match exponentRest? rest with
    | some rest => readExponent positive significand shift rest
    | none => scaledNumber positive significand shift rest

/-- Reads what may follow the whole part of a number. -/
def readFraction (positive : Bool) (significand : Nat) (dropped : Nat) (text : List Char) :
    Option (Reading Number) :=
  match text with
  | '.' :: rest => some (readPlaces positive significand dropped rest)
  | _ => (exponentRest? text).map (readExponent positive significand dropped)

/-- An integer of at most 64 bits is exact; a negative one beyond that, and negative zero, is a
double. -/
def integerNumber (positive : Bool) (significand : Nat) : Number :=
  if positive then .integer significand
  else if 0 < significand ∧ significand ≤ 0x8000_0000_0000_0000 then .integer (-(significand : Int))
  else .real (-(UInt64.ofNat significand).toFloat)

/-- Reads a number after its sign. -/
def readNumber (positive : Bool) (text : List Char) : Reading Number :=
  match text with
  | [] => .error (.here .endInValue [])
  | '0' :: rest =>
      if startsWithDigit rest then .error (.next .invalidNumber rest)
      else (readFraction positive 0 0 rest).getD (.ok (integerNumber positive 0, rest))
  | c :: rest =>
      if c.isDigit then
        let (significand, _, rest) := takeDigits (digitValue c) 1 rest
        let dropped := (rest.takeWhile Char.isDigit).length
        let tail := rest.drop dropped
        match readFraction positive significand dropped tail with
        | some reading => reading
        | none =>
            if dropped = 0 then .ok (integerNumber positive significand, tail)
            else scaledNumber positive significand dropped tail
      else .error ⟨.invalidNumber, Text.byteSize (c :: rest) - 1⟩

/-- Passes over an exponent after its letter. -/
def skipExponent (text : List Char) : Reading Unit :=
  let digits :=
    match text with
    | '+' :: rest => rest
    | '-' :: rest => rest
    | _ => text
  match digits with
  | [] => .error (.here .invalidNumber [])
  | c :: rest =>
      if c.isDigit then .ok ((), rest.dropWhile Char.isDigit)
      else .error ⟨.invalidNumber, Text.byteSize (c :: rest) - 1⟩

/-- Passes over what may follow the whole part of a number. -/
def skipFraction (text : List Char) : Reading Unit :=
  match text with
  | '.' :: rest =>
      if startsWithDigit rest then
        let rest := rest.dropWhile Char.isDigit
        match exponentRest? rest with
        | some rest => skipExponent rest
        | none => .ok ((), rest)
      else .error (.next .invalidNumber rest)
  | _ =>
      match exponentRest? text with
      | some rest => skipExponent rest
      | none => .ok ((), text)

/-- Passes over a number after its sign, whatever its size. -/
def skipNumber (text : List Char) : Reading Unit :=
  match text with
  | [] => .error (.here .invalidNumber [])
  | '0' :: rest =>
      if startsWithDigit rest then .error (.next .invalidNumber rest) else skipFraction rest
  | c :: rest =>
      if c.isDigit then skipFraction (rest.dropWhile Char.isDigit)
      else .error ⟨.invalidNumber, Text.byteSize (c :: rest) - 1⟩

end MappedCoverage.Json
