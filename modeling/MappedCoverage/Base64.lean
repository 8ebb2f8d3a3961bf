/-!
# Base64

Bytes as text in groups of four symbols of six bits, padded to whole groups. Missing or excess
padding and bits that no byte uses are refused.
-/

namespace MappedCoverage.Base64

/-- The value of a symbol. -/
def value? (c : Char) : Option Nat :=
  if 'A' ≤ c ∧ c ≤ 'Z' then some (c.toNat - 'A'.toNat)
  else if 'a' ≤ c ∧ c ≤ 'z' then some (c.toNat - 'a'.toNat + 26)
  else if '0' ≤ c ∧ c ≤ '9' then some (c.toNat - '0'.toNat + 52)
  else if c = '+' then some 62
  else if c = '/' then some 63
  else none

/-- The character that pads the last group. -/
def padding : Char := '='

/-- Why a text is not the text of any bytes; offsets and lengths count bytes of the text. -/
inductive Flaw where
  | symbol (byte offset : Nat)
  | length (count : Nat)
  | lastSymbol (byte offset : Nat)
  | padding
deriving DecidableEq

/-- The wording of a flaw. -/
def Flaw.message : Flaw → String
  | .symbol byte offset => s!"Invalid symbol {byte}, offset {offset}."
  | .length count => s!"Invalid input length: {count}"
  | .lastSymbol byte offset => s!"Invalid last symbol {byte}, offset {offset}."
  | .padding => "Invalid padding"

/-- The first byte of a character in UTF-8. -/
def firstByte (c : Char) : Nat :=
  ((String.utf8EncodeChar c).head?.map UInt8.toNat).getD 0

/-- The value of the symbol at an offset; every character in front of it is a symbol, so the offset
counts bytes. -/
def valueAt (offset : Nat) (c : Char) : Except Flaw Nat :=
  match value? c with
  | some value => .ok value
  | none => .error (.symbol (firstByte c) offset)

/-- The values of the symbols in front of the padding, and the number of padding characters. No
symbol follows the padding, which starts after two symbols at least. -/
def lastValues (offset : Nat) : Nat → List Char → Except Flaw (List Nat × Nat)
  | _, [] => .ok ([], 0)
  | index, c :: rest =>
      if c = padding then
        if index < 2 then .error (.symbol (firstByte c) (offset + index))
        else if rest.all (· = padding) then .ok ([], rest.length + 1)
        else .error (.symbol (firstByte c) (offset + index))
      else do
        let value ← valueAt (offset + index) c
        let (values, count) ← lastValues offset (index + 1) rest
        return (value :: values, count)

/-- The bytes of the last group, of one to four characters, which starts at an offset. -/
def decodeLast (offset : Nat) (text : List Char) : Except Flaw (List UInt8) := do
  let (values, count) ← lastValues offset 0 text
  if values.length < 2 then .error (.length (offset + values.length))
  else if (values.length + count) % 4 ≠ 0 then .error .padding
  else
    let last := (text.take values.length).getLast?.getD padding
    let unused := Except.error (Flaw.lastSymbol (firstByte last) (offset + values.length - 1))
    match values with
    | [a, b, c, d] =>
        let group := ((a * 64 + b) * 64 + c) * 64 + d
        return [UInt8.ofNat (group / 65536), UInt8.ofNat (group / 256 % 256),
          UInt8.ofNat (group % 256)]
    | [a, b, c] =>
        let group := (a * 64 + b) * 64 + c
        if group % 4 ≠ 0 then unused
        else return [UInt8.ofNat (group / 1024), UInt8.ofNat (group / 4 % 256)]
    | [a, b] =>
        let group := a * 64 + b
        if group % 16 ≠ 0 then unused else return [UInt8.ofNat (group / 16)]
    | _ => return []

/-- The bytes of a text whose first group starts at an offset. -/
def decodeFrom (offset : Nat) : List Char → Except Flaw (List UInt8)
  | a :: b :: c :: d :: e :: rest => do
      let a ← valueAt offset a
      let b ← valueAt (offset + 1) b
      let c ← valueAt (offset + 2) c
      let d ← valueAt (offset + 3) d
      let group := ((a * 64 + b) * 64 + c) * 64 + d
      let bytes ← decodeFrom (offset + 4) (e :: rest)
      return UInt8.ofNat (group / 65536) :: UInt8.ofNat (group / 256 % 256)
        :: UInt8.ofNat (group % 256) :: bytes
  | [] => .ok []
  | last => decodeLast offset last

/-- The byte at the end of a text one byte longer than whole groups, unless it is a symbol or
padding. -/
def strayLast? (text : List Char) : Option Flaw := do
  let bytes := text.flatMap String.utf8EncodeChar
  let last ← bytes.getLast?
  let isPlain := (value? (Char.ofNat last.toNat)).isSome || last.toNat = padding.toNat
  if bytes.length % 4 = 1 ∧ ¬ isPlain then some (.symbol last.toNat (bytes.length - 1)) else none

/-- The bytes that a text encodes. -/
def decode (text : List Char) : Except Flaw (List UInt8) :=
  match strayLast? text with
  | some flaw => .error flaw
  | none => decodeFrom 0 text

end MappedCoverage.Base64
