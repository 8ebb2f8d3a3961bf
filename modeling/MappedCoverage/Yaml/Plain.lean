import MappedCoverage.Decimal.Reading

/-!
# Plain scalars

What an unquoted scalar stands for: null, a Boolean, an integer, a floating-point number, or its own
text. Integers are decimal, hexadecimal, octal or binary. A number with needless leading zeros is a
text, and so are numbers beyond the range of their kind.
-/

namespace MappedCoverage.Yaml

/-- What a plain scalar stands for. -/
inductive Plain where
  | null
  | boolean (value : Bool)
  /-- An integer of at most 128 bits. -/
  | integer (value : Int)
  | real (value : Float)
  | text

/-- The value of a digit in a base of at most sixteen. -/
def digit? (base : Nat) (c : Char) : Option Nat :=
  let value :=
    if c.isDigit then some (c.toNat - '0'.toNat)
    else if 'a' ≤ c ∧ c ≤ 'f' then some (c.toNat - 'a'.toNat + 10)
    else if 'A' ≤ c ∧ c ≤ 'F' then some (c.toNat - 'A'.toNat + 10)
    else none
  value.filter (· < base)

/-- The value of a row of digits. -/
def digits? (base : Nat) (text : List Char) : Option Nat :=
  if text.isEmpty then none
  else text.foldlM (fun value c => (digit? base c).map (value * base + ·)) 0

/-- The value of a row of digits after the mark of its base. -/
def magnitude? : List Char → Option Nat
  | '0' :: 'x' :: rest => digits? 16 rest
  | '0' :: 'o' :: rest => digits? 8 rest
  | '0' :: 'b' :: rest => digits? 2 rest
  | text => digits? 10 text

/-- A text without its sign. -/
def unsigned : List Char → List Char
  | '+' :: rest => rest
  | '-' :: rest => rest
  | text => text

/-- Whether a text is a row of decimal digits with needless leading zeros. -/
def hasLeadingZero (text : List Char) : Bool :=
  match unsigned text with
  | '0' :: c :: rest => (c :: rest).all Char.isDigit
  | _ => false

/-- The natural numbers below this one fit in 128 bits. -/
def magnitudeLimit : Nat := 0x1_0000_0000_0000_0000_0000_0000_0000_0000

/-- The integer of at most 128 bits that a text writes. -/
def integer? (text : List Char) : Option Int :=
  if hasLeadingZero text then none
  else
    match text with
    | '-' :: rest =>
        ((magnitude? rest).filter (· ≤ magnitudeLimit / 2)).map fun value => -(value : Int)
    | '+' :: rest => ((magnitude? rest).filter (· < magnitudeLimit)).map fun value => (value : Int)
    | rest => ((magnitude? rest).filter (· < magnitudeLimit)).map fun value => (value : Int)

/-- The value of decimal digits. -/
def decimal (digits : List Char) : Nat :=
  digits.foldl (fun value c => value * 10 + (c.toNat - '0'.toNat)) 0

/-- The exponent after its letter. -/
def exponent? (text : List Char) : Option Int :=
  match text with
  | '+' :: rest => (digits? 10 rest).map fun value => (value : Int)
  | '-' :: rest => (digits? 10 rest).map fun value => -(value : Int)
  | rest => (digits? 10 rest).map fun value => (value : Int)

/-- The magnitude of a floating-point number in decimal notation. -/
def decimal? (text : List Char) : Option Float := do
  let whole := text.takeWhile Char.isDigit
  let rest := text.dropWhile Char.isDigit
  let (places, rest) :=
    match rest with
    | '.' :: rest => (rest.takeWhile Char.isDigit, rest.dropWhile Char.isDigit)
    | _ => ([], rest)
  let exponent ←
    match rest with
    | [] => some 0
    | c :: rest => if c = 'e' ∨ c = 'E' then exponent? rest else none
  if whole.isEmpty ∧ places.isEmpty then none
  else
    let value := Decimal.nearest (decimal (whole ++ places)) (exponent - places.length)
    if value.isFinite then some value else none

/-- The floating-point number that a text writes. -/
def real? (text : List Char) : Option Float :=
  let isInfinite := fun (text : List Char) =>
    text = ".inf".toList ∨ text = ".Inf".toList ∨ text = ".INF".toList
  if text = ".nan".toList ∨ text = ".NaN".toList ∨ text = ".NAN".toList then some (0 / 0)
  else
    match text with
    | '-' :: rest => if isInfinite rest then some (-1 / 0) else (decimal? rest).map (- ·)
    | '+' :: rest => if isInfinite rest then some (1 / 0) else decimal? rest
    | rest => if isInfinite rest then some (1 / 0) else decimal? rest

/-- What a plain scalar stands for. -/
def Plain.read (scalar : String) : Plain :=
  let text := scalar.toList
  if scalar ∈ ["", "~", "null", "Null", "NULL"] then .null
  else if scalar ∈ ["true", "True", "TRUE"] then .boolean true
  else if scalar ∈ ["false", "False", "FALSE"] then .boolean false
  else
    match integer? text with
    | some value => .integer value
    | none =>
        if hasLeadingZero text then .text
        else
          match real? text with
          | some value => .real value
          | none => .text

end MappedCoverage.Yaml
