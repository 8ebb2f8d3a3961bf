import MappedCoverage.Decimal.Shortest

/-!
# Number text

How a double is written: its shortest digits, positionally with at least one decimal place for
moderate magnitudes, else with an exponent. The two output formats differ in one field.
-/

namespace MappedCoverage.Decimal

/-- Where positional notation applies and how a non-negative exponent is marked. -/
structure Layout where
  /-- The least exponent of the leading digit that is written positionally. -/
  least : Int
  /-- The first exponent of the leading digit that is written with an exponent again. -/
  limit : Int
  /-- What stands before a non-negative exponent. -/
  mark : String

/-- In JSON text a number is positional from `1e-5` to below `1e16`, and large exponents are
signed. -/
def Layout.json : Layout := ⟨-5, 16, "+"⟩

/-- In YAML text large exponents have no sign. -/
def Layout.yaml : Layout := ⟨-5, 16, ""⟩

/-- A text of zeros. -/
def zeros (count : Nat) : String :=
  String.ofList (List.replicate count '0')

/-- Digits in positional notation; `lead` is the exponent of the first digit. -/
def positional (digits : String) (lead : Int) : String :=
  let count : Int := digits.length
  if lead < 0 then
    "0." ++ zeros (-lead - 1).toNat ++ digits
  else if count ≤ lead + 1 then
    digits ++ zeros (lead + 1 - count).toNat ++ ".0"
  else
    let whole := digits.toList.take (lead + 1).toNat
    let places := digits.toList.drop (lead + 1).toNat
    String.ofList whole ++ "." ++ String.ofList places

/-- Digits with an exponent; a single digit has no decimal point. -/
def scientific (layout : Layout) (digits : String) (lead : Int) : String :=
  let mantissa :=
    match digits.toList with
    | first :: second :: rest => String.ofList (first :: '.' :: second :: rest)
    | _ => digits
  let exponent := if lead < 0 then toString lead else layout.mark ++ toString lead
  mantissa ++ "e" ++ exponent

/-- The text of a magnitude. -/
def Layout.magnitude (layout : Layout) (d : Dyadic) : String :=
  if d.mantissa = 0 then "0.0"
  else
    let found := shortest d
    let digits := toString found.digits
    let lead := found.exponent + (digits.length : Int) - 1
    if layout.least ≤ lead ∧ lead < layout.limit then positional digits lead
    else scientific layout digits lead

/-- The text of a double; infinities and not-a-number have no number text. -/
def Layout.text (layout : Layout) (value : Float) : String :=
  if value.isFinite then
    let bits := value.toBits
    let magnitude := layout.magnitude (Dyadic.ofBits bits)
    if bits.toNat / 0x8000_0000_0000_0000 = 1 then "-" ++ magnitude else magnitude
  else "null"

end MappedCoverage.Decimal
