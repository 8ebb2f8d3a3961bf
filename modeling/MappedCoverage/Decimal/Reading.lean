/-!
# Reading decimals

Two rules turn `significand * 10 ^ exponent` into a double. Nearest reading rounds once. Scaled
reading converts the significand and then multiplies or divides by a power of ten, so it may miss
the nearest double by a unit; it fails instead of giving an infinity.
-/

namespace MappedCoverage.Decimal

/-- The double nearest to `significand * 10 ^ exponent`; what lies far beyond the doubles is
infinite or zero without being computed. -/
def nearest (significand : Nat) (exponent : Int) : Float :=
  let lead := exponent + (Nat.toDigits 10 significand).length
  if significand = 0 ∨ lead < -330 then 0
  else if 310 < lead then 1 / 0
  else Float.ofScientific significand (exponent < 0) exponent.natAbs

/-- The power of ten with a given exponent of at most 308. -/
def powerOfTen (exponent : Nat) : Float :=
  nearest 1 exponent

/-- Scaling down by at most `fuel` steps of `10 ^ 308`, then by the rest. -/
def scaledDown : Nat → Float → Nat → Float
  | 0, value, _ => value
  | fuel + 1, value, exponent =>
      if exponent ≤ 308 then value / powerOfTen exponent
      else if value == 0 then value
      else scaledDown fuel (value / powerOfTen 308) (exponent - 308)

/-- Scaled reading of a significand of at most 64 bits. -/
def scaled? (significand : UInt64) (exponent : Int) : Option Float :=
  let value := significand.toFloat
  if exponent < 0 then
    some (scaledDown (exponent.natAbs / 308 + 1) value exponent.natAbs)
  else if exponent ≤ 308 then
    let product := value * powerOfTen exponent.toNat
    if product.isInf then none else some product
  else if value == 0 then some value
  else none

end MappedCoverage.Decimal
