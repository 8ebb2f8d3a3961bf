/-!
# Shortest decimals

A finite double is `mantissa * 2 ^ exponent` exactly, and it is the nearest double of every real in
an interval around it. Its shortest decimal is the one of fewest digits in that interval and, of
those, the nearest. On the decimal grid of a given number of digits only the two neighbours of the
value can be nearest, so each grid needs two tests in exact integer arithmetic.
-/

namespace MappedCoverage.Decimal

/-- The magnitude of a finite double: `mantissa * 2 ^ exponent`. -/
structure Dyadic where
  mantissa : Nat
  exponent : Int

/-- The weight of the bit of a mantissa that is not written. -/
def hiddenBit : Nat := 0x10_0000_0000_0000

/-- The magnitude written in the bits of a finite double. -/
def Dyadic.ofBits (bits : UInt64) : Dyadic :=
  let fraction := bits.toNat % hiddenBit
  let scale : Nat := bits.toNat / hiddenBit % 0x800
  if scale = 0 then ⟨fraction, -1074⟩ else ⟨fraction + hiddenBit, (scale : Int) - 1075⟩

/-- A decimal: `digits * 10 ^ exponent`. -/
structure Digits where
  digits : Nat
  exponent : Int

/-- The number of decimal digits of a natural number; zero has one. -/
def digitCount (n : Nat) : Nat :=
  (Nat.toDigits 10 n).length

/-- The exponent of the leading decimal digit of a positive quotient. -/
def leadingExponent (numerator denominator : Nat) : Int :=
  if denominator ≤ numerator then
    (digitCount (numerator / denominator) : Int) - 1
  else
    let count := digitCount (denominator / numerator)
    if denominator ≤ numerator * Nat.pow 10 (count - 1) then -((count : Int) - 1)
    else -(count : Int)

/-- The interval of reals that round to a value, with its ends and the value over one
denominator. -/
structure Interval where
  low : Nat
  value : Nat
  high : Nat
  denominator : Nat
  closed : Bool

/-- The reals nearest to a double: half a unit to each side, a quarter below a power of two. The
ends belong to it when the mantissa is even. -/
def Dyadic.interval (d : Dyadic) : Interval :=
  let below := if d.mantissa = hiddenBit ∧ d.exponent ≠ -1074 then 1 else 2
  let scale := Nat.pow 2 (d.exponent - 2).toNat
  { low := (4 * d.mantissa - below) * scale
    value := 4 * d.mantissa * scale
    high := (4 * d.mantissa + 2) * scale
    denominator := Nat.pow 2 (2 - d.exponent).toNat
    closed := d.mantissa % 2 = 0 }

/-- Whether `point * unit` lies in the interval from `low` to `high`. -/
def Interval.holds (i : Interval) (low high point unit : Nat) : Bool :=
  if i.closed then low ≤ point * unit && point * unit ≤ high
  else low < point * unit && point * unit < high

/-- The grid point of step `10 ^ step` in the interval that is nearest to the value; a tie goes to
the even point. -/
def Interval.gridPoint? (i : Interval) (step : Int) : Option Nat :=
  let finer := Nat.pow 10 (-step).toNat
  let unit := i.denominator * Nat.pow 10 step.toNat
  let value := i.value * finer
  let floor := value / unit
  let fits := fun point => i.holds (i.low * finer) (i.high * finer) point unit
  match fits floor, fits (floor + 1) with
  | true, true =>
      let down := value - floor * unit
      let up := (floor + 1) * unit - value
      if down < up ∨ (down = up ∧ floor % 2 = 0) then some floor else some (floor + 1)
  | true, false => some floor
  | false, true => some (floor + 1)
  | false, false => none

/-- Drops trailing zeros, at most `fuel` of them. -/
def dropZeros : Nat → Nat → Int → Digits
  | 0, digits, exponent => ⟨digits, exponent⟩
  | fuel + 1, digits, exponent =>
      if digits % 10 = 0 then dropZeros fuel (digits / 10) (exponent + 1) else ⟨digits, exponent⟩

/-- The shortest decimal that reads back as a positive double; seventeen digits always do. -/
def shortest (d : Dyadic) : Digits :=
  let i := d.interval
  let lead := leadingExponent i.value i.denominator
  let found := (List.range' 1 17).findSome? fun (count : Nat) =>
    let step := lead - (count : Int) + 1
    (i.gridPoint? step).map fun point => dropZeros 17 point step
  found.getD ⟨0, 0⟩

end MappedCoverage.Decimal
