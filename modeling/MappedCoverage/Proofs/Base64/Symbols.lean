import MappedCoverage.Base64

/-!
# Writing base64

The symbols by their values, and the text of bytes. The symbol of a value is read as this value.
-/

namespace MappedCoverage.Base64

/-- The symbols in the order of their values. -/
def alphabet : List Char :=
  "ABCDEFGHIJKLMNOPQRSTUVWXYZabcdefghijklmnopqrstuvwxyz0123456789+/".toList

/-- The symbol of a value below 64. -/
def symbol (value : Nat) : Char :=
  alphabet.getD value 'A'

/-- The text of bytes. -/
def encode : List UInt8 → List Char
  | a :: b :: c :: rest =>
      let group := (a.toNat * 256 + b.toNat) * 256 + c.toNat
      symbol (group / 262144) :: symbol (group / 4096 % 64) :: symbol (group / 64 % 64)
        :: symbol (group % 64) :: encode rest
  | [a, b] =>
      let group := (a.toNat * 256 + b.toNat) * 4
      [symbol (group / 4096), symbol (group / 64 % 64), symbol (group % 64), padding]
  | [a] =>
      let group := a.toNat * 16
      [symbol (group / 64), symbol (group % 64), padding, padding]
  | [] => []

theorem value?_symbol {value : Nat} (small : value < 64) :
    value? (symbol value) = some value := by
  have checked : ∀ index : Fin 64, value? (symbol index) = some index.val := by decide +kernel
  exact checked ⟨value, small⟩

/-- Only ASCII characters have a value. -/
theorem toNat_lt_of_value? {c : Char} {value : Nat} (read : value? c = some value) :
    c.toNat < 128 := by
  have below {d : Char} (order : c ≤ d) : c.toNat ≤ d.toNat := order
  unfold value? at read
  split at read
  · next letter => exact Nat.lt_of_le_of_lt (below letter.2) (by decide)
  · split at read
    · next letter => exact Nat.lt_of_le_of_lt (below letter.2) (by decide)
    · split at read
      · next digit => exact Nat.lt_of_le_of_lt (below digit.2) (by decide)
      · split at read
        · next plus => rw [plus]; decide
        · split at read
          · next slash => rw [slash]; decide
          · cases read

end MappedCoverage.Base64
