import MappedCoverage.Proofs.SourceMap.Numbers

/-!
# Bounds of the reader of numbers

Whatever part of a segment is read, the open number stays below `2 ^ 60`, at most five numbers are
complete, and none of these is larger than `2 ^ 59` in size. So the reader never leaves 64 bits and
has no need of a sixth place.
-/

namespace MappedCoverage.SourceMap

theorem groupSum_lt (symbols : List Nat) : groupSum symbols < 32 ^ symbols.length := by
  induction symbols with
  | nil => decide
  | cons symbol rest ih =>
      have group : symbol % 32 < 32 := Nat.mod_lt _ (by decide)
      rw [groupSum, List.length_cons, Nat.pow_succ]
      omega

/-- At most twelve groups have sixty bits. -/
theorem groupSum_lt_of_length_le {symbols : List Nat} (short : symbols.length ≤ 12) :
    groupSum symbols < 2 ^ 60 :=
  calc groupSum symbols
    _ < 32 ^ symbols.length := groupSum_lt symbols
    _ ≤ 32 ^ 12 := Nat.pow_le_pow_right (by decide) short
    _ = 2 ^ 60 := by decide

theorem natAbs_signed (value : Nat) : (signed value).natAbs = value / 2 := by
  unfold signed
  split
  · rw [Int.natAbs_neg, Int.natAbs_natCast]
  · rw [Int.natAbs_natCast]

theorem IsNumber.natAbs_lt {text : List Char} {number : Int} (written : IsNumber text number) :
    number.natAbs < 2 ^ 59 := by
  obtain ⟨continued, last, _, short, _, _, rfl⟩ := written
  have sum : groupSum (continued ++ [last]) < 2 ^ 60 := by
    apply groupSum_lt_of_length_le
    rw [List.length_append]
    exact short
  rw [natAbs_signed]
  omega

theorem IsRun.natAbs_lt {text : List Char} {numbers : List Int} (run : IsRun text numbers) :
    ∀ number ∈ numbers, number.natAbs < 2 ^ 59 := by
  induction run with
  | nil => exact nofun
  | cons written _ ih => exact List.forall_mem_cons.mpr ⟨written.natAbs_lt, ih⟩

namespace Partial

/-- The bounds that reading keeps; `sum` is about the next group of the open number. -/
structure Bounded (state : Partial) : Prop where
  value : state.value < 2 ^ 60
  shift : state.shift ≤ 60
  sum : state.shift ≤ 55 → ∀ symbol, state.value + (symbol % 32) <<< state.shift < 2 ^ 60
  count : state.fields.length ≤ 5
  fields : ∀ field ∈ state.fields, field.natAbs < 2 ^ 59

theorem Reached.bounded {text : List Char} {state : Partial} (reached : Reached text state) :
    state.Bounded := by
  cases reached with
  | @intro whole opened numbers symbols run count held continued short =>
      constructor
      case value => exact groupSum_lt_of_length_le short
      case shift =>
        have bits : 5 * symbols.length ≤ 5 * 12 := Nat.mul_le_mul_left 5 short
        exact bits
      case sum =>
        intro room symbol
        rw [holding] at room ⊢
        dsimp only at room ⊢
        rw [value_snoc]
        apply groupSum_lt_of_length_le
        rw [List.length_append, List.length_singleton]
        omega
      case count =>
        rw [holding, List.length_reverse]
        exact count
      case fields =>
        intro field inside
        exact run.natAbs_lt field (List.mem_reverse.mp inside)

/-- Reading keeps the bounds on every way through a text. -/
theorem bounded_of_foldlM {text : List Char} {state : Partial}
    (read : text.foldlM Partial.step .start = some state) : state.Bounded :=
  ((reached_of_run .nil (Nat.zero_le 5)).run read).bounded

end Partial

end MappedCoverage.SourceMap
