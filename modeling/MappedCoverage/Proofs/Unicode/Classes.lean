import MappedCoverage.Text.Blank
import MappedCoverage.Unicode.Classes

/-!
# Code points in classes

Bringing ranges into order keeps their code points, and classes are combined as sets. The predicates
on characters say the same as the ranges of their classes.
-/

namespace MappedCoverage.Unicode

namespace Ranges

variable {code : Nat}

theorem holds_eq_true_iff {ranges : Ranges} :
    ranges.holds code = true ↔ ∃ range ∈ ranges, range.1 ≤ code ∧ code ≤ range.2 := by
  simp [holds]

theorem holds_append (first second : Ranges) :
    Ranges.holds (first ++ second) code = (first.holds code || second.holds code) :=
  List.any_append

theorem holds_cons (range : Nat × Nat) (rest : Ranges) :
    Ranges.holds (range :: rest) code = (Ranges.holds [range] code || rest.holds code) :=
  holds_append [range] rest

theorem holds_perm {first second : Ranges} (same : first.Perm second) :
    first.holds code = second.holds code :=
  same.any_eq

/-- A range that starts no earlier is merged into the last one or stands behind it. -/
theorem holds_mergeRange {merged : Ranges} {range : Nat × Nat}
    (later : ∀ previous ∈ merged.head?, previous.1 ≤ range.1) :
    (mergeRange merged range).holds code = (Ranges.holds [range] code || merged.holds code) := by
  cases merged with
  | nil => exact (Bool.or_false _).symm
  | cons previous rest =>
      have inOrder := later previous rfl
      rw [mergeRange]
      split
      case isTrue touches =>
        rw [Bool.eq_iff_iff]
        simp only [holds, List.any_cons, List.any_nil, Bool.or_false, Bool.or_eq_true,
          Bool.and_eq_true, decide_eq_true_eq, ← or_assoc]
        refine or_congr ?_ Iff.rfl
        omega
      case isFalse => exact holds_cons range (previous :: rest)

theorem head?_mergeRange {merged : Ranges} {range : Nat × Nat}
    (later : ∀ previous ∈ merged.head?, previous.1 ≤ range.1) :
    ∀ last ∈ (mergeRange merged range).head?, last.1 ≤ range.1 := by
  cases merged with
  | nil => simp [mergeRange]
  | cons previous rest =>
      rw [mergeRange]
      split
      case isTrue => simpa using later
      case isFalse => simp

theorem holds_foldl_mergeRange {ranges merged : Ranges}
    (sorted : ranges.Pairwise fun first second => first.1 ≤ second.1)
    (later : ∀ range ∈ ranges, ∀ previous ∈ merged.head?, previous.1 ≤ range.1) :
    Ranges.holds (ranges.foldl mergeRange merged) code =
      (ranges.holds code || merged.holds code) := by
  induction ranges generalizing merged with
  | nil => rfl
  | cons range rest ih =>
      obtain ⟨first, others⟩ := List.pairwise_cons.mp sorted
      have own := later range List.mem_cons_self
      rw [List.foldl_cons, ih others, holds_mergeRange own, ← Bool.or_assoc]
      · rw [holds_cons range rest, Bool.or_comm (holds rest code)]
      · intro other inside previous last
        exact Nat.le_trans (head?_mergeRange own previous last) (first other inside)

/-- Bringing ranges into order keeps their code points. -/
@[simp] theorem holds_normalize (ranges : Ranges) :
    ranges.normalize.holds code = ranges.holds code := by
  have pairs : (ranges.mergeSort fun a b => a.1 ≤ b.1).Pairwise
      fun first second => decide (first.1 ≤ second.1) = true :=
    List.pairwise_mergeSort (fun _ _ _ => by simpa using Nat.le_trans)
      (fun first second => by simpa using Nat.le_total first.1 second.1) ranges
  have sorted : (ranges.mergeSort fun a b => a.1 ≤ b.1).Pairwise
      fun first second => first.1 ≤ second.1 :=
    pairs.imp of_decide_eq_true
  rw [normalize, holds_perm (List.reverse_perm _), holds_foldl_mergeRange sorted (by simp),
    holds_perm (List.mergeSort_perm ranges _)]
  exact Bool.or_false _

theorem holds_inter (first second : Ranges) :
    (first.inter second).holds code = (first.holds code && second.holds code) := by
  rw [inter, holds_normalize, Bool.eq_iff_iff]
  simp only [Bool.and_eq_true, holds_eq_true_iff, List.mem_flatMap, List.mem_filterMap,
    Option.ite_none_right_eq_some, Option.some.injEq]
  constructor
  · rintro ⟨_, ⟨r, insideFirst, s, insideSecond, _, rfl⟩, low, high⟩
    exact ⟨⟨r, insideFirst, by omega, by omega⟩, ⟨s, insideSecond, by omega, by omega⟩⟩
  · rintro ⟨⟨r, insideFirst, lowFirst, highFirst⟩, ⟨s, insideSecond, lowSecond, highSecond⟩⟩
    exact ⟨_, ⟨r, insideFirst, s, insideSecond, by omega, rfl⟩, by omega, by omega⟩

end Ranges

/-! ## Classes of characters -/

theorem holds_asciiWordCharacters {c : Char} (ascii : c.toNat < 0x80) :
    asciiWordCharacters.holds c.toNat = (c.isAlphanum || decide (c = '_')) := by
  have codes : ∀ code < 0x80, asciiWordCharacters.holds code =
      ((Char.ofNat code).isAlphanum || decide (Char.ofNat code = '_')) := by
    decide +kernel
  have known := codes c.toNat ascii
  rwa [Char.ofNat_toNat] at known

/-- The word characters are those of their class. -/
theorem isWord_eq_holds (c : Char) : isWord c = wordCharacters.holds c.toNat := by
  rw [isWord]
  split
  case isTrue ascii =>
    have below : Ranges.holds [(0x80, lastCode)] c.toNat = false := by
      simp only [Ranges.holds, List.any_cons, List.any_nil, Bool.or_false,
        decide_eq_false (Nat.not_le_of_lt ascii), Bool.false_and]
    rw [wordCharacters, Ranges.holds_append, Ranges.holds_inter, below, Bool.false_and,
      Bool.or_false, holds_asciiWordCharacters ascii]
  case isFalse => rfl

/-- White space is the class of this name. -/
theorem isSpace_eq_holds (c : Char) : Text.isSpace c = spaces.holds c.toNat := by
  have listed : spaces = [(0x09, 0x0D), (0x20, 0x20), (0x85, 0x85), (0xA0, 0xA0), (0x1680, 0x1680),
      (0x2000, 0x200A), (0x2028, 0x2029), (0x202F, 0x202F), (0x205F, 0x205F),
      (0x3000, 0x3000)] := by
    decide +kernel
  rw [listed, Text.isSpace, Bool.eq_iff_iff, List.contains_iff_mem, Ranges.holds_eq_true_iff]
  simp only [Text.spaceCodes, List.mem_cons, List.not_mem_nil, or_false, exists_eq_or_imp,
    exists_eq_left]
  omega

end MappedCoverage.Unicode
