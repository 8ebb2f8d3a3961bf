import MappedCoverage.Proofs.Annotated.Rows

/-!
# Columns of annotated code

Annotated code has a line for each generated line but the last. A line that no mapping names stands
as it is; behind every other line, its label and the separator of its source text stand in columns,
which the widest of these lines and labels decide.
-/

namespace MappedCoverage.Annotated

theorem le_greatest {numbers : List Nat} {number : Nat} (inside : number ∈ numbers) :
    number ≤ greatest numbers := by
  induction numbers with
  | nil => cases inside
  | cons first rest ih =>
      rcases List.mem_cons.mp inside with rfl | inside
      · exact Nat.le_max_left _ _
      · exact Nat.le_trans (ih inside) (Nat.le_max_right _ _)

theorem greatest_mem {numbers : List Nat} (nonempty : numbers ≠ []) :
    greatest numbers ∈ numbers := by
  induction numbers with
  | nil => exact absurd rfl nonempty
  | cons first rest ih =>
      have split : greatest (first :: rest) = max first (greatest rest) := rfl
      rw [split]
      by_cases more : rest = []
      · subst more
        simp [greatest]
      · rcases Nat.le_total first (greatest rest) with below | above
        · rw [Nat.max_eq_right below]
          exact List.mem_cons_of_mem first (ih more)
        · rw [Nat.max_eq_left above]
          exact List.mem_cons_self

/-- The greatest length of some lines is the length of one of them. -/
theorem greatest_map_attained {numbers : List Nat} (nonempty : numbers ≠ []) (length : Nat → Nat) :
    ∃ number ∈ numbers, greatest (numbers.map length) = length number := by
  have inside := greatest_mem (mt List.map_eq_nil_iff.mp nonempty : numbers.map length ≠ [])
  obtain ⟨number, listed, equal⟩ := List.mem_map.mp inside
  exact ⟨number, listed, equal.symm⟩

theorem mem_mappedNumbers {lines : List (List Char)} {mappings : List SourceMap.LineMapping}
    {number : Nat} :
    number ∈ mappedNumbers lines mappings ↔
      (1 ≤ number ∧ number < lines.length) ∧ originsOf number mappings ≠ [] := by
  rw [mappedNumbers, List.mem_filter, mem_shownNumbers, Ne, originsOf_eq_nil_iff]
  simp

section

variable {generated source text : String} {mappings : List SourceMap.LineMapping}

/-- The lines of annotated code are written one by one. -/
theorem write?_lineAt {number : Nat}
    (long : 2 ≤ (Text.lines generated).length)
    (rendered : render? generated source mappings = some text)
    (first : 1 ≤ number) (last : number < (Text.lines generated).length) :
    (rowAt (Text.lines generated) mappings number).write? (Text.lines source)
        (widestLine (Text.lines generated) mappings)
        (widestLabel (Text.lines generated) mappings) =
      some (lineAt (Text.lines text) number) := by
  obtain ⟨index, rfl⟩ := Nat.exists_eq_add_of_le' first
  have each := congrArg (fun written => written[index]?) (render?_lines long rendered)
  rw [shownNumbers, List.getElem?_map, List.getElem?_map, List.getElem?_range' (by omega),
    Option.map_some, Nat.one_mul, Nat.add_comm 1 index] at each
  cases found : (Text.lines text)[index]? with
  | none => simp [found] at each
  | some line =>
      rw [found, Option.map_some, Option.some.injEq] at each
      rw [each, lineAt, found, Option.getD_some]

theorem length_lines_render? (long : 2 ≤ (Text.lines generated).length)
    (rendered : render? generated source mappings = some text) :
    (Text.lines text).length = (Text.lines generated).length - 1 := by
  have counts := congrArg List.length (render?_lines long rendered)
  simpa [shownNumbers] using counts.symm

/--
Annotated code is aligned with generated code. It has one line less; each line starts with its
generated line, and is this line when no mapping names it. In every other line the label starts
three columns behind the widest mapped line at least, and the separator one behind the widest label.
-/
theorem render?_aligned
    (long : 2 ≤ (Text.lines generated).length)
    (rendered : render? generated source mappings = some text) :
    (Text.lines text).length = (Text.lines generated).length - 1 ∧
      ∀ number, 1 ≤ number → number < (Text.lines generated).length →
        lineAt (Text.lines generated) number <+: lineAt (Text.lines text) number ∧
        ((∀ mapping ∈ mappings, mapping.generatedLine ≠ number) →
          lineAt (Text.lines text) number = lineAt (Text.lines generated) number) ∧
        ((∃ mapping ∈ mappings, mapping.generatedLine = number) →
          ∃ lineFill labelFill original,
            lineAt (Text.lines text) number =
              lineAt (Text.lines generated) number ++ List.replicate lineFill ' '
                ++ label (originsOf number mappings) ++ List.replicate labelFill ' '
                ++ ['|', ' '] ++ original ∧
            3 ≤ lineFill ∧ 1 ≤ labelFill ∧
            (lineAt (Text.lines generated) number).length + lineFill
                + (label (originsOf number mappings)).length + labelFill =
              widestLine (Text.lines generated) mappings + 3
                + (widestLabel (Text.lines generated) mappings + 1)) := by
  refine ⟨length_lines_render? long rendered, ?_⟩
  intro number first last
  have written := write?_lineAt long rendered first last
  by_cases unmapped : originsOf number mappings = []
  · have same := write?_unmapped unmapped written
    have none := originsOf_eq_nil_iff.mp unmapped
    refine ⟨?_, fun _ => same, ?_⟩
    · rw [same]
      exact List.prefix_refl _
    · rintro ⟨mapping, inside, names⟩
      exact absurd names (none mapping inside)
  · have columns : lineAt (Text.lines text) number = _ := write?_mapped unmapped written
    dsimp only [rowAt] at columns
    rw [← List.append_assoc (_ ++ _)] at columns
    have listed : number ∈ mappedNumbers (Text.lines generated) mappings :=
      mem_mappedNumbers.mpr ⟨⟨first, last⟩, unmapped⟩
    have lineFits : (lineAt (Text.lines generated) number).length ≤
        widestLine (Text.lines generated) mappings := le_greatest (List.mem_map_of_mem listed)
    have labelFits : (label (originsOf number mappings)).length ≤
        widestLabel (Text.lines generated) mappings := le_greatest (List.mem_map_of_mem listed)
    refine ⟨?_, ?_, ?_⟩
    · rw [columns]
      simp only [List.append_assoc]
      exact List.prefix_append _ _
    · intro none
      exact absurd (originsOf_eq_nil_iff.mpr none) unmapped
    · intro _
      refine ⟨_, _, _, columns, ?_, ?_, ?_⟩
      · omega
      · omega
      · omega

end

/-- Two mapped lines of three, the wider with two source lines, and a mapping of the dropped
line. -/
theorem render?_aligned_two_columns :
    2 ≤ (Text.lines "let é;\nb\nc\n").length ∧
      render? "let é;\nb\nc\n" "one\ntwo" [⟨3, 2, 0⟩, ⟨1, 2, 0⟩, ⟨1, 1, 0⟩, ⟨4, 1, 0⟩] =
        some "let é;   Lines: 2,1 | twoone\nb\nc        Line: 2    | two" ∧
      ∃ lineFill labelFill original,
        lineAt (Text.lines "let é;   Lines: 2,1 | twoone\nb\nc        Line: 2    | two") 3 =
          ['c'] ++ List.replicate lineFill ' ' ++ "Line: 2".toList ++ List.replicate labelFill ' '
            ++ ['|', ' '] ++ original ∧
        3 ≤ lineFill ∧ 1 ≤ labelFill ∧
        1 + lineFill + "Line: 2".toList.length + labelFill =
          "let é;".toList.length + 3 + ("Lines: 2,1".toList.length + 1) := by
  have long : 2 ≤ (Text.lines "let é;\nb\nc\n").length := by decide
  have rendered : render? "let é;\nb\nc\n" "one\ntwo"
      [⟨3, 2, 0⟩, ⟨1, 2, 0⟩, ⟨1, 1, 0⟩, ⟨4, 1, 0⟩] =
        some "let é;   Lines: 2,1 | twoone\nb\nc        Line: 2    | two" := by rfl
  have named : ∃ mapping ∈ ([⟨3, 2, 0⟩, ⟨1, 2, 0⟩, ⟨1, 1, 0⟩, ⟨4, 1, 0⟩] :
      List SourceMap.LineMapping), mapping.generatedLine = 3 := ⟨_, List.mem_cons_self, rfl⟩
  exact ⟨long, rendered,
    ((render?_aligned long rendered).2 3 (by decide) (by decide)).2.2 named⟩

end MappedCoverage.Annotated
