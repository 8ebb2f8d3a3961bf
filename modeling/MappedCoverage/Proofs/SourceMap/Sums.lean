import MappedCoverage.Proofs.SourceMap.Bounds
import MappedCoverage.Proofs.SourceMap.Mappings

/-!
# Sums of steps that fit

Sums are kept only if they fit 32 bits, and no step is larger than `2 ^ 59`. So a sum of the two
never leaves 64 bits, and a segment that is in the grammar can only be refused because a line or a
source has no number.
-/

namespace MappedCoverage.SourceMap

/-- The source has a number, and so has the source line when it is counted from one. -/
structure Totals.Numbered (totals : Totals) : Prop where
  source : 0 ≤ totals.source ∧ totals.source ≤ 2 ^ 32 - 1
  sourceLine : 0 ≤ totals.sourceLine ∧ totals.sourceLine ≤ 2 ^ 32 - 2

/-- The numbers of a segment with a source lead to a line or to a source without a number. -/
def OutOfRange (totals : Totals) (line : Nat) (numbers : List Int) : Prop :=
  ∃ sourceStep lineStep, numbers[1]? = some sourceStep ∧ numbers[2]? = some lineStep ∧
    (lineNumber? line = none ∨ lineNumber? (totals.sourceLine + lineStep) = none ∨
      sourceNumber? (totals.source + sourceStep) = none)

/-! ## One segment -/

/-- A symbol leaves the complete numbers alone or adds one behind four of them at most. -/
theorem Partial.fields_step {state next : Partial} {c : Char}
    (taken : state.step c = some next) :
    next.fields = state.fields ∨
      ∃ number, next.fields = number :: state.fields ∧ state.fields.length ≤ 4 := by
  obtain ⟨symbol, _, taken⟩ := Option.bind_eq_some_iff.mp taken
  split at taken
  · cases taken
  · dsimp only at taken
    split at taken
    · cases taken
      exact Or.inl rfl
    · split at taken
      · cases taken
      · next few =>
          cases taken
          exact Or.inr ⟨_, rfl, Nat.not_lt.mp few⟩

theorem natAbs_lt_of_fields? {text : List Char} {numbers : List Int}
    (read : fields? text = some numbers) : ∀ number ∈ numbers, number.natAbs < 2 ^ 59 :=
  ((fields?_eq_some_iff_isSegment text numbers).mp read).1.natAbs_lt

theorem lineNumber?_eq_none_iff {line : Int} :
    lineNumber? line = none ↔ ¬ (0 ≤ line ∧ line ≤ 2 ^ 32 - 2) := by
  rw [lineNumber?, ite_eq_right_iff]
  constructor
  · intro refused fits
    cases refused ⟨fits.1, by omega⟩
  · intro outside fits
    exact absurd ⟨fits.1, by omega⟩ outside

theorem sourceNumber?_eq_none_iff {source : Int} :
    sourceNumber? source = none ↔ ¬ (0 ≤ source ∧ source ≤ 2 ^ 32 - 1) := by
  rw [sourceNumber?, ite_eq_right_iff]
  constructor
  · intro refused fits
    cases refused ⟨fits.1, by omega⟩
  · intro outside fits
    exact absurd ⟨fits.1, by omega⟩ outside

/-- A segment of the grammar is refused exactly if it is out of range. -/
theorem advance_eq_none_iff {totals : Totals} {line : Nat} {numbers : List Int}
    (count : numbers.length ∈ [1, 4, 5]) :
    totals.advance line numbers = none ↔ OutOfRange totals line numbers := by
  rcases numbers with _ | ⟨column, _ | ⟨sourceStep, _ | ⟨lineStep, _ | ⟨sourceColumn, rest⟩⟩⟩⟩
  case cons.cons.cons.cons =>
    have unnumbered :
        OutOfRange totals line (column :: sourceStep :: lineStep :: sourceColumn :: rest) ↔
          lineNumber? line = none ∨ lineNumber? (totals.sourceLine + lineStep) = none ∨
            sourceNumber? (totals.source + sourceStep) = none := by
      constructor
      · rintro ⟨_, _, ⟨⟩, ⟨⟩, refused⟩
        exact refused
      · intro refused
        exact ⟨sourceStep, lineStep, rfl, rfl, refused⟩
    rw [unnumbered, lineNumber?_eq_none_iff, lineNumber?_eq_none_iff, sourceNumber?_eq_none_iff,
      Option.eq_none_iff_forall_ne_some]
    constructor
    · intro refused
      by_contra fits
      simp only [not_or, Classical.not_not] at fits
      obtain ⟨generated, sourceLine, source⟩ := fits
      exact refused _ (advance_mapped_iff.mpr ⟨rfl, source, sourceLine, by omega, rfl⟩)
    · rintro outside ⟨next, found⟩ taken
      obtain ⟨rfl, source, sourceLine, generated, _⟩ := advance_mapped_iff.mp taken
      rcases outside with outside | outside | outside
      · omega
      · exact outside sourceLine
      · exact outside source
  all_goals simp_all [Totals.advance, OutOfRange]

/-- A sum within 32 bits and a step of at most sixty bits have a sum within 64 bits. -/
theorem wideSum?_of_natAbs_lt {sum step : Int} (low : 0 ≤ sum) (high : sum ≤ 2 ^ 32 - 1)
    (small : step.natAbs < 2 ^ 59) : wideSum? sum step = some (sum + step) := by
  rw [wideSum?, if_pos]
  omega

namespace Totals.Numbered

variable {totals next : Totals} {line : Nat} {numbers : List Int} {found : List LineMapping}

theorem zero : Totals.zero.Numbered where
  source := by decide
  sourceLine := by decide

theorem wideSum? (numbered : totals.Numbered)
    (small : ∀ number ∈ numbers, number.natAbs < 2 ^ 59) :
    (∀ step ∈ numbers[1]?,
        SourceMap.wideSum? totals.source step = some (totals.source + step)) ∧
      ∀ step ∈ numbers[2]?,
        SourceMap.wideSum? totals.sourceLine step = some (totals.sourceLine + step) := by
  obtain ⟨⟨sourceLow, sourceHigh⟩, lineLow, lineHigh⟩ := numbered
  constructor
  · intro step own
    exact wideSum?_of_natAbs_lt sourceLow sourceHigh (small step (List.mem_of_getElem? own))
  · intro step own
    have fits : totals.sourceLine ≤ 2 ^ 32 - 1 := by omega
    exact wideSum?_of_natAbs_lt lineLow fits (small step (List.mem_of_getElem? own))

/-- Taking a segment keeps the sums in range. -/
theorem step (numbered : totals.Numbered)
    (taken : totals.advance line numbers = some (next, found)) : next.Numbered := by
  rcases numbers with _ | ⟨column, _ | ⟨sourceStep, _ | ⟨lineStep, _ | ⟨sourceColumn, rest⟩⟩⟩⟩
  case cons.cons.cons.cons =>
    obtain ⟨_, source, sourceLine, _⟩ := advance_mapped_iff.mp taken
    exact ⟨source, sourceLine⟩
  all_goals
    cases taken
    exact numbered

/-- Reading keeps the sums in range from segment to segment. -/
theorem run {segments : List Placed} (numbered : totals.Numbered)
    (read : readPlaced totals segments = .ok (next, found)) : next.Numbered := by
  induction segments generalizing totals found with
  | nil =>
      cases read
      exact numbered
  | cons segment rest ih =>
      rw [readPlaced] at read
      split at read
      · cases read
      · next totals' first taken =>
          obtain ⟨numbers, _, advanced⟩ := Option.bind_eq_some_iff.mp taken
          cases later : readPlaced totals' rest with
          | error malformed =>
              rw [later] at read
              cases read
          | ok result =>
              rw [later] at read
              cases read
              exact ih (numbered.step advanced) later

end Totals.Numbered

/-! ## Whole texts -/

/-- Symbol by symbol, a segment is read within bounds. -/
structure ReadWithin (segment : List Char) : Prop where
  states : ∀ first rest, segment = first ++ rest → ∀ state,
    first.foldlM Partial.step .start = some state → state.Bounded
  /-- A number is put behind four others at most. -/
  places : ∀ first c rest, segment = first ++ c :: rest → ∀ state next,
    first.foldlM Partial.step .start = some state → state.step c = some next →
      next.fields = state.fields ∨
        ∃ number, next.fields = number :: state.fields ∧ state.fields.length ≤ 4
  numbers : ∀ numbers, fields? segment = some numbers →
    ∀ number ∈ numbers, number.natAbs < 2 ^ 59

theorem readWithin (segment : List Char) : ReadWithin segment where
  states _ _ _ _ read := Partial.bounded_of_foldlM read
  places _ _ _ _ _ _ _ taken := Partial.fields_step taken
  numbers _ read := natAbs_lt_of_fields? read

/-- With these sums, taking a segment can only fail for want of a number. -/
structure Totals.Admits (totals : Totals) (segment : Placed) : Prop where
  numbered : totals.Numbered
  sums : ∀ numbers, fields? segment.text = some numbers →
    (∀ step ∈ numbers[1]?, wideSum? totals.source step = some (totals.source + step)) ∧
      ∀ step ∈ numbers[2]?, wideSum? totals.sourceLine step = some (totals.sourceLine + step)
  refused : ∀ numbers, fields? segment.text = some numbers →
    (totals.advance segment.line numbers = none ↔ OutOfRange totals segment.line numbers)

theorem Totals.Numbered.admits {totals : Totals} (numbered : totals.Numbered)
    (segment : Placed) : totals.Admits segment where
  numbered := numbered
  sums _ read := numbered.wideSum? (natAbs_lt_of_fields? read)
  refused _ read := advance_eq_none_iff ((fields?_eq_some_iff_isSegment _ _).mp read).2

/-- The segment that reading stops at, and the sums in front of it. -/
theorem stop_of_readPlaced_error {totals : Totals} {segments : List Placed} {malformed : Malformed}
    (result : readPlaced totals segments = .error malformed) :
    ∃ before segment after sums mappings, segments = before ++ segment :: after ∧
      readPlaced totals before = .ok (sums, mappings) ∧ malformed = ⟨segment.text⟩ ∧
      (fields? segment.text).bind (sums.advance segment.line) = none := by
  induction segments generalizing totals with
  | nil => cases result
  | cons segment rest ih =>
      cases taken : (fields? segment.text).bind (totals.advance segment.line) with
      | none =>
          rw [readPlaced, taken] at result
          cases result
          exact ⟨[], segment, rest, totals, [], rfl, rfl, rfl, taken⟩
      | some read =>
          rw [readPlaced, taken] at result
          cases later : readPlaced read.1 rest with
          | ok others =>
              simp only [later] at result
              cases result
          | error fault =>
              simp only [later] at result
              cases result
              obtain ⟨before, stop, after, sums, mappings, rfl, passed, named, refused⟩ := ih later
              refine ⟨segment :: before, stop, after, sums, read.2 ++ mappings, rfl, ?_, named,
                refused⟩
              simp only [readPlaced, taken, passed]
              rfl

/--
However a mappings text goes on, the numbers of its segments are read within 64 bits, and at the
start of each segment the sums fit 32 bits. So no sum is ever too wide: the text is refused for a
segment outside of the grammar, or for a line or a source without a number.
-/
theorem readMappings_within_bounds (text : String) :
    readMappings text = Prod.snd <$> readPlaced .zero (placed text) ∧
      (∀ segment ∈ placed text, ReadWithin segment.text) ∧
      (∀ before segment after totals mappings, placed text = before ++ segment :: after →
        readPlaced .zero before = .ok (totals, mappings) → totals.Admits segment) ∧
      ∀ malformed, readMappings text = .error malformed →
        ∃ before segment after totals mappings, placed text = before ++ segment :: after ∧
          readPlaced .zero before = .ok (totals, mappings) ∧ malformed = ⟨segment.text⟩ ∧
          (fields? segment.text = none ∨ ∃ numbers, fields? segment.text = some numbers ∧
            OutOfRange totals segment.line numbers) := by
  have reader := readMappings_eq_readPlaced text
  refine ⟨reader, fun segment _ => readWithin segment.text, ?_, ?_⟩
  · intro before segment after totals mappings _ read
    exact (Totals.Numbered.zero.run read).admits segment
  · intro malformed result
    have stopped : readPlaced .zero (placed text) = .error malformed := by
      rw [reader] at result
      cases read : readPlaced (sums []) (placed text) with
      | ok found =>
          rw [read] at result
          cases result
      | error fault =>
          rw [read] at result
          cases result
          exact read
    obtain ⟨before, segment, after, totals, mappings, parts, passed, rfl, refused⟩ :=
      stop_of_readPlaced_error stopped
    refine ⟨before, segment, after, totals, mappings, parts, passed, rfl, ?_⟩
    cases read : fields? segment.text with
    | none => exact Or.inl rfl
    | some numbers =>
        rw [read] at refused
        have admits := (Totals.Numbered.zero.run passed).admits segment
        exact Or.inr ⟨numbers, rfl, (admits.refused numbers read).mp refused⟩

/-- The widest step of a source, behind a segment that stays where it is. -/
def widestStep : Placed := ⟨0, "A+//////////fAA".toList⟩

theorem readMappings_within_bounds_widest :
    placed "AAAA,A+//////////fAA" = [⟨0, "AAAA".toList⟩, widestStep] ∧
      fields? widestStep.text = some [0, 2 ^ 59 - 1, 0, 0] ∧
      wideSum? Totals.zero.source (2 ^ 59 - 1) = some (2 ^ 59 - 1) ∧
      OutOfRange .zero 0 [0, 2 ^ 59 - 1, 0, 0] ∧
      readMappings "AAAA,A+//////////fAA" = .error ⟨widestStep.text⟩ := by
  have parts : placed "AAAA,A+//////////fAA" = [⟨0, "AAAA".toList⟩, widestStep] := by rfl
  have numbers : fields? widestStep.text = some [0, 2 ^ 59 - 1, 0, 0] := by decide +kernel
  have before : readPlaced .zero [⟨0, "AAAA".toList⟩] = .ok (.zero, [⟨1, 1, 0⟩]) := by rfl
  have admits := (readMappings_within_bounds "AAAA,A+//////////fAA").2.2.1
    [⟨0, "AAAA".toList⟩] widestStep [] .zero [⟨1, 1, 0⟩] parts before
  have refused : Totals.zero.advance 0 [0, 2 ^ 59 - 1, 0, 0] = none := by decide +kernel
  exact ⟨parts, numbers, (admits.sums _ numbers).1 _ rfl, (admits.refused _ numbers).mp refused,
    rfl⟩

end MappedCoverage.SourceMap
