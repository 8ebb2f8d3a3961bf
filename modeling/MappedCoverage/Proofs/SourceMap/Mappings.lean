import Mathlib.Data.List.Induction
import MappedCoverage.Proofs.SourceMap.Numbers
import MappedCoverage.SourceMap.Mapping

/-!
# What mappings texts denote

A mappings text is a sequence of segments, each on a line. It is read exactly when every segment is
in the grammar and, after every segment with a source, the sums of the source steps and of the line
steps so far and the line are in range; otherwise the first segment that fails this is reported.
The relation `Reads` says so segment by segment, with sums taken over all segments before.
-/

namespace MappedCoverage.SourceMap

/-! ## Segments of a text -/

/-- A segment and the number of semicolons in front of it. -/
structure Placed where
  line : Nat
  text : List Char

/-- The segments of lines of which the first has a number of semicolons in front of it. On a line
they stand between commas; where nothing stands between two commas, there is no segment. -/
def placedFrom (line : Nat) (lines : List (List Char)) : List Placed :=
  (lines.zipIdx line).flatMap fun (text, index) =>
    ((Text.split ',' text).filter (· ≠ [])).map (Placed.mk index)

/-- The segments of a mappings text, in order. -/
def placed (text : String) : List Placed :=
  placedFrom 0 (Text.split ';' text.toList)

@[simp] theorem placedFrom_nil (line : Nat) : placedFrom line [] = [] := rfl

@[simp] theorem placedFrom_cons (line : Nat) (text : List Char) (rest : List (List Char)) :
    placedFrom line (text :: rest) =
      (segments text).map (Placed.mk line) ++ placedFrom (line + 1) rest := by
  simp [placedFrom, segments]

/-! ## Sums of steps -/

/-- The sum of the numbers at an index, over those segments that have a number there. -/
def fieldSum (index : Nat) (numbers : List (List Int)) : Int :=
  (numbers.filterMap (·[index]?)).sum

@[simp] theorem fieldSum_nil (index : Nat) : fieldSum index [] = 0 := rfl

@[simp] theorem fieldSum_snoc (index : Nat) (numbers : List (List Int)) (own : List Int) :
    fieldSum index (numbers ++ [own]) = fieldSum index numbers + own[index]?.getD 0 := by
  cases found : own[index]? <;> simp [fieldSum, found]

/-- The sums of source steps and line steps after some segments. -/
def sums (numbers : List (List Int)) : Totals :=
  ⟨fieldSum 1 numbers, fieldSum 2 numbers⟩

/-- After these segments a mapping can be made on this line. -/
structure InRange (line : Nat) (numbers : List (List Int)) : Prop where
  source : 0 ≤ fieldSum 1 numbers ∧ fieldSum 1 numbers ≤ 2 ^ 32 - 1
  sourceLine : 0 ≤ fieldSum 2 numbers ∧ fieldSum 2 numbers ≤ 2 ^ 32 - 2
  generatedLine : line + 1 ≤ 2 ^ 32 - 1

/-- The mapping of the last of these segments, which is on this line. -/
def mappingAfter (line : Nat) (numbers : List (List Int)) : LineMapping where
  generatedLine := line + 1
  sourceLine := (fieldSum 2 numbers).toNat + 1
  source := (fieldSum 1 numbers).toNat

/-- Segments with the numbers of each and with the mappings of those that have a source. -/
inductive Reads : List Placed → List (List Int) → List LineMapping → Prop where
  | nil : Reads [] [] []
  | plain {segments : List Placed} {numbers : List (List Int)} {mappings : List LineMapping}
      {segment : Placed} {own : List Int} :
      Reads segments numbers mappings →
      IsSegment segment.text own →
      own.length < 4 →
      Reads (segments ++ [segment]) (numbers ++ [own]) mappings
  | mapped {segments : List Placed} {numbers : List (List Int)} {mappings : List LineMapping}
      {segment : Placed} {own : List Int} :
      Reads segments numbers mappings →
      IsSegment segment.text own →
      4 ≤ own.length →
      InRange segment.line (numbers ++ [own]) →
      Reads (segments ++ [segment]) (numbers ++ [own])
        (mappings ++ [mappingAfter segment.line (numbers ++ [own])])

theorem IsSegment.unique {text : List Char} {numbers others : List Int}
    (first : IsSegment text numbers) (second : IsSegment text others) : numbers = others := by
  rw [← fields?_eq_some_iff_isSegment] at first second
  exact Option.some.inj (first.symm.trans second)

/-- Segments have a reading. -/
def Readable (segments : List Placed) : Prop :=
  ∃ numbers mappings, Reads segments numbers mappings

namespace Reads

/-- The last segment is in the grammar, and in range if it has a source. -/
theorem last
    {segments : List Placed} {segment : Placed} {numbers : List (List Int)}
    {mappings : List LineMapping}
    (reads : Reads (segments ++ [segment]) numbers mappings) :
    ∃ before own first, numbers = before ++ [own] ∧ Reads segments before first ∧
      IsSegment segment.text own ∧
      (own.length < 4 ∧ mappings = first ∨
        4 ≤ own.length ∧ InRange segment.line numbers ∧
          mappings = first ++ [mappingAfter segment.line numbers]) := by
  generalize whole : segments ++ [segment] = all at reads
  cases reads with
  | nil => simp at whole
  | plain before grammar short =>
      obtain ⟨rfl, same⟩ := List.append_inj' whole rfl
      cases same
      exact ⟨_, _, _, rfl, before, grammar, Or.inl ⟨short, rfl⟩⟩
  | mapped before grammar long range =>
      obtain ⟨rfl, same⟩ := List.append_inj' whole rfl
      cases same
      exact ⟨_, _, _, rfl, before, grammar, Or.inr ⟨long, range, rfl⟩⟩

/-- Segments have one reading at most. -/
theorem unique
    {segments : List Placed} {numbers others : List (List Int)}
    {mappings found : List LineMapping}
    (first : Reads segments numbers mappings) (second : Reads segments others found) :
    numbers = others ∧ mappings = found := by
  induction first generalizing others found with
  | nil =>
      generalize whole : ([] : List Placed) = all at second
      cases second with
      | nil => exact ⟨rfl, rfl⟩
      | plain => simp at whole
      | mapped => simp at whole
  | plain _ grammar short ih =>
      obtain ⟨before, own, maps, rfl, reads, segment, kinds⟩ := second.last
      obtain ⟨rfl, rfl⟩ := ih reads
      obtain rfl := grammar.unique segment
      rcases kinds with ⟨_, rfl⟩ | ⟨long, _⟩
      · exact ⟨rfl, rfl⟩
      · omega
  | mapped _ grammar long range ih =>
      obtain ⟨before, own, maps, rfl, reads, segment, kinds⟩ := second.last
      obtain ⟨rfl, rfl⟩ := ih reads
      obtain rfl := grammar.unique segment
      rcases kinds with ⟨short, _⟩ | ⟨_, _, rfl⟩
      · omega
      · exact ⟨rfl, rfl⟩

end Reads

/-- The first of some readable segments are readable. -/
theorem Readable.before {first second : List Placed} (readable : Readable (first ++ second)) :
    Readable first := by
  induction second using List.reverseRecOn with
  | nil => simpa using readable
  | append_singleton second segment ih =>
      rw [← List.append_assoc] at readable
      obtain ⟨_, _, reads⟩ := readable
      obtain ⟨before, _, inner, _, earlier, _⟩ := reads.last
      exact ih ⟨before, inner, earlier⟩

/-! ## One segment -/

/-- With a source, new sums and the line must fit 32 bits; the check for 64 bits adds nothing. -/
theorem advance_mapped_iff
    {totals next : Totals} {line : Nat} {column sourceStep lineStep sourceColumn : Int}
    {rest : List Int} {found : List LineMapping} :
    totals.advance line (column :: sourceStep :: lineStep :: sourceColumn :: rest) =
        some (next, found) ↔
      next = ⟨totals.source + sourceStep, totals.sourceLine + lineStep⟩ ∧
        (0 ≤ next.source ∧ next.source ≤ 2 ^ 32 - 1) ∧
        (0 ≤ next.sourceLine ∧ next.sourceLine ≤ 2 ^ 32 - 2) ∧
        line + 1 ≤ 2 ^ 32 - 1 ∧
        found = [⟨line + 1, next.sourceLine.toNat + 1, next.source.toNat⟩] := by
  simp only [Totals.advance, wideSum?, lineNumber?, sourceNumber?, Option.bind_eq_bind,
    Option.bind_eq_some_iff, Option.ite_none_right_eq_some, Option.some.injEq, Option.pure_def,
    Prod.mk.injEq]
  constructor
  · rintro ⟨source, ⟨_, rfl⟩, sourceLine, ⟨_, rfl⟩, generated, ⟨fits, rfl⟩, original,
      ⟨lineFits, rfl⟩, number, ⟨sourceFits, rfl⟩, rfl, rfl⟩
    refine ⟨rfl, ⟨sourceFits.1, ?_⟩, ⟨lineFits.1, ?_⟩, ?_, rfl⟩
    · exact Int.le_sub_one_of_lt sourceFits.2
    · exact Int.le_sub_one_of_lt lineFits.2
    · omega
  · rintro ⟨rfl, source, sourceLine, generated, rfl⟩
    dsimp only at source sourceLine
    exact ⟨_, ⟨by omega, rfl⟩, _, ⟨by omega, rfl⟩, _, ⟨by omega, rfl⟩, _, ⟨by omega, rfl⟩, _,
      ⟨by omega, rfl⟩, rfl, rfl⟩

/-- A segment without a source leaves the sums alone; any other gives a mapping when it is in
range. -/
theorem advance_sums_iff
    {line : Nat} {numbers : List (List Int)} {own : List Int}
    {next : Totals} {found : List LineMapping}
    (count : own.length ∈ [1, 4, 5]) :
    (sums numbers).advance line own = some (next, found) ↔
      next = sums (numbers ++ [own]) ∧
        (own.length < 4 ∧ found = [] ∨
          4 ≤ own.length ∧ InRange line (numbers ++ [own]) ∧
            found = [mappingAfter line (numbers ++ [own])]) := by
  rcases own with _ | ⟨column, _ | ⟨sourceStep, _ | ⟨lineStep, _ | ⟨sourceColumn, rest⟩⟩⟩⟩
  · simp at count
  · simp [Totals.advance, sums, eq_comm]
  · simp at count
  · simp at count
  · rw [advance_mapped_iff]
    constructor
    · rintro ⟨rfl, source, sourceLine, generated, rfl⟩
      refine ⟨by simp [sums], Or.inr ⟨by simp, ⟨?_, ?_, generated⟩, by simp [mappingAfter, sums]⟩⟩
      · simpa [sums] using source
      · simpa [sums] using sourceLine
    · rintro ⟨rfl, ⟨short, _⟩ | ⟨_, range, rfl⟩⟩
      · simp only [List.length_cons] at short
        omega
      · exact ⟨by simp [sums], range.source, range.sourceLine, range.generatedLine, rfl⟩

/-! ## Runs over segments -/

/-- The mappings of placed segments. -/
def readPlaced (totals : Totals) :
    List Placed → Except Malformed (Totals × List LineMapping)
  | [] => .ok (totals, [])
  | segment :: rest =>
      match (fields? segment.text).bind (totals.advance segment.line) with
      | none => .error ⟨segment.text⟩
      | some (totals, first) => do
          let (totals, others) ← readPlaced totals rest
          return (totals, first ++ others)

theorem readSegments_eq_readPlaced (line : Nat) (totals : Totals) (texts : List (List Char)) :
    readSegments line totals texts = readPlaced totals (texts.map (Placed.mk line)) := by
  induction texts generalizing totals with
  | nil => rfl
  | cons text rest ih =>
      simp only [readSegments, List.map_cons, readPlaced]
      cases (fields? text).bind (totals.advance line) with
      | none => rfl
      | some read => simp only [ih]

theorem readPlaced_append (totals : Totals) (first second : List Placed) :
    readPlaced totals (first ++ second) = do
      let (middle, mappings) ← readPlaced totals first
      let (final, others) ← readPlaced middle second
      return (final, mappings ++ others) := by
  induction first generalizing totals with
  | nil =>
      rw [List.nil_append]
      cases result : readPlaced totals second <;>
        simp [readPlaced, result, bind, Except.bind, pure, Except.pure]
  | cons segment rest ih =>
      simp only [List.cons_append, readPlaced]
      cases (fields? segment.text).bind (totals.advance segment.line) with
      | none => rfl
      | some read =>
          simp only [ih]
          cases readPlaced read.1 rest with
          | error malformed => rfl
          | ok before =>
              cases result : readPlaced before.1 second <;>
                simp [result, bind, Except.bind, pure, Except.pure]

theorem readLines_eq_readPlaced (totals : Totals) (line : Nat) (lines : List (List Char)) :
    readLines totals line lines = Prod.snd <$> readPlaced totals (placedFrom line lines) := by
  induction lines generalizing totals line with
  | nil => rfl
  | cons text rest ih =>
      simp only [readLines, placedFrom_cons, readPlaced_append, readSegments_eq_readPlaced, ih]
      cases readPlaced totals ((segments text).map (Placed.mk line)) with
      | error malformed => rfl
      | ok before =>
          cases result : readPlaced before.1 (placedFrom (line + 1) rest) <;>
            simp [result, bind, Except.bind, pure, Except.pure, Functor.map, Except.map]

theorem readMappings_eq_readPlaced (text : String) :
    readMappings text = Prod.snd <$> readPlaced (sums []) (placed text) :=
  readLines_eq_readPlaced _ _ _

/-- Reading stops at one segment only. -/
theorem stop_unique
    {before others after rest : List Placed} {bad worse : Placed}
    (same : before ++ bad :: after = others ++ worse :: rest)
    (readable : Readable before) (unreadable : ¬ Readable (before ++ [bad]))
    (readable' : Readable others) (unreadable' : ¬ Readable (others ++ [worse])) :
    bad = worse := by
  rcases List.append_eq_append_iff.mp same with ⟨between, split, tails⟩ | ⟨between, split, tails⟩
  · cases between with
    | nil => exact (List.cons.inj tails).1
    | cons first between =>
        obtain rfl := (List.cons.inj tails).1
        rw [split, List.append_cons] at readable'
        exact absurd readable'.before unreadable
  · cases between with
    | nil => exact (List.cons.inj tails).1.symm
    | cons first between =>
        obtain rfl := (List.cons.inj tails).1
        rw [split, List.append_cons] at readable
        exact absurd readable.before unreadable'

section

variable {before rest : List Placed} {numbers : List (List Int)} {mappings found : List LineMapping}
  {segment : Placed} {next : Totals}

/-- A segment that is taken extends the reading. -/
theorem Reads.step
    (reads : Reads before numbers mappings)
    (taken : (fields? segment.text).bind ((sums numbers).advance segment.line) =
      some (next, found)) :
    ∃ own, next = sums (numbers ++ [own]) ∧
      Reads (before ++ [segment]) (numbers ++ [own]) (mappings ++ found) := by
  obtain ⟨own, read, advanced⟩ := Option.bind_eq_some_iff.mp taken
  have grammar := (fields?_eq_some_iff_isSegment _ _).mp read
  obtain ⟨rfl, ⟨short, rfl⟩ | ⟨long, range, rfl⟩⟩ := (advance_sums_iff grammar.2).mp advanced
  · exact ⟨own, rfl, by simpa using Reads.plain reads grammar short⟩
  · exact ⟨own, rfl, Reads.mapped reads grammar long range⟩

/-- A segment that is refused ends every reading. -/
theorem Reads.refused
    (reads : Reads before numbers mappings)
    (refused : (fields? segment.text).bind ((sums numbers).advance segment.line) = none) :
    ¬ Readable (before ++ [segment]) := by
  rintro ⟨all, maps, reading⟩
  obtain ⟨_, own, first, rfl, earlier, grammar, kinds⟩ := reading.last
  obtain ⟨rfl, rfl⟩ := reads.unique earlier
  have read := (fields?_eq_some_iff_isSegment _ _).mpr grammar
  have advanced : ∃ found, (sums numbers).advance segment.line own =
      some (sums (numbers ++ [own]), found) := by
    rcases kinds with ⟨short, _⟩ | ⟨long, range, _⟩
    · exact ⟨_, (advance_sums_iff grammar.2).mpr ⟨rfl, Or.inl ⟨short, rfl⟩⟩⟩
    · exact ⟨_, (advance_sums_iff grammar.2).mpr ⟨rfl, Or.inr ⟨long, range, rfl⟩⟩⟩
  obtain ⟨found, advanced⟩ := advanced
  rw [read, Option.bind_some, advanced] at refused
  cases refused

theorem Reads.run_ok
    (reads : Reads before numbers mappings)
    (result : readPlaced (sums numbers) rest = .ok (next, found)) :
    ∃ all, Reads (before ++ rest) all (mappings ++ found) := by
  induction rest generalizing before numbers mappings found with
  | nil =>
      cases result
      exact ⟨numbers, by simpa using reads⟩
  | cons segment rest ih =>
      unfold readPlaced at result
      split at result
      · cases result
      · next totals first taken =>
          obtain ⟨own, rfl, extended⟩ := reads.step taken
          cases later : readPlaced (sums (numbers ++ [own])) rest with
          | error malformed =>
              rw [later] at result
              cases result
          | ok read =>
              rw [later] at result
              cases result
              simpa using ih extended later

theorem Reads.run_error
    {malformed : Malformed}
    (reads : Reads before numbers mappings)
    (result : readPlaced (sums numbers) rest = .error malformed) :
    ∃ passed bad after, rest = passed ++ bad :: after ∧ malformed = ⟨bad.text⟩ ∧
      Readable (before ++ passed) ∧ ¬ Readable (before ++ passed ++ [bad]) := by
  induction rest generalizing before numbers mappings with
  | nil => cases result
  | cons segment rest ih =>
      unfold readPlaced at result
      split at result
      · next refused =>
          cases result
          exact ⟨[], segment, rest, rfl, rfl, ⟨numbers, mappings, by simpa using reads⟩,
            by simpa using reads.refused refused⟩
      · next totals first taken =>
          obtain ⟨own, rfl, extended⟩ := reads.step taken
          cases later : readPlaced (sums (numbers ++ [own])) rest with
          | error malformed =>
              rw [later] at result
              cases result
              obtain ⟨passed, bad, after, rfl, named, readable, unreadable⟩ := ih extended later
              exact ⟨segment :: passed, bad, after, rfl, named, by simpa using readable,
                by simpa using unreadable⟩
          | ok read =>
              rw [later] at result
              cases result

end

/-! ## Texts -/

theorem reads_of_readMappings_ok
    {text : String} {mappings : List LineMapping}
    (result : readMappings text = .ok mappings) :
    ∃ numbers, Reads (placed text) numbers mappings := by
  rw [readMappings_eq_readPlaced] at result
  cases run : readPlaced (sums []) (placed text) with
  | error malformed =>
      rw [run] at result
      cases result
  | ok read =>
      rw [run] at result
      cases result
      simpa using Reads.nil.run_ok run

theorem stop_of_readMappings_error
    {text : String} {malformed : Malformed}
    (result : readMappings text = .error malformed) :
    ∃ before bad after, placed text = before ++ bad :: after ∧ malformed = ⟨bad.text⟩ ∧
      Readable before ∧ ¬ Readable (before ++ [bad]) := by
  rw [readMappings_eq_readPlaced] at result
  cases run : readPlaced (sums []) (placed text) with
  | error malformed =>
      rw [run] at result
      cases result
      simpa using Reads.nil.run_error run
  | ok read =>
      rw [run] at result
      cases result

theorem readMappings_eq_ok_iff (text : String) (mappings : List LineMapping) :
    readMappings text = .ok mappings ↔ ∃ numbers, Reads (placed text) numbers mappings := by
  constructor
  · exact reads_of_readMappings_ok
  · rintro ⟨numbers, reads⟩
    cases result : readMappings text with
    | error malformed =>
        obtain ⟨before, bad, after, parts, _, _, unreadable⟩ := stop_of_readMappings_error result
        have readable : Readable (placed text) := ⟨numbers, mappings, reads⟩
        rw [parts, List.append_cons] at readable
        exact absurd readable.before unreadable
    | ok found =>
        obtain ⟨_, reads'⟩ := reads_of_readMappings_ok result
        rw [(reads.unique reads').2]

theorem readMappings_eq_error_iff (text : String) (segment : List Char) :
    readMappings text = .error ⟨segment⟩ ↔
      ∃ before bad after, placed text = before ++ bad :: after ∧ bad.text = segment ∧
        Readable before ∧ ¬ Readable (before ++ [bad]) := by
  constructor
  · intro result
    obtain ⟨before, bad, after, parts, named, readable, unreadable⟩ :=
      stop_of_readMappings_error result
    exact ⟨before, bad, after, parts, (Malformed.mk.inj named).symm, readable, unreadable⟩
  · rintro ⟨before, bad, after, parts, rfl, readable, unreadable⟩
    cases result : readMappings text with
    | error malformed =>
        obtain ⟨others, worse, rest, parts', rfl, readable', unreadable'⟩ :=
          stop_of_readMappings_error result
        rw [stop_unique (parts.symm.trans parts') readable unreadable readable' unreadable']
    | ok found =>
        obtain ⟨numbers, reads⟩ := reads_of_readMappings_ok result
        have whole : Readable (placed text) := ⟨numbers, found, reads⟩
        rw [parts, List.append_cons] at whole
        exact absurd whole.before unreadable

/--
A text gives mappings exactly when all its segments have a reading, and these are the mappings of
the reading. Otherwise the first segment with which the segments before it have no reading is
reported.
-/
theorem readMappings_decides_reads (text : String) :
    (∀ mappings, readMappings text = .ok mappings ↔
      ∃ numbers, Reads (placed text) numbers mappings) ∧
    ∀ segment, readMappings text = .error ⟨segment⟩ ↔
      ∃ before bad after, placed text = before ++ bad :: after ∧ bad.text = segment ∧
        Readable before ∧ ¬ Readable (before ++ [bad]) :=
  ⟨readMappings_eq_ok_iff text, readMappings_eq_error_iff text⟩

/-- A text with an empty piece, an empty line and two segments without a source is read. With a step
back behind the first line, or with two numbers, a segment ends the reading. -/
theorem readMappings_decides_reads_both :
    placed "A,,AACA;;AACAA,E" =
        [⟨0, "A".toList⟩, ⟨0, "AACA".toList⟩, ⟨2, "AACAA".toList⟩, ⟨2, "E".toList⟩] ∧
      (∃ numbers, Reads (placed "A,,AACA;;AACAA,E") numbers [⟨1, 2, 0⟩, ⟨3, 3, 0⟩]) ∧
      (∃ before bad after, placed "AACA,A;AAFA,AA" = before ++ bad :: after ∧
        bad.text = "AAFA".toList ∧ Readable before ∧ ¬ Readable (before ++ [bad])) ∧
      ∃ before bad after, placed "AACA,A;AADA,AA" = before ++ bad :: after ∧
        bad.text = "AA".toList ∧ Readable before ∧ ¬ Readable (before ++ [bad]) := by
  have accepted : readMappings "A,,AACA;;AACAA,E" = .ok [⟨1, 2, 0⟩, ⟨3, 3, 0⟩] := by rfl
  have stepsBack : readMappings "AACA,A;AAFA,AA" = .error ⟨"AAFA".toList⟩ := by rfl
  have tooShort : readMappings "AACA,A;AADA,AA" = .error ⟨"AA".toList⟩ := by rfl
  exact ⟨by rfl, ((readMappings_decides_reads _).1 _).mp accepted,
    ((readMappings_decides_reads _).2 _).mp stepsBack,
    ((readMappings_decides_reads _).2 _).mp tooShort⟩

end MappedCoverage.SourceMap
