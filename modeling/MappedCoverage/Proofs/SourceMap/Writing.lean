import MappedCoverage.Proofs.SourceMap.Mappings
import MappedCoverage.Proofs.Text.Pieces

/-!
# Writing mappings

A writer gives every mapping a segment on its line: the differences of source and source line from
the mapping before, and columns and a name of its choice. Between the segments of a line it may
leave pieces empty and put segments without a source. Reading gives back the mappings alone.
-/

namespace MappedCoverage.SourceMap

/-! ## The writer -/

/-- What a writer chooses for a mapping: the pieces in front of its segment, each of them empty or
the number of a column, and the numbers of the segment that no mapping keeps. -/
structure Choice where
  fillers : List (Option Int)
  column : Int
  sourceColumn : Int
  name : Option Int

/-- The sums of steps that a mapping leaves behind. -/
def LineMapping.totals (mapping : LineMapping) : Totals :=
  ⟨mapping.source, mapping.sourceLine - 1⟩

/-- The numbers of a mapping's segment, given the sums before it. -/
def Choice.fields (choice : Choice) (last : Totals) (mapping : LineMapping) : List Int :=
  [choice.column, mapping.source - last.source, mapping.sourceLine - 1 - last.sourceLine,
    choice.sourceColumn] ++ choice.name.toList

/-- The line of each mapping with the numbers of its pieces. -/
def pieces (last : Totals) : List (LineMapping × Choice) → List (Nat × List (List Int))
  | [] => []
  | (mapping, choice) :: rest =>
      (mapping.generatedLine, choice.fillers.map Option.toList ++ [choice.fields last mapping])
        :: pieces mapping.totals rest

/-- The numbers of the pieces on a line, of which the last belong to no mapping. -/
def linePieces (written : List (Nat × List (List Int))) (closing : Nat → List (Option Int))
    (line : Nat) : List (List Int) :=
  (written.filter (·.1 = line)).flatMap (·.2) ++ (closing line).map Option.toList

/-- The text of a line. -/
def writeLine (numbers : List (List Int)) : List Char :=
  Text.join ',' (numbers.map writeFields)

/-- The text of mappings in a number of lines, which are counted from one. -/
def writeMappings (count : Nat) (closing : Nat → List (Option Int))
    (entries : List (LineMapping × Choice)) : String :=
  String.ofList (Text.join ';' ((List.range' 1 count).map fun line =>
    writeLine (linePieces (pieces .zero entries) closing line)))

/-- Numbers of pieces that take twelve symbols at most. -/
def FillersFit (fillers : List (Option Int)) : Prop :=
  ∀ filler ∈ fillers, ∀ column ∈ filler, column.natAbs < 2 ^ 59

/-- The chosen numbers take twelve symbols at most. -/
structure Choice.Fits (choice : Choice) : Prop where
  fillers : FillersFit choice.fillers
  column : choice.column.natAbs < 2 ^ 59
  sourceColumn : choice.sourceColumn.natAbs < 2 ^ 59
  name : ∀ name ∈ choice.name, name.natAbs < 2 ^ 59

/-- The lines, counted from one, and the source fit 32 bits. -/
structure LineMapping.Fits (mapping : LineMapping) : Prop where
  generatedLine : 1 ≤ mapping.generatedLine ∧ mapping.generatedLine < 2 ^ 32
  sourceLine : 1 ≤ mapping.sourceLine ∧ mapping.sourceLine < 2 ^ 32
  source : mapping.source < 2 ^ 32

/-- Sums that a mapping can leave behind. -/
def Totals.Narrow (totals : Totals) : Prop :=
  (0 ≤ totals.source ∧ totals.source < 2 ^ 32) ∧
    0 ≤ totals.sourceLine ∧ totals.sourceLine < 2 ^ 32

theorem Totals.narrow_zero : Totals.zero.Narrow := by
  simp [Totals.Narrow, Totals.zero]

theorem LineMapping.Fits.narrow {mapping : LineMapping} (fits : mapping.Fits) :
    mapping.totals.Narrow := by
  obtain ⟨_, sourceLine, source⟩ := fits
  simp only [Totals.Narrow, LineMapping.totals]
  omega

theorem Choice.Fits.fields
    {choice : Choice} {last : Totals} {mapping : LineMapping}
    (choiceFits : choice.Fits) (narrow : last.Narrow) (fits : mapping.Fits) :
    ∀ number ∈ choice.fields last mapping, number.natAbs < 2 ^ 59 := by
  obtain ⟨_, sourceLine, source⟩ := fits
  obtain ⟨sourceBound, sourceLineBound⟩ := narrow
  intro number inside
  simp only [Choice.fields, List.cons_append, List.nil_append, List.mem_cons,
    Option.mem_toList] at inside
  rcases inside with rfl | rfl | rfl | rfl | named
  · exact choiceFits.column
  · omega
  · omega
  · exact choiceFits.sourceColumn
  · exact choiceFits.name number named

/-! ## Texts split again -/

theorem writeFields_eq_nil_iff (numbers : List Int) : writeFields numbers = [] ↔ numbers = [] := by
  cases numbers with
  | nil => simp [writeFields]
  | cons number rest => simp [writeFields, writeNumber_ne_nil]

theorem segments_writeLine (numbers : List (List Int)) :
    segments (writeLine numbers) = (numbers.filter (· ≠ [])).map writeFields := by
  have filtered : (numbers.map writeFields).filter (· ≠ []) =
      (numbers.filter (· ≠ [])).map writeFields := by
    simp [List.filter_map, Function.comp_def, writeFields_eq_nil_iff]
  rw [← filtered]
  by_cases empty : numbers = []
  · rw [empty]
    rfl
  · rw [segments, writeLine, Text.split_join (by simpa using empty)]
    intro piece inside
    obtain ⟨fields, _, rfl⟩ := List.mem_map.mp inside
    exact not_mem_writeFields (by decide) fields

theorem not_mem_writeLine (numbers : List (List Int)) : ';' ∉ writeLine numbers := by
  induction numbers with
  | nil => simp [writeLine, Text.join]
  | cons first rest ih =>
      have free : ';' ∉ writeFields first := not_mem_writeFields (by decide) first
      cases rest with
      | nil => simpa [writeLine, Text.join] using free
      | cons second rest =>
          simp only [writeLine, Text.join, List.map_cons, List.intercalate_cons_cons] at ih ⊢
          simp [free, ih]

theorem placedFrom_split_join (line : Nat) {lines : List (List Char)}
    (free : ∀ text ∈ lines, ';' ∉ text) :
    placedFrom line (Text.split ';' (Text.join ';' lines)) = placedFrom line lines := by
  by_cases empty : lines = []
  · rw [empty]
    rfl
  · rw [Text.split_join empty free]

/-- The segments on a line with a number of semicolons in front of it. -/
def placeAll (index : Nat) (numbers : List (List Int)) : List Placed :=
  (numbers.filter (· ≠ [])).map fun own => ⟨index, writeFields own⟩

@[simp] theorem placeAll_append (index : Nat) (first second : List (List Int)) :
    placeAll index (first ++ second) = placeAll index first ++ placeAll index second := by
  simp [placeAll]

theorem placedFrom_writeLine (index count : Nat) (lineNumbers : Nat → List (List Int)) :
    placedFrom index ((List.range' (index + 1) (count + 1)).map fun line =>
        writeLine (lineNumbers line)) =
      placeAll index (lineNumbers (index + 1)) ++
        placedFrom (index + 1) ((List.range' (index + 2) count).map fun line =>
          writeLine (lineNumbers line)) := by
  simp [List.range'_succ, segments_writeLine, placeAll, Function.comp_def]

/-! ## Readings of what is written -/

/-- Segments have a reading with these sums and mappings. -/
def Leads (segments : List Placed) (totals : Totals) (mappings : List LineMapping) : Prop :=
  ∃ numbers, Reads segments numbers mappings ∧ sums numbers = totals

section

variable {segments : List Placed} {totals : Totals} {mappings : List LineMapping} {index : Nat}

theorem isSegment_writeFields {numbers : List Int} (count : numbers.length ∈ [1, 4, 5])
    (bound : ∀ number ∈ numbers, number.natAbs < 2 ^ 59) :
    IsSegment (writeFields numbers) numbers :=
  ⟨isRun_writeFields bound, count⟩

/-- Pieces of no mapping leave sums and mappings alone. -/
theorem Leads.fillers
    (leads : Leads segments totals mappings) (index : Nat)
    {fillers : List (Option Int)} (fit : FillersFit fillers) :
    Leads (segments ++ placeAll index (fillers.map Option.toList)) totals mappings := by
  induction fillers generalizing segments with
  | nil => simpa [placeAll] using leads
  | cons filler rest ih =>
      have others : FillersFit rest := fun other inside => fit other (List.mem_cons_of_mem _ inside)
      cases filler with
      | none => simpa [placeAll] using ih leads others
      | some column =>
          obtain ⟨numbers, reads, rfl⟩ := leads
          have small : column.natAbs < 2 ^ 59 := fit _ List.mem_cons_self _ rfl
          have grammar : IsSegment (writeFields [column]) [column] :=
            isSegment_writeFields (by simp) (by simpa using small)
          have extended : Leads (segments ++ [⟨index, writeFields [column]⟩]) (sums numbers)
              mappings := ⟨_, .plain reads grammar (by simp), by simp [sums]⟩
          simpa [placeAll] using ih extended others

/-- After the sums that a mapping leaves behind, this mapping can be made. -/
theorem mappingAfter_of_sums
    {numbers : List (List Int)} {mapping : LineMapping}
    (moved : sums numbers = mapping.totals)
    (line : mapping.generatedLine = index + 1) (fits : mapping.Fits) :
    InRange index numbers ∧ mappingAfter index numbers = mapping := by
  obtain ⟨generatedFits, lineFits, sourceFits⟩ := fits
  have source : fieldSum 1 numbers = mapping.source := congrArg Totals.source moved
  have sourceLine : fieldSum 2 numbers = mapping.sourceLine - 1 :=
    congrArg Totals.sourceLine moved
  constructor
  · refine ⟨?_, ?_, ?_⟩ <;> omega
  · obtain ⟨generated, original, number⟩ := mapping
    simp only [mappingAfter, source, sourceLine, LineMapping.mk.injEq] at *
    omega

/-- The segment of a mapping adds this mapping and moves the sums to it. -/
theorem Leads.mapping
    {mapping : LineMapping} {choice : Choice}
    (leads : Leads segments totals mappings) (narrow : totals.Narrow)
    (line : mapping.generatedLine = index + 1)
    (fits : mapping.Fits) (choiceFits : choice.Fits) :
    Leads (segments ++ placeAll index [choice.fields totals mapping]) mapping.totals
      (mappings ++ [mapping]) := by
  obtain ⟨numbers, reads, rfl⟩ := leads
  have bound := choiceFits.fields narrow fits
  generalize written : choice.fields (sums numbers) mapping = own at bound
  have moved : sums (numbers ++ [own]) = mapping.totals := by
    rw [← written]
    simp [sums, Choice.fields, LineMapping.totals]
  have long : own.length = 4 ∨ own.length = 5 := by
    rw [← written]
    cases named : choice.name <;> simp [Choice.fields, named]
  have nonempty : own ≠ [] := by
    rintro rfl
    simp at long
  have grammar : IsSegment (writeFields own) own :=
    isSegment_writeFields (by simpa using Or.inr long) bound
  obtain ⟨range, same⟩ := mappingAfter_of_sums moved line fits
  have extended : Reads (segments ++ [⟨index, writeFields own⟩]) (numbers ++ [own])
      (mappings ++ [mappingAfter index (numbers ++ [own])]) :=
    .mapped reads grammar (by omega) range
  rw [same] at extended
  exact ⟨numbers ++ [own], by simpa [placeAll, nonempty] using extended, moved⟩

end

/-! ## Readings of lines -/

/-- The sums after mappings. -/
def totalsAfter (totals : Totals) (entries : List (LineMapping × Choice)) : Totals :=
  entries.foldl (fun _ entry => entry.1.totals) totals

/-- The mappings and the choices for them are within the limits of the format. -/
def EntriesFit (entries : List (LineMapping × Choice)) : Prop :=
  ∀ entry ∈ entries, entry.1.Fits ∧ entry.2.Fits

theorem pieces_append (last : Totals) (first second : List (LineMapping × Choice)) :
    pieces last (first ++ second) =
      pieces last first ++ pieces (totalsAfter last first) second := by
  induction first generalizing last with
  | nil => rfl
  | cons entry rest ih =>
      rw [List.cons_append, pieces, pieces, List.cons_append, ih]
      rfl

theorem line_of_mem_pieces
    {last : Totals} {entries : List (LineMapping × Choice)} {piece : Nat × List (List Int)}
    (inside : piece ∈ pieces last entries) :
    ∃ entry ∈ entries, piece.1 = entry.1.generatedLine := by
  induction entries generalizing last with
  | nil => cases inside
  | cons entry rest ih =>
      rw [pieces] at inside
      rcases List.mem_cons.mp inside with rfl | inside
      · exact ⟨entry, List.mem_cons_self, rfl⟩
      · obtain ⟨found, member, line⟩ := ih inside
        exact ⟨found, List.mem_cons_of_mem _ member, line⟩

theorem filter_pieces_self
    {last : Totals} {entries : List (LineMapping × Choice)} {line : Nat}
    (here : ∀ entry ∈ entries, entry.1.generatedLine = line) :
    (pieces last entries).filter (·.1 = line) = pieces last entries := by
  apply List.filter_eq_self.mpr
  intro piece inside
  obtain ⟨entry, member, same⟩ := line_of_mem_pieces inside
  simp [same, here entry member]

theorem filter_pieces_nil
    {last : Totals} {entries : List (LineMapping × Choice)} {line : Nat}
    (elsewhere : ∀ entry ∈ entries, entry.1.generatedLine ≠ line) :
    (pieces last entries).filter (·.1 = line) = [] := by
  apply List.filter_eq_nil_iff.mpr
  intro piece inside
  obtain ⟨entry, member, same⟩ := line_of_mem_pieces inside
  simp [same, elsewhere entry member]

section

variable {last : Totals} {here later : List (LineMapping × Choice)} {line : Nat}
  {closing : Nat → List (Option Int)}

theorem linePieces_here
    (onLine : ∀ entry ∈ here, entry.1.generatedLine = line)
    (after : ∀ entry ∈ later, line < entry.1.generatedLine) :
    linePieces (pieces last (here ++ later)) closing line =
      (pieces last here).flatMap (·.2) ++ (closing line).map Option.toList := by
  rw [linePieces, pieces_append, List.filter_append, filter_pieces_self onLine,
    filter_pieces_nil fun entry inside => Nat.ne_of_gt (after entry inside), List.append_nil]

theorem linePieces_later {other : Nat}
    (onLine : ∀ entry ∈ here, entry.1.generatedLine = line) (past : line < other) :
    linePieces (pieces last (here ++ later)) closing other =
      linePieces (pieces (totalsAfter last here) later) closing other := by
  have elsewhere : ∀ entry ∈ here, entry.1.generatedLine ≠ other := by
    intro entry inside
    rw [onLine entry inside]
    exact Nat.ne_of_lt past
  rw [linePieces, pieces_append, List.filter_append, filter_pieces_nil elsewhere,
    List.nil_append]
  rfl

end

/-- Ordered mappings from a line on are those of this line and those of later lines. -/
theorem split_at_line
    {entries : List (LineMapping × Choice)} {line : Nat}
    (sorted : entries.Pairwise fun a b => a.1.generatedLine ≤ b.1.generatedLine)
    (from_line : ∀ entry ∈ entries, line ≤ entry.1.generatedLine) :
    ∃ here later, entries = here ++ later ∧ (∀ entry ∈ here, entry.1.generatedLine = line) ∧
      ∀ entry ∈ later, line < entry.1.generatedLine := by
  induction entries with
  | nil => exact ⟨[], [], rfl, by simp, by simp⟩
  | cons entry rest ih =>
      obtain ⟨before, sortedRest⟩ := List.pairwise_cons.mp sorted
      by_cases same : entry.1.generatedLine = line
      · obtain ⟨here, later, rfl, onLine, after⟩ :=
          ih sortedRest fun other inside => from_line other (List.mem_cons_of_mem _ inside)
        refine ⟨entry :: here, later, rfl, ?_, after⟩
        intro other inside
        rcases List.mem_cons.mp inside with rfl | inside
        · exact same
        · exact onLine other inside
      · have past : line < entry.1.generatedLine :=
          Nat.lt_of_le_of_ne (from_line entry List.mem_cons_self) (Ne.symm same)
        refine ⟨[], entry :: rest, rfl, by simp, ?_⟩
        intro other inside
        rcases List.mem_cons.mp inside with rfl | inside
        · exact past
        · exact Nat.lt_of_lt_of_le past (before other inside)

/-- The pieces of mappings of one line add these mappings. -/
theorem Leads.entries
    {segments : List Placed} {totals : Totals} {mappings : List LineMapping} {index : Nat}
    {entries : List (LineMapping × Choice)}
    (leads : Leads segments totals mappings) (narrow : totals.Narrow)
    (here : ∀ entry ∈ entries, entry.1.generatedLine = index + 1)
    (fit : EntriesFit entries) :
    Leads (segments ++ placeAll index ((pieces totals entries).flatMap (·.2)))
      (totalsAfter totals entries) (mappings ++ entries.map (·.1)) := by
  induction entries generalizing segments totals mappings with
  | nil => simpa [pieces, placeAll, totalsAfter] using leads
  | cons entry rest ih =>
      obtain ⟨mapping, choice⟩ := entry
      obtain ⟨mappingFits, choiceFits⟩ := fit _ List.mem_cons_self
      have led := (leads.fillers index choiceFits.fillers).mapping narrow
        (here _ List.mem_cons_self) mappingFits choiceFits
      have whole := ih led mappingFits.narrow
        (fun other inside => here other (List.mem_cons_of_mem _ inside))
        (fun other inside => fit other (List.mem_cons_of_mem _ inside))
      rw [pieces, List.flatMap_cons, placeAll_append, placeAll_append]
      simpa [totalsAfter] using whole

theorem totalsAfter_narrow
    {totals : Totals} {entries : List (LineMapping × Choice)}
    (narrow : totals.Narrow) (fit : EntriesFit entries) : (totalsAfter totals entries).Narrow := by
  induction entries generalizing totals with
  | nil => exact narrow
  | cons entry rest ih =>
      exact ih (fit entry List.mem_cons_self).1.narrow
        fun other inside => fit other (List.mem_cons_of_mem _ inside)

/-- The lines that are written for ordered mappings add these mappings. -/
theorem Leads.lines
    {segments : List Placed} {totals : Totals} {mappings : List LineMapping} {index count : Nat}
    {entries : List (LineMapping × Choice)} {closing : Nat → List (Option Int)}
    (leads : Leads segments totals mappings) (narrow : totals.Narrow)
    (sorted : entries.Pairwise fun a b => a.1.generatedLine ≤ b.1.generatedLine)
    (within : ∀ entry ∈ entries,
      index < entry.1.generatedLine ∧ entry.1.generatedLine ≤ index + count)
    (fit : EntriesFit entries) (closingFit : ∀ line, FillersFit (closing line)) :
    Leads
      (segments ++ placedFrom index ((List.range' (index + 1) count).map fun line =>
        writeLine (linePieces (pieces totals entries) closing line)))
      (totalsAfter totals entries) (mappings ++ entries.map (·.1)) := by
  induction count generalizing segments totals mappings index entries with
  | zero =>
      have empty : entries = [] := by
        apply List.eq_nil_iff_forall_not_mem.mpr
        intro entry inside
        have bounds := within entry inside
        omega
      rw [empty]
      simpa [totalsAfter] using leads
  | succ count ih =>
      obtain ⟨here, later, rfl, onLine, after⟩ :=
        split_at_line sorted fun entry inside => (within entry inside).1
      have fitHere : EntriesFit here :=
        fun entry inside => fit entry (List.mem_append_left _ inside)
      have fitLater : EntriesFit later :=
        fun entry inside => fit entry (List.mem_append_right _ inside)
      have otherLines : ((List.range' (index + 2) count).map fun line =>
          writeLine (linePieces (pieces totals (here ++ later)) closing line)) =
          (List.range' (index + 1 + 1) count).map fun line =>
            writeLine (linePieces (pieces (totalsAfter totals here) later) closing line) := by
        apply List.map_congr_left
        intro line inside
        have bounds := List.mem_range'_1.mp inside
        rw [linePieces_later onLine bounds.1]
      have led := (leads.entries narrow onLine fitHere).fillers index (closingFit (index + 1))
      have whole := ih led (totalsAfter_narrow narrow fitHere)
        (List.pairwise_append.mp sorted).2.1
        (fun entry inside => ⟨after entry inside, by
          have bounds := within entry (List.mem_append_right _ inside)
          omega⟩)
        fitLater
      rw [placedFrom_writeLine, linePieces_here onLine after, otherLines]
      simpa [totalsAfter, List.append_assoc] using whole

theorem placed_writeMappings
    (count : Nat) (closing : Nat → List (Option Int)) (entries : List (LineMapping × Choice)) :
    placed (writeMappings count closing entries) =
      placedFrom 0 ((List.range' 1 count).map fun line =>
        writeLine (linePieces (pieces .zero entries) closing line)) := by
  rw [placed, writeMappings, String.toList_ofList]
  apply placedFrom_split_join
  intro text inside
  obtain ⟨line, _, rfl⟩ := List.mem_map.mp inside
  exact not_mem_writeLine _

/--
Reading undoes writing, for mappings in the order of their lines. No column, no name and no piece
without a source leaves a trace.
-/
theorem readMappings_writeMappings
    {entries : List (LineMapping × Choice)} {closing : Nat → List (Option Int)} {count : Nat}
    (sorted : entries.Pairwise fun a b => a.1.generatedLine ≤ b.1.generatedLine)
    (fit : EntriesFit entries)
    (closingFit : ∀ line, FillersFit (closing line))
    (enough : ∀ entry ∈ entries, entry.1.generatedLine ≤ count) :
    readMappings (writeMappings count closing entries) = .ok (entries.map (·.1)) := by
  have start : Leads [] .zero [] := ⟨[], .nil, rfl⟩
  have within : ∀ entry ∈ entries,
      0 < entry.1.generatedLine ∧ entry.1.generatedLine ≤ 0 + count := fun entry inside =>
    ⟨(fit entry inside).1.generatedLine.1, by simpa using enough entry inside⟩
  obtain ⟨numbers, reads, _⟩ := start.lines Totals.narrow_zero sorted within fit closingFit
  rw [List.nil_append, List.nil_append, ← placed_writeMappings] at reads
  exact (readMappings_eq_ok_iff _ _).mpr ⟨numbers, reads⟩

/-- Two mappings on lines one and three of four, with steps back and with pieces of all kinds. -/
theorem readMappings_writeMappings_four_lines :
    readMappings (writeMappings 4 (fun _ => [none, some 3])
      [(⟨1, 5, 4⟩, ⟨[some (-2), none], 0, 0, none⟩), (⟨3, 2, 0⟩, ⟨[], 40, -7, some 2⟩)]) =
      .ok [⟨1, 5, 4⟩, ⟨3, 2, 0⟩] := by
  have first : FillersFit [some (-2), none] := by
    unfold FillersFit
    decide
  have nothing : FillersFit [] := by simp [FillersFit]
  have last : FillersFit [none, some 3] := by
    unfold FillersFit
    decide
  refine readMappings_writeMappings (by decide) ?_ (fun _ => last) (by decide)
  intro entry inside
  simp only [List.mem_cons, List.not_mem_nil, or_false] at inside
  rcases inside with rfl | rfl
  · exact ⟨⟨by decide, by decide, by decide⟩, ⟨first, by decide, by decide, by decide⟩⟩
  · exact ⟨⟨by decide, by decide, by decide⟩, ⟨nothing, by decide, by decide, by decide⟩⟩

end MappedCoverage.SourceMap
