import MappedCoverage.Annotated
import MappedCoverage.Proofs.Text.Pieces

/-!
# Rows of annotated code

The row of a generated line holds the line and the source lines of its mappings, each once.
Annotated code has one written row for each generated line but the last, and no row holds a line
break, so the lines of annotated code are its rows.
-/

namespace MappedCoverage.Annotated

/-! ## The table of source lines -/

/-- The source lines that mappings relate to a generated line, each at its first mapping. -/
def originsOf (line : Nat) (mappings : List SourceMap.LineMapping) : List Nat :=
  ((mappings.filter (·.generatedLine = line)).map (·.sourceLine)).eraseDups

/-- Adding source lines one after another appends the new ones, each once. -/
theorem foldl_addOrigin (lines origins : List Nat) :
    lines.foldl (fun origins line => addOrigin line origins) origins =
      origins ++ (lines.filter fun line => line ∉ origins).eraseDups := by
  induction lines generalizing origins with
  | nil => simp
  | cons line rest ih =>
      rw [List.foldl_cons, ih]
      by_cases known : line ∈ origins
      · rw [addOrigin, if_pos known, List.filter_cons_of_neg (by simpa using known)]
      · rw [addOrigin, if_neg known, List.filter_cons_of_pos (by simpa using known),
          List.eraseDups_cons, List.append_assoc, List.filter_filter]
        have both : (rest.filter fun other => other ∉ origins ++ [line]) =
            rest.filter fun other => !(other == line) && decide (other ∉ origins) := by
          apply List.filter_congr
          intro other _
          by_cases same : other = line <;> simp [same]
        rw [both]
        rfl

theorem getElem?_foldl_modify (mappings : List SourceMap.LineMapping) (table : Array (List Nat))
    (line : Nat) :
    (mappings.foldl
        (fun table mapping => table.modify mapping.generatedLine (addOrigin mapping.sourceLine))
        table)[line]? =
      table[line]?.map fun origins =>
        ((mappings.filter (·.generatedLine = line)).map (·.sourceLine)).foldl
          (fun origins line => addOrigin line origins) origins := by
  induction mappings generalizing table with
  | nil => simp
  | cons mapping rest ih =>
      rw [List.foldl_cons, ih, Array.getElem?_modify]
      by_cases same : mapping.generatedLine = line
      · rw [if_pos same, Option.map_map, List.filter_cons, if_pos (decide_eq_true same)]
        rfl
      · rw [if_neg same, List.filter_cons_of_neg (by simpa using same)]

/-- The table lists the source lines of every line up to its count. -/
theorem originTable_getElem? {count line : Nat} (mappings : List SourceMap.LineMapping)
    (within : line ≤ count) :
    (originTable count mappings)[line]? = some (originsOf line mappings) := by
  rw [originTable, getElem?_foldl_modify, Array.getElem?_replicate, if_pos (by omega),
    Option.map_some, foldl_addOrigin, List.nil_append, originsOf]
  have all (lines : List Nat) : (lines.filter fun line => line ∉ []) = lines :=
    List.filter_eq_self.mpr fun _ _ => rfl
  rw [all]

/-- A line has source lines exactly when a mapping names it. -/
theorem originsOf_eq_nil_iff {line : Nat} {mappings : List SourceMap.LineMapping} :
    originsOf line mappings = [] ↔ ∀ mapping ∈ mappings, mapping.generatedLine ≠ line := by
  simp only [List.eq_nil_iff_forall_not_mem, originsOf, List.mem_eraseDups, List.mem_map,
    List.mem_filter, decide_eq_true_eq]
  constructor
  · intro none mapping inside same
    exact none _ ⟨mapping, ⟨inside, same⟩, rfl⟩
  · rintro none _ ⟨mapping, ⟨inside, same⟩, _⟩
    exact none mapping inside same

/-! ## Rows by the numbers of their lines -/

/-- The numbers of the generated lines that are shown. -/
def shownNumbers (lines : List (List Char)) : List Nat :=
  List.range' 1 (lines.length - 1)

/-- The row of a generated line. -/
def rowAt (lines : List (List Char)) (mappings : List SourceMap.LineMapping) (number : Nat) : Row :=
  ⟨lineAt lines number, originsOf number mappings⟩

theorem mem_shownNumbers {lines : List (List Char)} {number : Nat} :
    number ∈ shownNumbers lines ↔ 1 ≤ number ∧ number < lines.length := by
  rw [shownNumbers, List.mem_range'_1]
  omega

theorem map_lineAt_shownNumbers (lines : List (List Char)) :
    (shownNumbers lines).map (lineAt lines) = lines.dropLast := by
  apply List.ext_getElem
  · rw [List.length_map, shownNumbers, List.length_range', List.length_dropLast]
  · intro index shown _
    have within : index < lines.length := by
      rw [List.length_map, shownNumbers, List.length_range'] at shown
      omega
    rw [List.getElem_map, List.getElem_dropLast]
    simp only [shownNumbers, List.getElem_range', Nat.one_mul, Nat.add_comm 1 index, lineAt]
    rw [List.getElem?_eq_getElem within, Option.getD_some]

theorem rows_eq_map (table : Array (List Nat)) (number : Nat) (lines : List (List Char)) :
    rows table number lines =
      (List.range' number (lines.length - 1)).map fun index =>
        ⟨(lines[index - number]?).getD [], (table[index]?).getD []⟩ := by
  induction lines generalizing number with
  | nil => rfl
  | cons line rest ih =>
      cases rest with
      | nil => rfl
      | cons next rest =>
          have count : (line :: next :: rest).length - 1 = (next :: rest).length - 1 + 1 := rfl
          have first : rows table number (line :: next :: rest) =
              ⟨line, (table[number]?).getD []⟩ :: rows table (number + 1) (next :: rest) := rfl
          rw [first, ih, count, List.range'_succ, List.map_cons, Nat.sub_self]
          congr 1
          apply List.map_congr_left
          intro index inside
          have later : index - number = index - (number + 1) + 1 := by
            have bounds := List.mem_range'_1.mp inside
            omega
          rw [later, List.getElem?_cons_succ]

theorem rows_originTable (lines : List (List Char)) (mappings : List SourceMap.LineMapping) :
    rows (originTable lines.length mappings) 1 lines =
      (shownNumbers lines).map (rowAt lines mappings) := by
  rw [rows_eq_map]
  apply List.map_congr_left
  intro number inside
  obtain ⟨first, last⟩ := mem_shownNumbers.mp inside
  obtain ⟨index, rfl⟩ := Nat.exists_eq_add_of_le' first
  rw [originTable_getElem? mappings (Nat.le_of_lt last)]
  rfl

/-! ## Written rows -/

theorem padRight?_eq_some_iff {width : Nat} {text padded : List Char} :
    padRight? width text = some padded ↔
      width ≤ widthLimit ∧ padded = text ++ List.replicate (width - text.length) ' ' := by
  rw [padRight?, Option.ite_none_right_eq_some, Option.some.injEq, eq_comm (a := padded)]

section

variable {sources : List (List Char)} {lineWidth labelWidth : Nat} {row : Row} {shown : List Char}

theorem write?_unmapped (unmapped : row.origins = [])
    (written : row.write? sources lineWidth labelWidth = some shown) : shown = row.generated := by
  rw [Row.write?, unmapped] at written
  exact (Option.some.inj written).symm

/-- A mapped row is its line, its label and its source text, each behind its column. -/
theorem write?_mapped (mapped : row.origins ≠ [])
    (written : row.write? sources lineWidth labelWidth = some shown) :
    shown = row.generated ++ List.replicate (lineWidth + 3 - row.generated.length) ' '
      ++ (label row.origins ++ List.replicate (labelWidth + 1 - (label row.origins).length) ' ')
      ++ ['|', ' '] ++ (row.origins.map (lineAt sources)).flatten := by
  cases origins : row.origins with
  | nil => exact absurd origins mapped
  | cons origin others =>
      simp only [Row.write?, origins, Option.bind_eq_bind, Option.bind_eq_some_iff,
        padRight?_eq_some_iff, Option.pure_def, Option.some.injEq] at written
      obtain ⟨_, ⟨_, rfl⟩, _, ⟨_, rfl⟩, rfl⟩ := written
      rfl

theorem newline_not_mem_lineAt {text : String} {number : Nat} :
    '\n' ∉ lineAt (Text.lines text) number := by
  intro inside
  cases number with
  | zero => cases inside
  | succ index =>
      cases found : (Text.lines text)[index]? with
      | none => simp [lineAt, found] at inside
      | some line =>
          rw [lineAt, found, Option.getD_some] at inside
          exact (Text.mem_of_mem_split (List.mem_of_getElem? found) inside).2 rfl

theorem newline_not_mem_lineText (line : Nat) : '\n' ∉ lineText line := fun inside =>
  absurd (Nat.isDigit_of_mem_toDigits (by decide) (by decide) inside) (by decide)

theorem newline_not_mem_label (origins : List Nat) : '\n' ∉ label origins := by
  have numbers : '\n' ∉ Text.join ',' (origins.map lineText) := by
    induction origins with
    | nil => exact List.not_mem_nil
    | cons origin rest ih =>
        cases rest with
        | nil => simpa [Text.join] using newline_not_mem_lineText origin
        | cons next rest =>
            simp only [Text.join, List.map_cons, List.intercalate_cons_cons, List.mem_append,
              not_or] at ih ⊢
            exact ⟨⟨newline_not_mem_lineText origin, by decide⟩, ih⟩
  unfold label
  split
  · rw [List.mem_append, not_or]
    exact ⟨by decide, newline_not_mem_lineText _⟩
  · rw [List.mem_append, not_or]
    exact ⟨by decide, numbers⟩

/-- No row holds a line break. -/
theorem newline_not_mem_write? {source : String} (generated : '\n' ∉ row.generated)
    (written : row.write? (Text.lines source) lineWidth labelWidth = some shown) :
    '\n' ∉ shown := by
  by_cases mapped : row.origins = []
  · rw [write?_unmapped mapped written]
    exact generated
  · have blanks (count : Nat) : '\n' ∉ List.replicate count ' ' := fun inside =>
      absurd (List.eq_of_mem_replicate inside) (by decide)
    have originals : '\n' ∉ (row.origins.map (lineAt (Text.lines source))).flatten := by
      simp only [List.mem_flatten, List.mem_map]
      rintro ⟨_, ⟨number, _, rfl⟩, inside⟩
      exact newline_not_mem_lineAt inside
    rw [write?_mapped mapped written]
    simp only [List.mem_append, not_or]
    exact ⟨⟨⟨⟨generated, blanks _⟩, newline_not_mem_label _, blanks _⟩, by decide⟩, originals⟩

end

/-! ## Annotated code -/

theorem mapM_eq_some_iff {α β : Type} {step : α → Option β} {items : List α} {results : List β} :
    items.mapM step = some results ↔ items.map step = results.map some := by
  induction items generalizing results with
  | nil => cases results <;> simp
  | cons item items ih =>
      simp only [List.mapM_cons, Option.bind_eq_bind, Option.bind_eq_some_iff, Option.pure_def,
        Option.some.injEq, ih, List.map_cons]
      cases results with
      | nil => simp
      | cons result results =>
          constructor
          · rintro ⟨_, first, _, rest, same⟩
            obtain ⟨rfl, rfl⟩ := List.cons.inj same
            rw [first, rest, List.map_cons]
          · intro same
            obtain ⟨first, rest⟩ := List.cons.inj same
            exact ⟨result, first, results, rest, rfl⟩

/-- The numbers of the shown lines that mappings name. -/
def mappedNumbers (lines : List (List Char)) (mappings : List SourceMap.LineMapping) : List Nat :=
  (shownNumbers lines).filter fun number => mappings.any (·.generatedLine = number)

/-- The greatest number of characters of a mapped line. -/
def widestLine (lines : List (List Char)) (mappings : List SourceMap.LineMapping) : Nat :=
  greatest ((mappedNumbers lines mappings).map fun number => (lineAt lines number).length)

/-- The greatest number of characters of a label. -/
def widestLabel (lines : List (List Char)) (mappings : List SourceMap.LineMapping) : Nat :=
  greatest ((mappedNumbers lines mappings).map fun number =>
    (label (originsOf number mappings)).length)

theorem mapped_map_rowAt (lines : List (List Char)) (mappings : List SourceMap.LineMapping) :
    mapped ((shownNumbers lines).map (rowAt lines mappings)) =
      (mappedNumbers lines mappings).map (rowAt lines mappings) := by
  rw [mapped, List.filter_map, mappedNumbers]
  congr 1
  apply List.filter_congr
  intro number _
  rw [Bool.eq_iff_iff]
  simp [rowAt, originsOf_eq_nil_iff]

theorem lineWidth_map_rowAt (lines : List (List Char)) (mappings : List SourceMap.LineMapping) :
    lineWidth ((shownNumbers lines).map (rowAt lines mappings)) = widestLine lines mappings := by
  rw [lineWidth, mapped_map_rowAt, List.map_map]
  rfl

theorem labelWidth_map_rowAt (lines : List (List Char)) (mappings : List SourceMap.LineMapping) :
    labelWidth ((shownNumbers lines).map (rowAt lines mappings)) = widestLabel lines mappings := by
  rw [labelWidth, mapped_map_rowAt, List.map_map]
  rfl

section

variable {generated source text : String} {mappings : List SourceMap.LineMapping}

/-- Annotated code is joined from the rows of the shown lines. -/
theorem render?_eq_some_iff :
    render? generated source mappings = some text ↔
      ∃ written : List (List Char),
        (shownNumbers (Text.lines generated)).map
            (fun number => (rowAt (Text.lines generated) mappings number).write? (Text.lines source)
              (widestLine (Text.lines generated) mappings)
              (widestLabel (Text.lines generated) mappings)) =
          written.map some ∧
        Text.ofLines written = text := by
  simp only [render?, rows_originTable, lineWidth_map_rowAt, labelWidth_map_rowAt,
    Option.bind_eq_bind, Option.bind_eq_some_iff,
    Option.pure_def, Option.some.injEq, mapM_eq_some_iff, List.map_map]
  rfl

/-- Annotated code has the written rows as its lines. -/
theorem render?_lines
    (long : 2 ≤ (Text.lines generated).length)
    (rendered : render? generated source mappings = some text) :
    (shownNumbers (Text.lines generated)).map
        (fun number => (rowAt (Text.lines generated) mappings number).write? (Text.lines source)
          (widestLine (Text.lines generated) mappings)
          (widestLabel (Text.lines generated) mappings)) =
      (Text.lines text).map some := by
  obtain ⟨written, each, rfl⟩ := render?_eq_some_iff.mp rendered
  have nonempty : written ≠ [] := by
    intro empty
    have count := congrArg List.length each
    simp only [empty, List.length_map, shownNumbers, List.length_range', List.length_nil] at count
    omega
  have free : ∀ piece ∈ written, '\n' ∉ piece := by
    intro piece inside
    have listed : some piece ∈ written.map some := List.mem_map_of_mem inside
    rw [← each] at listed
    obtain ⟨number, _, wrote⟩ := List.mem_map.mp listed
    exact newline_not_mem_write? newline_not_mem_lineAt wrote
  rw [Text.lines_ofLines nonempty free]
  exact each

end

end MappedCoverage.Annotated
