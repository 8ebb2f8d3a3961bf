import MappedCoverage.Proofs.Annotated.Alignment

/-!
# The layout of annotated code

Annotated code is laid out line by line: a shown line that no mapping names stands as it is, any
other stands beside its label and its source text, in columns that the widest of these lines and
labels decide. This fails exactly when a line is mapped and a column would be too wide. Only the
mappings of shown lines count, and of these only the first that relates a line to a source line.
-/

namespace MappedCoverage.Annotated

/-! ## Labels -/

/-- The wording of the label of source lines. -/
def caption (origins : List Nat) : String :=
  (if origins.length = 1 then "Line: " else "Lines: ") ++ ",".intercalate (origins.map toString)

theorem toList_toString (line : Nat) : (toString line).toList = lineText line :=
  String.toList_ofList

theorem toList_intercalate_toString (origins : List Nat) :
    (",".intercalate (origins.map toString)).toList = Text.join ',' (origins.map lineText) := by
  rw [String.toList_intercalate, List.map_map]
  have digits : String.toList ∘ toString = lineText := funext toList_toString
  rw [digits]
  rfl

theorem label_eq_caption (origins : List Nat) : label origins = (caption origins).toList := by
  rw [caption, String.toList_append, toList_intercalate_toString]
  unfold label
  split
  · next origin =>
      rw [List.map_singleton, if_pos List.length_singleton]
      simp only [Text.join, List.intercalate_singleton]
  · next several =>
      have count : origins.length ≠ 1 := fun one =>
        (List.length_eq_one_iff.mp one).elim several
      rw [if_neg count]

/-! ## Rows -/

/-- A shown line between columns as wide as the widest mapped line and label. -/
def shownRow (lines sources : List (List Char)) (mappings : List SourceMap.LineMapping)
    (number : Nat) : List Char :=
  let origins := originsOf number mappings
  if origins = [] then lineAt lines number
  else
    (lineAt lines number).rightpad (widestLine lines mappings + 3) ' '
      ++ (label origins).rightpad (widestLabel lines mappings + 1) ' '
      ++ ['|', ' '] ++ origins.flatMap (lineAt sources)

/-- Generated code as it is shown beside its source. -/
def layout (generated source : String) (mappings : List SourceMap.LineMapping) : String :=
  Text.ofLines ((shownNumbers (Text.lines generated)).map
    (shownRow (Text.lines generated) (Text.lines source) mappings))

/-- No line is mapped, or the columns are not too wide. -/
def Fits (lines : List (List Char)) (mappings : List SourceMap.LineMapping) : Prop :=
  mappedNumbers lines mappings = [] ∨
    widestLine lines mappings + 3 ≤ widthLimit ∧ widestLabel lines mappings + 1 ≤ widthLimit

instance (lines : List (List Char)) (mappings : List SourceMap.LineMapping) :
    Decidable (Fits lines mappings) :=
  inferInstanceAs (Decidable (_ ∨ _))

variable {lines sources : List (List Char)} {mappings : List SourceMap.LineMapping} {number : Nat}

/-- A mapped line is written exactly when both columns are narrow enough. -/
theorem write?_rowAt_eq_some_iff {shown : List Char} :
    (rowAt lines mappings number).write? sources (widestLine lines mappings)
        (widestLabel lines mappings) = some shown ↔
      (originsOf number mappings ≠ [] →
        widestLine lines mappings + 3 ≤ widthLimit ∧ widestLabel lines mappings + 1 ≤ widthLimit) ∧
      shownRow lines sources mappings number = shown := by
  unfold Row.write? rowAt shownRow
  cases origins : originsOf number mappings with
  | nil => simp
  | cons origin others =>
      simp only [Option.bind_eq_bind, Option.bind_eq_some_iff, padRight?_eq_some_iff,
        Option.pure_def, Option.some.injEq, List.rightpad, List.flatMap]
      constructor
      · rintro ⟨_, ⟨lineFits, rfl⟩, _, ⟨labelFits, rfl⟩, rfl⟩
        exact ⟨fun _ => ⟨lineFits, labelFits⟩, by simp⟩
      · rintro ⟨fits, rfl⟩
        obtain ⟨lineFits, labelFits⟩ := fits (List.cons_ne_nil _ _)
        exact ⟨_, ⟨lineFits, rfl⟩, _, ⟨labelFits, rfl⟩, by simp⟩

theorem fits_iff :
    Fits lines mappings ↔ ∀ number ∈ shownNumbers lines, originsOf number mappings ≠ [] →
      widestLine lines mappings + 3 ≤ widthLimit ∧ widestLabel lines mappings + 1 ≤ widthLimit := by
  constructor
  · rintro (unmapped | narrow) number inside mapped
    · have listed : number ∈ mappedNumbers lines mappings :=
        mem_mappedNumbers.mpr ⟨mem_shownNumbers.mp inside, mapped⟩
      rw [unmapped] at listed
      cases listed
    · exact narrow
  · intro narrow
    cases named : mappedNumbers lines mappings with
    | nil => exact Or.inl named
    | cons number others =>
        have listed : number ∈ mappedNumbers lines mappings := named ▸ List.mem_cons_self
        obtain ⟨shown, mapped⟩ := mem_mappedNumbers.mp listed
        exact Or.inr (narrow number (mem_shownNumbers.mpr shown) mapped)

/-- A list is answered item by item when each item is, with the answers of a function. -/
theorem map_eq_map_some_iff {α β : Type} {step : α → Option β} {answer : α → β} {admits : α → Prop}
    (each : ∀ item result, step item = some result ↔ admits item ∧ answer item = result)
    {items : List α} {results : List β} :
    items.map step = results.map some ↔
      (∀ item ∈ items, admits item) ∧ items.map answer = results := by
  induction items generalizing results with
  | nil => cases results <;> simp
  | cons item rest ih =>
      cases results with
      | nil => simp
      | cons result results =>
          simp only [List.map_cons, List.cons.injEq, ih, each, List.forall_mem_cons]
          exact ⟨fun ⟨⟨a, b⟩, c, d⟩ => ⟨⟨a, c⟩, b, d⟩, fun ⟨⟨a, c⟩, b, d⟩ => ⟨⟨a, b⟩, c, d⟩⟩

/-- Generated code is shown as it is laid out, unless a column would be too wide. -/
theorem render?_eq_ite (generated source : String) (mappings : List SourceMap.LineMapping) :
    render? generated source mappings =
      if Fits (Text.lines generated) mappings then some (layout generated source mappings)
      else none := by
  apply Option.ext
  intro text
  rw [Option.ite_none_right_eq_some, Option.some.injEq, render?_eq_some_iff, fits_iff]
  simp only [map_eq_map_some_iff fun number shown => write?_rowAt_eq_some_iff]
  constructor
  · rintro ⟨_, ⟨fits, rfl⟩, rfl⟩
    exact ⟨fits, rfl⟩
  · rintro ⟨fits, rfl⟩
    exact ⟨_, ⟨fits, rfl⟩, rfl⟩

/-! ## Mappings of the same lines -/

/-- Two lists of mappings relate every shown line to the same source lines. -/
def Agree (lines : List (List Char)) (first second : List SourceMap.LineMapping) : Prop :=
  ∀ number ∈ shownNumbers lines, originsOf number first = originsOf number second

section

variable {first second : List SourceMap.LineMapping}

theorem Agree.mappedNumbers_eq (agree : Agree lines first second) :
    mappedNumbers lines first = mappedNumbers lines second := by
  have named (mappings : List SourceMap.LineMapping) : mappedNumbers lines mappings =
      (shownNumbers lines).filter fun number => originsOf number mappings ≠ [] := by
    apply List.filter_congr
    intro number _
    rw [Bool.eq_iff_iff]
    simp [originsOf_eq_nil_iff]
  rw [named, named]
  apply List.filter_congr
  intro number shown
  rw [agree number shown]

theorem Agree.widestLine_eq (agree : Agree lines first second) :
    widestLine lines first = widestLine lines second := by
  rw [widestLine, widestLine, agree.mappedNumbers_eq]

theorem Agree.widestLabel_eq (agree : Agree lines first second) :
    widestLabel lines first = widestLabel lines second := by
  rw [widestLabel, widestLabel, agree.mappedNumbers_eq]
  congr 1
  apply List.map_congr_left
  intro number listed
  rw [agree number (List.mem_filter.mp listed).1]

theorem Agree.shownRow_eq (agree : Agree lines first second)
    (shown : number ∈ shownNumbers lines) :
    shownRow lines sources first number = shownRow lines sources second number := by
  rw [shownRow, shownRow, agree number shown, agree.widestLine_eq, agree.widestLabel_eq]

theorem lineAt_dropLast (inside : number < lines.length) :
    lineAt lines.dropLast number = lineAt lines number := by
  cases number with
  | zero => rfl
  | succ index => rw [lineAt, lineAt, List.getElem?_dropLast, if_pos (by omega)]

/-- Texts that differ in the last line only are shown alike by mappings of the same lines. -/
theorem Agree.render?_eq {generated other : String}
    (agree : Agree (Text.lines generated) first second)
    (code : (Text.lines generated).dropLast = (Text.lines other).dropLast) (source : String) :
    render? generated source first = render? other source second := by
  have numbers : shownNumbers (Text.lines generated) = shownNumbers (Text.lines other) := by
    rw [shownNumbers, shownNumbers, ← List.length_dropLast, code, List.length_dropLast]
  have rows : (shownNumbers (Text.lines generated)).map (rowAt (Text.lines generated) first) =
      (shownNumbers (Text.lines other)).map (rowAt (Text.lines other) second) := by
    rw [← numbers]
    apply List.map_congr_left
    intro number shown
    have inside := (mem_shownNumbers.mp shown).2
    have insideOther := (mem_shownNumbers.mp (numbers ▸ shown)).2
    rw [rowAt, rowAt, agree number shown, ← lineAt_dropLast inside, code,
      lineAt_dropLast insideOther]
  simp only [render?, rows_originTable, rows]

end

/-! ## Mappings without effect -/

/-- A mapping that has no effect behind others: it is not of a shown line, or one of the others
relates the same two lines. -/
def Idle (lines : List (List Char)) (before : List SourceMap.LineMapping)
    (mapping : SourceMap.LineMapping) : Prop :=
  mapping.generatedLine = 0 ∨ lines.length ≤ mapping.generatedLine ∨
    ∃ earlier ∈ before, earlier.generatedLine = mapping.generatedLine ∧
      earlier.sourceLine = mapping.sourceLine

/-- Idle mappings can be left out. -/
theorem Idle.agree {before : List SourceMap.LineMapping} {mapping : SourceMap.LineMapping}
    (idle : Idle lines before mapping) (after : List SourceMap.LineMapping) :
    Agree lines (before ++ after) (before ++ mapping :: after) := by
  intro number shown
  obtain ⟨first, last⟩ := mem_shownNumbers.mp shown
  by_cases own : mapping.generatedLine = number
  · obtain ⟨earlier, inside, sameLine, sameSource⟩ :
        ∃ earlier ∈ before, earlier.generatedLine = mapping.generatedLine ∧
          earlier.sourceLine = mapping.sourceLine := by
      rcases idle with zero | beyond | repeated
      · omega
      · omega
      · exact repeated
    have known : mapping.sourceLine ∈
        (before.filter (·.generatedLine = number)).map (·.sourceLine) := by
      rw [← sameSource]
      refine List.mem_map_of_mem (List.mem_filter.mpr ⟨inside, ?_⟩)
      simp [sameLine, own]
    simp only [originsOf, List.filter_append, List.map_append, List.eraseDups_append]
    rw [List.filter_cons_of_pos (by simp [own]), List.map_cons, List.cons_removeAll,
      if_neg (Bool.not_eq_false _ ▸ List.contains_iff_mem.mpr known)]
  · rw [originsOf, originsOf, List.filter_append, List.filter_append,
      List.filter_cons_of_neg (by simpa using own)]

/--
Generated code that is shown is shown as it is laid out: each shown line with the source lines of
its mappings, labelled by their numbers. A mapping of no shown line and a mapping that relates two
lines again can be left out: rows, widths and text stay as they are.
-/
theorem render?_laid_out (generated source : String) (mappings : List SourceMap.LineMapping) :
    (∀ text, render? generated source mappings = some text →
        text = layout generated source mappings) ∧
      (∀ origins, label origins = (caption origins).toList) ∧
      ∀ before mapping after, mappings = before ++ mapping :: after →
        Idle (Text.lines generated) before mapping →
          (∀ number ∈ shownNumbers (Text.lines generated),
            shownRow (Text.lines generated) (Text.lines source) (before ++ after) number =
              shownRow (Text.lines generated) (Text.lines source) mappings number) ∧
          widestLine (Text.lines generated) (before ++ after) =
            widestLine (Text.lines generated) mappings ∧
          widestLabel (Text.lines generated) (before ++ after) =
            widestLabel (Text.lines generated) mappings ∧
          render? generated source (before ++ after) = render? generated source mappings := by
  refine ⟨?_, label_eq_caption, ?_⟩
  · intro text rendered
    rw [render?_eq_ite, Option.ite_none_right_eq_some, Option.some.injEq] at rendered
    exact rendered.2.symm
  · rintro before mapping after rfl idle
    have agree := idle.agree after
    exact ⟨fun number shown => agree.shownRow_eq shown, agree.widestLine_eq,
      agree.widestLabel_eq, agree.render?_eq rfl source⟩

/-- Three mappings out of order, one that repeats the second, and one of the line that is
dropped. -/
theorem render?_laid_out_repeat :
    let mappings : List SourceMap.LineMapping :=
      [⟨3, 2, 0⟩, ⟨1, 2, 0⟩, ⟨1, 1, 0⟩, ⟨1, 2, 1⟩, ⟨4, 1, 0⟩]
    let text := "let é;   Lines: 2,1 | twoone\nb\nc        Line: 2    | two"
    render? "let é;\nb\nc\n" "one\ntwo" mappings = some text ∧
      text = layout "let é;\nb\nc\n" "one\ntwo" mappings ∧
      Idle (Text.lines "let é;\nb\nc\n") [⟨3, 2, 0⟩, ⟨1, 2, 0⟩, ⟨1, 1, 0⟩] ⟨1, 2, 1⟩ ∧
      render? "let é;\nb\nc\n" "one\ntwo" [⟨3, 2, 0⟩, ⟨1, 2, 0⟩, ⟨1, 1, 0⟩, ⟨4, 1, 0⟩] =
        some text := by
  intro mappings text
  obtain ⟨laid, _, idle⟩ := render?_laid_out "let é;\nb\nc\n" "one\ntwo" mappings
  have rendered : render? "let é;\nb\nc\n" "one\ntwo" mappings = some text := by decide
  have repeated : Idle (Text.lines "let é;\nb\nc\n") [⟨3, 2, 0⟩, ⟨1, 2, 0⟩, ⟨1, 1, 0⟩]
      ⟨1, 2, 1⟩ := Or.inr (Or.inr ⟨⟨1, 2, 0⟩, by simp, rfl, rfl⟩)
  have left : render? "let é;\nb\nc\n" "one\ntwo" (_ ++ [⟨4, 1, 0⟩]) = _ :=
    (idle _ _ [⟨4, 1, 0⟩] rfl repeated).2.2.2
  exact ⟨rendered, laid text rendered, repeated, left.trans rendered⟩

end MappedCoverage.Annotated
