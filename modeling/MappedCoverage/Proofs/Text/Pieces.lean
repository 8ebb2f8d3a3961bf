import MappedCoverage.Text.Pieces

/-!
# Laws of splitting and joining

Splitting is the library's splitting of lists, so a text joined from pieces without a separator
splits into these pieces again, and what starts the first piece starts the text.
-/

namespace MappedCoverage.Text

theorem split_eq_splitOn (separator : Char) (text : List Char) :
    split separator text = text.splitOn separator := by
  induction text with
  | nil => rfl
  | cons c rest ih =>
      rw [split_cons, List.splitOn_cons_eq_if_modifyHead, ih]
      by_cases same : c = separator
      · simp [same]
      · rw [if_neg same, if_neg (by simpa using same)]
        cases pieces : rest.splitOn separator with
        | nil => exact absurd pieces (List.splitOn_ne_nil _ _)
        | cons piece others => rfl

/-- Splitting undoes joining when no piece holds the separator. -/
theorem split_join
    {separator : Char}
    {pieces : List (List Char)}
    (nonempty : pieces ≠ [])
    (free : ∀ piece ∈ pieces, separator ∉ piece) :
    split separator (join separator pieces) = pieces := by
  rw [split_eq_splitOn]
  exact List.splitOn_intercalate separator free nonempty

theorem join_cons (separator : Char) (first : List Char) (rest : List (List Char)) :
    join separator (first :: rest) = first ++ rest.flatMap (separator :: ·) := by
  induction rest generalizing first with
  | nil => simp [join]
  | cons next rest ih =>
      have shift : join separator (first :: next :: rest) =
          first ++ [separator] ++ join separator (next :: rest) := List.intercalate_cons_cons
      rw [shift, ih, List.flatMap_cons]
      simp

/-- A text of given lines has these lines. -/
theorem lines_ofLines {pieces : List (List Char)} (nonempty : pieces ≠ [])
    (free : ∀ piece ∈ pieces, '\n' ∉ piece) : lines (ofLines pieces) = pieces := by
  rw [lines, ofLines, String.toList_ofList, split_join nonempty free]

/-- A separator ends the pieces in front of it and starts those behind it. -/
theorem split_append_cons (separator : Char) (before after : List Char) :
    split separator (before ++ separator :: after) =
      split separator before ++ split separator after := by
  simp only [split_eq_splitOn]
  exact List.splitOn_append_cons_self before after

/-- What stands in front of a text without a separator belongs to its first piece. -/
theorem split_append_of_not_mem
    {separator : Char}
    {start : List Char}
    (free : separator ∉ start)
    (text : List Char) :
    split separator (start ++ text) = (split separator text).modifyHead (start ++ ·) := by
  induction start with
  | nil =>
      rw [List.nil_append]
      cases split separator text <;> rfl
  | cons c rest ih =>
      obtain ⟨other, others⟩ := not_or.mp (mt List.mem_cons.mpr free)
      rw [List.cons_append, split_cons, if_neg (Ne.symm other), ih others]
      cases pieces : split separator text with
      | nil => exact absurd pieces (split_ne_nil separator text)
      | cons piece pieces => rfl

/-- The first piece reaches up to a separator or the end. -/
theorem exists_first_piece (separator : Char) (text : List Char) :
    ∃ piece rest, text = piece ++ rest ∧ (∀ c ∈ rest.head?, c = separator) ∧
      (split separator text).head? = some piece := by
  induction text with
  | nil => exact ⟨[], [], rfl, nofun, rfl⟩
  | cons c text ih =>
      rw [split_cons]
      split
      case isTrue ends =>
        refine ⟨[], c :: text, rfl, ?_, rfl⟩
        intro d same
        rw [← Option.some.inj same, ends]
      case isFalse =>
        obtain ⟨piece, rest, rfl, ends, first⟩ := ih
        refine ⟨c :: piece, rest, rfl, ends, ?_⟩
        cases pieces : split separator (piece ++ rest) with
        | nil => exact absurd pieces (split_ne_nil _ _)
        | cons own others =>
            rw [pieces] at first
            obtain rfl := Option.some.inj first
            rfl

/-- Pieces hold nothing but characters of the text, and no separator. -/
theorem mem_of_mem_split
    {separator c : Char}
    {text piece : List Char}
    (listed : piece ∈ split separator text)
    (inside : c ∈ piece) :
    c ∈ text ∧ c ≠ separator := by
  induction text generalizing piece with
  | nil =>
      rw [split_nil, List.mem_singleton] at listed
      simp [listed] at inside
  | cons d rest ih =>
      rw [split_cons] at listed
      by_cases ends : d = separator
      · rw [if_pos ends, List.mem_cons] at listed
        rcases listed with rfl | listed
        · cases inside
        · obtain ⟨later, other⟩ := ih listed inside
          exact ⟨List.mem_cons_of_mem d later, other⟩
      · rw [if_neg ends] at listed
        generalize pieces : split separator rest = found at listed ih
        cases found with
        | nil => exact absurd pieces (split_ne_nil separator rest)
        | cons first others =>
            rcases List.mem_cons.mp listed with rfl | listed
            · rcases List.mem_cons.mp inside with rfl | inside
              · exact ⟨List.mem_cons_self, ends⟩
              · obtain ⟨later, other⟩ := ih List.mem_cons_self inside
                exact ⟨List.mem_cons_of_mem d later, other⟩
            · obtain ⟨later, other⟩ := ih (List.mem_cons_of_mem first listed) inside
              exact ⟨List.mem_cons_of_mem d later, other⟩

theorem length_split (separator : Char) (text : List Char) :
    (split separator text).length = text.count separator + 1 := by
  induction text with
  | nil => rfl
  | cons c rest ih =>
      rw [split_cons]
      by_cases ends : c = separator
      · rw [if_pos ends, ends, List.length_cons, ih, List.count_cons_self]
      · rw [if_neg ends, List.count_cons_of_ne ends, ← ih]
        cases pieces : split separator rest with
        | nil => exact absurd pieces (split_ne_nil separator rest)
        | cons piece others => rfl

/-- A text is joined from pieces without a separator exactly if these are its pieces. -/
theorem split_eq_iff {separator : Char} {text : List Char} {pieces : List (List Char)} :
    split separator text = pieces ↔
      pieces ≠ [] ∧ (∀ piece ∈ pieces, separator ∉ piece) ∧ text = join separator pieces := by
  constructor
  · rintro rfl
    refine ⟨split_ne_nil separator text, ?_, (join_split separator text).symm⟩
    intro piece listed inside
    exact (mem_of_mem_split listed inside).2 rfl
  · rintro ⟨nonempty, free, rfl⟩
    exact split_join nonempty free

/-- The first piece is empty exactly if the text starts with a separator. -/
theorem split_eq_nil_cons_iff {separator : Char} {text : List Char} {pieces : List (List Char)}
    (nonempty : pieces ≠ []) :
    split separator text = [] :: pieces ↔
      ∃ rest, text = separator :: rest ∧ split separator rest = pieces := by
  constructor
  · intro cut
    obtain ⟨_, free, rfl⟩ := split_eq_iff.mp cut
    obtain ⟨piece, others, rfl⟩ := List.exists_cons_of_ne_nil nonempty
    refine ⟨_, rfl, split_join nonempty fun piece listed => ?_⟩
    exact free piece (List.mem_cons_of_mem _ listed)
  · rintro ⟨rest, rfl, rfl⟩
    rw [split_cons, if_pos rfl]

/-- The first piece starts with characters other than the separator exactly if the text does. -/
theorem split_eq_append_cons_iff {separator : Char} {start piece text : List Char}
    {pieces : List (List Char)} (free : separator ∉ start) :
    split separator text = (start ++ piece) :: pieces ↔
      ∃ rest, text = start ++ rest ∧ split separator rest = piece :: pieces := by
  constructor
  · intro cut
    obtain ⟨_, others, rfl⟩ := split_eq_iff.mp cut
    refine ⟨join separator (piece :: pieces), ?_, ?_⟩
    · cases pieces <;> simp [join]
    · refine split_join (List.cons_ne_nil _ _) ?_
      rw [List.forall_mem_cons] at others ⊢
      exact ⟨fun inside => others.1 (List.mem_append_right start inside), others.2⟩
  · rintro ⟨rest, rfl, cut⟩
    rw [split_append_of_not_mem free, cut, List.modifyHead_cons]

end MappedCoverage.Text
