import MappedCoverage.Proofs.Path.Order
import MappedCoverage.Proofs.Text.Pieces

/-!
# Spellings of paths

A path may be spelled with doubled separators, with components `.` behind separators and with a
separator at its end. Texts have the same components exactly when they differ in nothing else, so a
leading `.` and every `..` tell paths apart.
-/

namespace MappedCoverage.Path

/-- Texts that spell the same path. -/
inductive Respelled : String → String → Prop where
  | doubled (before after : String) : Respelled (before ++ "//" ++ after) (before ++ "/" ++ after)
  | dotted (before after : String) : Respelled (before ++ "/./" ++ after) (before ++ "/" ++ after)
  | closed {path : String} (nonempty : path ≠ "") : Respelled (path ++ "/") path
  | refl (path : String) : Respelled path path
  | symm {a b : String} : Respelled a b → Respelled b a
  | trans {a b c : String} : Respelled a b → Respelled b c → Respelled a c

/-! ## Components by pieces -/

/-- The component that the first piece makes; it depends on whether a separator follows. -/
def leading (first : List Char) (rest : List (List Char)) : List Component :=
  if first = [] then (if rest = [] then [] else [.root])
  else if first = ['.'] then [.current]
  else (Component.ofPiece? first).toList

/-- It matters only whether a separator follows the first piece, and that only if it is empty. -/
theorem leading_congr {first : List Char} {rest other : List (List Char)}
    (same : first = [] → (rest = [] ↔ other = [])) : leading first rest = leading first other := by
  unfold leading
  by_cases start : first = []
  · simp only [same start]
  · rw [if_neg start, if_neg start]

/-- The pieces that make no component. -/
theorem ofPiece?_eq_none_iff {piece : List Char} :
    Component.ofPiece? piece = none ↔ piece = [] ∨ piece = ['.'] := by
  unfold Component.ofPiece?
  split
  · simp [*]
  · split <;> simp [*]

theorem exists_pieces (path : String) :
    ∃ first rest, Text.split '/' path.toList = first :: rest ∧ '/' ∉ first ∧
      path.toList = first ++ rest.flatMap ('/' :: ·) := by
  cases pieces : Text.split '/' path.toList with
  | nil => exact absurd pieces (Text.split_ne_nil _ _)
  | cons first rest =>
      refine ⟨first, rest, rfl, fun inside => ?_, ?_⟩
      · have listed : first ∈ Text.split '/' path.toList := pieces ▸ List.mem_cons_self
        exact (Text.mem_of_mem_split listed inside).2 rfl
      · rw [← Text.join_cons, ← pieces, Text.join_split]

theorem components_of_pieces {path : String} {first : List Char} {rest : List (List Char)}
    (pieces : Text.split '/' path.toList = first :: rest) :
    components path = leading first rest ++ rest.filterMap Component.ofPiece? := by
  obtain ⟨first', rest', pieces', free, text⟩ := exists_pieces path
  obtain ⟨rfl, rfl⟩ := List.cons.inj (pieces.symm.trans pieces')
  rw [components, isAbsolute, text, ← text, pieces]
  cases first with
  | nil =>
      have dropped : Component.ofPiece? [] = none := rfl
      rw [List.filterMap_cons_none dropped, leading, if_pos rfl]
      cases rest <;> simp [text]
  | cons c others =>
      have relative : ¬ (path.toList.head? = some '/') := by
        rw [text, List.cons_append, List.head?_cons, Option.some.injEq]
        rintro rfl
        exact free List.mem_cons_self
      rw [leading, if_neg (List.cons_ne_nil c others), if_neg (by simpa using relative),
        List.head?_cons]
      by_cases current : c :: others = ['.']
      · rw [current]
        rfl
      · rw [if_neg (by simpa using current), if_neg current, List.filterMap_cons]
        cases Component.ofPiece? (c :: others) <;> rfl

/-- What stands behind a separator matters only by the components that it makes. -/
theorem components_append_congr {before one other : String}
    (same : (Text.split '/' one.toList).filterMap Component.ofPiece? =
      (Text.split '/' other.toList).filterMap Component.ofPiece?) :
    components (before ++ "/" ++ one) = components (before ++ "/" ++ other) := by
  obtain ⟨first, rest, pieces, _⟩ := exists_pieces before
  have behind (after : String) : Text.split '/' (before ++ "/" ++ after).toList =
      first :: (rest ++ Text.split '/' after.toList) := by
    have cut := Text.split_append_cons '/' before.toList after.toList
    rw [pieces, List.cons_append] at cut
    rw [← cut]
    simp
  have follows : leading first (rest ++ Text.split '/' one.toList) =
      leading first (rest ++ Text.split '/' other.toList) :=
    leading_congr fun _ => by simp [Text.split_ne_nil]
  rw [components_of_pieces (behind one), components_of_pieces (behind other), follows,
    List.filterMap_append, List.filterMap_append, same]

theorem components_closed {path : String} (nonempty : path ≠ "") :
    components (path ++ "/") = components path := by
  obtain ⟨first, rest, pieces, _, text⟩ := exists_pieces path
  have closed : Text.split '/' (path ++ "/").toList = first :: (rest ++ [[]]) := by
    have cut := Text.split_append_cons '/' path.toList []
    rw [pieces, List.cons_append] at cut
    rw [← Text.split_nil '/', ← cut]
    simp
  have follows : leading first (rest ++ [[]]) = leading first rest := by
    apply leading_congr
    rintro rfl
    have more : rest ≠ [] := by
      rintro rfl
      exact nonempty (String.toList_eq_nil_iff.mp text)
    simp [more]
  rw [components_of_pieces pieces, components_of_pieces closed, follows, List.filterMap_append]
  simp [Component.ofPiece?]

/-- Respelling keeps components. -/
theorem Respelled.components_eq {a b : String} (respelled : Respelled a b) :
    components a = components b := by
  induction respelled with
  | doubled before after =>
      have cut : before ++ "//" ++ after = before ++ "/" ++ ("/" ++ after) := by
        rw [← String.toList_inj]
        simp
      rw [cut]
      apply components_append_congr
      rw [String.toList_append, show "/".toList = ['/'] from rfl, List.singleton_append,
        Text.split_cons, if_pos rfl]
      rfl
  | dotted before after =>
      have cut : before ++ "/./" ++ after = before ++ "/" ++ ("./" ++ after) := by
        rw [← String.toList_inj]
        simp
      rw [cut]
      apply components_append_congr
      have pieces : Text.split '/' ("./" ++ after).toList =
          ['.'] :: Text.split '/' after.toList := by
        have apart := Text.split_append_cons '/' ['.'] after.toList
        rw [String.toList_append]
        exact apart
      rw [pieces]
      rfl
  | closed nonempty => exact components_closed nonempty
  | refl path => rfl
  | symm _ ih => exact ih.symm
  | trans _ _ first second => exact first.trans second

/-! ## The shortest spelling -/

/-- Pieces, each behind a separator. -/
def below (pieces : List (List Char)) : String :=
  String.ofList (pieces.flatMap ('/' :: ·))

/-- The piece that makes a component. -/
def Component.piece : Component → List Char
  | .root => []
  | .current => ['.']
  | .parent => ['.', '.']
  | .name text => text.toList

/-- The shortest text with given components. -/
def spelling : List Component → String
  | [] => ""
  | [.root] => "/"
  | first :: rest => String.ofList first.piece ++ below (rest.map Component.piece)

theorem piece_of_ofPiece? {piece : List Char} {component : Component}
    (made : Component.ofPiece? piece = some component) :
    component.piece = piece ∧ component ≠ .root := by
  rw [Component.ofPiece?, Option.ite_none_left_eq_some] at made
  obtain ⟨_, made⟩ := made
  split at made
  · next dots =>
      obtain rfl := Option.some.inj made
      exact ⟨dots.symm, nofun⟩
  · obtain rfl := Option.some.inj made
    exact ⟨String.toList_ofList, nofun⟩

@[simp] theorem below_nil : below [] = "" := rfl

theorem below_cons (piece : List Char) (rest : List (List Char)) :
    below (piece :: rest) = "/" ++ String.ofList piece ++ below rest := by
  rw [← String.toList_inj]
  simp [below]

theorem below_append (base : String) (piece : List Char) (rest : List (List Char)) :
    base ++ below (piece :: rest) = base ++ "/" ++ String.ofList piece ++ below rest := by
  rw [below_cons, ← String.append_assoc, ← String.append_assoc]

/-- A piece that makes no component can be left out behind a text. -/
theorem respelled_without {base : String} (nonempty : base ≠ "") {piece : List Char}
    (dropped : Component.ofPiece? piece = none) (rest : List (List Char)) :
    Respelled (base ++ below (piece :: rest)) (base ++ below rest) := by
  cases rest with
  | nil =>
      rw [below_append, below_nil, String.append_empty, String.append_empty]
      rcases ofPiece?_eq_none_iff.mp dropped with rfl | rfl
      · rw [String.ofList_nil, String.append_empty]
        exact .closed nonempty
      · have longer : base ++ "/" ++ String.ofList ['.'] ≠ "" := by
          simp [String.append_eq_empty_iff]
        have dotted : Respelled (base ++ "/" ++ String.ofList ['.'] ++ "/") (base ++ "/") := by
          simpa [String.append_assoc] using Respelled.dotted base ""
        exact (Respelled.closed longer).symm.trans (dotted.trans (.closed nonempty))
  | cons next others =>
      rw [below_append, below_cons]
      rcases ofPiece?_eq_none_iff.mp dropped with rfl | rfl
      · have doubled := Respelled.doubled base (String.ofList next ++ below others)
        rw [show "//" = "/" ++ "/" from rfl] at doubled
        simpa only [String.append_assoc, String.ofList_nil, String.empty_append] using doubled
      · have dotted := Respelled.dotted base (String.ofList next ++ below others)
        rw [show "/./" = "/" ++ (String.ofList ['.'] ++ "/") from rfl] at dotted
        simpa only [String.append_assoc] using dotted

/-- Behind a text only the pieces that make components count. -/
theorem respelled_below {base : String} (nonempty : base ≠ "") (pieces : List (List Char)) :
    Respelled (base ++ below pieces)
      (base ++ below ((pieces.filterMap Component.ofPiece?).map Component.piece)) := by
  induction pieces generalizing base with
  | nil => exact .refl _
  | cons piece rest ih =>
      cases made : Component.ofPiece? piece with
      | none =>
          rw [List.filterMap_cons_none made]
          exact (respelled_without nonempty made rest).trans (ih nonempty)
      | some component =>
          have longer : base ++ "/" ++ String.ofList piece ≠ "" := by
            simp [String.append_eq_empty_iff]
          rw [List.filterMap_cons_some made, List.map_cons, (piece_of_ofPiece? made).1,
            below_append, below_append]
          exact ih longer

/-- Behind the root, too, only the pieces that make components count. -/
theorem respelled_root {pieces : List (List Char)} (more : pieces ≠ []) :
    Respelled (below pieces) (spelling (.root :: pieces.filterMap Component.ofPiece?)) := by
  induction pieces with
  | nil => exact absurd rfl more
  | cons piece rest ih =>
      cases made : Component.ofPiece? piece with
      | some component =>
          have longer : "/" ++ String.ofList piece ≠ "" := by simp [String.append_eq_empty_iff]
          have shorter : spelling (.root :: component :: rest.filterMap Component.ofPiece?) =
              "/" ++ String.ofList piece ++
                below ((rest.filterMap Component.ofPiece?).map Component.piece) := by
            rw [← (piece_of_ofPiece? made).1, ← below_cons]
            exact String.empty_append
          rw [List.filterMap_cons_some made, shorter, below_cons]
          exact respelled_below longer rest
      | none =>
          rw [List.filterMap_cons_none made]
          cases rest with
          | nil =>
              rcases ofPiece?_eq_none_iff.mp made with rfl | rfl
              · exact .refl _
              · have closed : Respelled ("/." ++ "/") "/." := .closed (by decide)
                exact closed.symm.trans (Respelled.dotted "" "")
          | cons next others =>
              refine Respelled.trans ?_ (ih (List.cons_ne_nil _ _))
              have behind : below (next :: others) =
                  "" ++ "/" ++ (String.ofList next ++ below others) := by
                rw [below_cons, String.empty_append, String.append_assoc]
              rw [below_cons, behind]
              rcases ofPiece?_eq_none_iff.mp made with rfl | rfl
              · exact Respelled.doubled "" (String.ofList next ++ below others)
              · exact Respelled.dotted "" (String.ofList next ++ below others)

/-- Every path spells the shortest text with its components. -/
theorem respelled_spelling (path : String) : Respelled path (spelling (components path)) := by
  obtain ⟨first, rest, pieces, _, text⟩ := exists_pieces path
  have cut : path = String.ofList first ++ below rest := by
    rw [← String.toList_inj, text]
    simp [below]
  rw [components_of_pieces pieces, leading]
  by_cases start : first = []
  · subst start
    rw [if_pos rfl, cut, String.ofList_nil, String.empty_append]
    by_cases more : rest = []
    · subst more
      exact .refl _
    · rw [if_neg more]
      exact respelled_root more
  · have nonempty : String.ofList first ≠ "" := by
      rwa [Ne, ← String.toList_eq_nil_iff, String.toList_ofList]
    have leads : ∃ component, component ≠ .root ∧ component.piece = first ∧
        (if first = ['.'] then [.current] else (Component.ofPiece? first).toList) = [component] := by
      by_cases current : first = ['.']
      · exact ⟨.current, nofun, current.symm, if_pos current⟩
      · cases made : Component.ofPiece? first with
        | none => exact absurd (ofPiece?_eq_none_iff.mp made) (by simp [start, current])
        | some component =>
            obtain ⟨same, other⟩ := piece_of_ofPiece? made
            exact ⟨component, other, same, by rw [if_neg current, Option.toList_some]⟩
    obtain ⟨component, other, same, made⟩ := leads
    have shorter : spelling (component :: rest.filterMap Component.ofPiece?) =
        String.ofList first ++ below ((rest.filterMap Component.ofPiece?).map Component.piece) := by
      rw [← same]
      cases component with
      | root => exact absurd rfl other
      | current => rfl
      | parent => rfl
      | name text => rfl
    rw [if_neg start, made, List.singleton_append, shorter, cut]
    exact respelled_below nonempty rest

/-- Paths are the same exactly when they are spelled from one another. -/
theorem same_iff_respelled {a b : String} : same a b = true ↔ Respelled a b := by
  rw [same_iff]
  constructor
  · intro components
    have toSecond := respelled_spelling b
    rw [← components] at toSecond
    exact (respelled_spelling a).trans toSecond.symm
  · exact Respelled.components_eq

/-! ## First spellings -/

/-- A path is new behind others when none of them has its components. -/
theorem distinct_append_singleton (paths : List String) (path : String) :
    distinct (paths ++ [path]) =
      if paths.any (same path) then distinct paths else distinct paths ++ [path] := by
  induction paths with
  | nil => rfl
  | cons first rest ih =>
      rw [List.cons_append, distinct, ih, List.any_cons, distinct]
      by_cases listed : rest.any (same path) = true
      · rw [if_pos listed, if_pos (by simp [listed])]
      · rw [if_neg listed, List.filter_append]
        by_cases own : same path first = true
        · have swapped : same first path = true := same_iff.mpr (same_iff.mp own).symm
          rw [if_pos (by simp [own])]
          simp [swapped]
        · have swapped : same first path = false := by
            rw [Bool.eq_false_iff, Ne, same_iff]
            exact fun equal => own (same_iff.mpr equal.symm)
          rw [if_neg (by simp [own, listed])]
          simp [swapped]

end MappedCoverage.Path
