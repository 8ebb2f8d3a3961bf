import MappedCoverage.Proofs.Path.Spellings
import MappedCoverage.Proofs.Store.Paths

/-!
# Stores after writes

A store that was written to, file after file, has for every path the text that was written last
under any spelling of it, and lists each file once, in the order of paths, as it was spelled first.
-/

namespace MappedCoverage.Store

/-- The text that was written last for a path. -/
def lastText? (writes : List (String × String)) (path : String) : Option String :=
  ((writes.filter fun write => Path.same path write.1).getLast?).map (·.2)

theorem lastText?_append_singleton (writes : List (String × String)) (file text path : String) :
    lastText? (writes ++ [(file, text)]) path =
      if Path.same path file then some text else lastText? writes path := by
  rw [lastText?, List.filter_append]
  cases own : Path.same path file with
  | true => simp [own]
  | false => simp [own, lastText?]

/-- Something was written last exactly when something was written. -/
theorem isSome_lastText? (writes : List (String × String)) (path : String) :
    (lastText? writes path).isSome = writes.any fun write => Path.same path write.1 := by
  rw [lastText?, Option.isSome_map, Bool.eq_iff_iff, List.getLast?_isSome]
  simp [List.filter_eq_nil_iff]

/-- A store holds what was written, in this order. -/
structure Holds (store : Store) (writes : List (String × String)) : Prop where
  sorted : Sorted.IsSorted order store.entries
  texts : ∀ path, store.get? path = lastText? writes path
  spellings : store.files.Perm (Path.distinct (writes.map (·.1)))

variable {store : Store} {writes : List (String × String)}

theorem holds_empty : Holds .empty [] where
  sorted := Sorted.isSorted_nil
  texts := fun _ => rfl
  spellings := List.Perm.refl _

/-- One more write: a new file is listed under its spelling, a known one keeps the old spelling. -/
theorem Holds.set (holds : store.Holds writes) (file text : String) :
    (store.set file text).Holds (writes ++ [(file, text)]) where
  sorted := holds.sorted.insert file text
  texts := by
    intro path
    rw [get?_set, holds.texts, lastText?_append_singleton]
  spellings := by
    have known : (store.get? file).isSome = (writes.map (·.1)).any (Path.same file) := by
      rw [holds.texts, isSome_lastText?, List.any_map]
      rfl
    rw [List.map_append, List.map_singleton, Path.distinct_append_singleton, ← known]
    cases found : store.get? file with
    | some old =>
        have kept : (store.set file text).files = store.files :=
          Sorted.map_fst_insert_of_some found text
        rw [kept]
        exact holds.spellings
    | none =>
        have added : (store.set file text).files.Perm (file :: store.files) :=
          Sorted.map_fst_insert_of_none found text
        exact (added.trans (holds.spellings.cons file)).trans (List.perm_append_singleton _ _).symm

theorem Holds.contains_eq (holds : store.Holds writes) (path : String) :
    store.contains path = writes.any fun write => Path.same path write.1 := by
  rw [contains, holds.texts, isSome_lastText?]

/-- The files stand in the order of paths, so no path is listed in two spellings. -/
theorem Holds.files_ordered (holds : store.Holds writes) :
    store.files.Pairwise fun first second => order first second = .lt :=
  List.pairwise_map.mpr holds.sorted

theorem Holds.size_eq (holds : store.Holds writes) :
    store.size = (Path.distinct (writes.map (·.1))).length := by
  rw [← holds.spellings.length_eq, files, List.length_map]
  rfl

end MappedCoverage.Store
