import MappedCoverage.Store
import MappedCoverage.Proofs.Path.Order
import MappedCoverage.Proofs.Sorted.Tables

/-!
# Stores and paths

A store answers alike for all spellings of a path: what is written under one of them is found under
every path with the same components, and under no other. A path is listed only under a spelling
that something was written under.
-/

namespace MappedCoverage.Store

instance : Std.TransCmp order :=
  have components : Std.TransCmp Path.compareComponents := inferInstance
  { eq_swap := components.eq_swap
    isLE_trans := components.isLE_trans }

theorem order_eq_eq_iff {a b : String} : order a b = .eq ↔ Path.same a b = true := by
  rw [order, Path.compareComponents_eq_eq_iff, Path.same_iff]

/-- A written text is found under every path with the components of its own. -/
theorem get?_set (store : Store) (file text path : String) :
    (store.set file text).get? path =
      if Path.same path file then some text else store.get? path := by
  rw [get?, set, Sorted.get?_insert]
  simp only [order_eq_eq_iff, get?]

theorem mem_files_of_mem_files_set {store : Store} {file text path : String}
    (listed : path ∈ (store.set file text).files) : path = file ∨ path ∈ store.files := by
  obtain ⟨entry, inside, spelled⟩ := List.mem_map.mp listed
  rw [← spelled]
  exact Sorted.fst_of_mem_insert inside

end MappedCoverage.Store
