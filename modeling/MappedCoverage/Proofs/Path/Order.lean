import MappedCoverage.Path

/-!
# The order of paths

Components are ordered by kind and then by name, and paths by their components, the first difference
deciding. This order is total and transitive, and paths are equal in it exactly when they have the
same components.
-/

namespace MappedCoverage.Path

/-! ## Components -/

theorem Component.compare_eq_compareLex :
    Component.compare = compareLex (compareOn Component.rank) (compareOn Component.label) :=
  rfl

instance : Std.TransCmp Component.compare := by
  rw [Component.compare_eq_compareLex]
  infer_instance

theorem Component.compare_eq_eq_iff {a b : Component} : a.compare b = .eq ↔ a = b := by
  rw [Component.compare, Ordering.then_eq_eq, Std.LawfulEqOrd.compare_eq_iff_eq,
    Std.LawfulEqOrd.compare_eq_iff_eq]
  cases a <;> cases b <;> simp [Component.rank, Component.label]

instance : Std.LawfulEqCmp Component.compare where
  compare_self := Component.compare_eq_eq_iff.mpr rfl
  eq_of_compare := Component.compare_eq_eq_iff.mp

/-! ## Lists of components -/

theorem compareComponents_eq_compareLex :
    compareComponents = List.compareLex Component.compare := by
  funext first second
  induction first generalizing second with
  | nil => cases second <;> rfl
  | cons a rest ih =>
      cases second with
      | nil => rfl
      | cons b others =>
          rw [compareComponents, ih, List.compareLex_cons_cons]

instance : Std.TransCmp compareComponents := by
  rw [compareComponents_eq_compareLex]
  infer_instance

/-- Lists of components are equal in their order exactly when they are equal. -/
theorem compareComponents_eq_eq_iff {first second : List Component} :
    compareComponents first second = .eq ↔ first = second := by
  rw [compareComponents_eq_compareLex]
  exact Std.LawfulEqCmp.compare_eq_iff_eq

theorem same_iff {a b : String} : same a b = true ↔ components a = components b :=
  decide_eq_true_iff

end MappedCoverage.Path
