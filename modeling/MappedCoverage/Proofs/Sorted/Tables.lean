import MappedCoverage.Sorted

/-!
# Laws of sorted tables

In a transitive order a written value is found under every key that is equal to its own, and no
other key finds anything else than before. Writing keeps a table sorted and invents no key.
-/

namespace MappedCoverage.Sorted

variable {κ α : Type} {order : κ → κ → Ordering}

/-! ## Looking up -/

theorem mem_of_get? {key : κ} {table : List (κ × α)} {value : α}
    (found : get? order key table = some value) : ∃ other, (other, value) ∈ table := by
  induction table with
  | nil => cases found
  | cons entry rest ih =>
      obtain ⟨other, own⟩ := entry
      cases place : order key other with
      | lt => simp [get?, place] at found
      | eq =>
          simp only [get?, place, Option.some.injEq] at found
          exact ⟨other, found ▸ List.mem_cons_self⟩
      | gt =>
          simp only [get?, place] at found
          obtain ⟨later, inside⟩ := ih found
          exact ⟨later, List.mem_cons_of_mem _ inside⟩

/-- A written value is found under the keys that are equal to its own. -/
theorem get?_insert [Std.TransCmp order] (key : κ) (value : α) (table : List (κ × α)) (other : κ) :
    get? order other (insert order key value table) =
      if order other key = .eq then some value else get? order other table := by
  induction table with
  | nil => cases place : order other key <;> simp [get?, place]
  | cons entry rest ih =>
      obtain ⟨first, old⟩ := entry
      -- Where the value is written depends on its key, where the search ends on the other key.
      cases written : order key first with
      | lt =>
          simp only [insert, written]
          cases place : order other key with
          | lt => simp [get?, place, Std.TransCmp.lt_trans place written]
          | eq => simp [get?, place]
          | gt => simp [get?, place]
      | eq =>
          have same : order other key = order other first := Std.TransCmp.congr_right written
          simp only [insert, written, get?, same]
          cases order other first <;> rfl
      | gt =>
          simp only [insert, written, get?, ih]
          cases place : order other key with
          | lt => cases order other first <;> rfl
          | eq =>
              have later : order other first = .gt := by
                rw [← written]
                exact Std.TransCmp.congr_left place
              simp [later]
          | gt => cases order other first <;> rfl

/-! ## Keys -/

/-- What is new in a table has the written value, under its own key or under the spelling of an
equal key. -/
theorem mem_insert {key : κ} {value : α} {table : List (κ × α)} {entry : κ × α}
    (inside : entry ∈ insert order key value table) :
    entry ∈ table ∨ entry.2 = value ∧ (entry.1 = key ∨ entry.1 ∈ table.map (·.1)) := by
  induction table with
  | nil =>
      rw [insert_nil, List.mem_singleton] at inside
      subst inside
      exact Or.inr ⟨rfl, Or.inl rfl⟩
  | cons first rest ih =>
      obtain ⟨other, old⟩ := first
      cases written : order key other with
      | lt =>
          simp only [insert, written, List.mem_cons (a := entry) (b := (key, value))] at inside
          rcases inside with rfl | inside
          · exact Or.inr ⟨rfl, Or.inl rfl⟩
          · exact Or.inl inside
      | eq =>
          simp only [insert, written, List.mem_cons] at inside
          rcases inside with rfl | inside
          · exact Or.inr ⟨rfl, Or.inr List.mem_cons_self⟩
          · exact Or.inl (List.mem_cons_of_mem _ inside)
      | gt =>
          simp only [insert, written, List.mem_cons] at inside
          rcases inside with rfl | inside
          · exact Or.inl List.mem_cons_self
          · rcases ih inside with old | ⟨own, spelled⟩
            · exact Or.inl (List.mem_cons_of_mem _ old)
            · exact Or.inr ⟨own, spelled.imp_right (List.mem_cons_of_mem _)⟩

/-- Writing adds no key but its own. -/
theorem fst_of_mem_insert {key : κ} {value : α} {table : List (κ × α)} {entry : κ × α}
    (inside : entry ∈ insert order key value table) :
    entry.1 = key ∨ entry.1 ∈ table.map (·.1) := by
  rcases mem_insert inside with old | ⟨_, spelled⟩
  · exact Or.inr (List.mem_map_of_mem old)
  · exact spelled

/-- A key that is found keeps all keys as they are. -/
theorem map_fst_insert_of_some {key : κ} {old : α} {table : List (κ × α)}
    (found : get? order key table = some old) (value : α) :
    (insert order key value table).map (·.1) = table.map (·.1) := by
  induction table with
  | nil => cases found
  | cons entry rest ih =>
      obtain ⟨other, own⟩ := entry
      cases place : order key other with
      | lt => simp [get?, place] at found
      | eq => simp [insert, place]
      | gt =>
          simp only [get?, place] at found
          simp [insert, place, ih found]

/-- A key that is not found is added. -/
theorem map_fst_insert_of_none {key : κ} {table : List (κ × α)}
    (missing : get? order key table = none) (value : α) :
    ((insert order key value table).map (·.1)).Perm (key :: table.map (·.1)) := by
  induction table with
  | nil => exact List.Perm.refl _
  | cons entry rest ih =>
      obtain ⟨other, own⟩ := entry
      cases place : order key other with
      | lt =>
          simp only [insert, place]
          exact List.Perm.refl _
      | eq => simp [get?, place] at missing
      | gt =>
          simp only [get?, place] at missing
          simp only [insert, place, List.map_cons]
          exact ((ih missing).cons other).trans (List.Perm.swap key other _)

/-- Whether the keys increase strictly. -/
def IsSorted (order : κ → κ → Ordering) (table : List (κ × α)) : Prop :=
  table.Pairwise fun a b => order a.1 b.1 = .lt

theorem isSorted_nil : IsSorted order ([] : List (κ × α)) := List.Pairwise.nil

/-- Writing keeps a table sorted. -/
theorem IsSorted.insert [Std.TransCmp order] {table : List (κ × α)} (sorted : IsSorted order table)
    (key : κ) (value : α) : IsSorted order (insert order key value table) := by
  induction table with
  | nil => exact List.pairwise_singleton _ _
  | cons entry rest ih =>
      obtain ⟨first, old⟩ := entry
      obtain ⟨before, later⟩ := List.pairwise_cons.mp sorted
      cases written : order key first with
      | lt =>
          simp only [Sorted.insert, written]
          refine List.pairwise_cons.mpr ⟨?_, sorted⟩
          intro other inside
          rcases List.mem_cons.mp inside with rfl | inside
          · exact written
          · exact Std.TransCmp.lt_trans written (before other inside)
      | eq =>
          simp only [Sorted.insert, written]
          exact List.pairwise_cons.mpr ⟨before, later⟩
      | gt =>
          simp only [Sorted.insert, written]
          refine List.pairwise_cons.mpr ⟨?_, ih later⟩
          intro other inside
          rcases fst_of_mem_insert inside with own | listed
          · rw [own]
            exact Std.OrientedCmp.lt_of_gt written
          · obtain ⟨same, listed, spelled⟩ := List.mem_map.mp listed
            rw [← spelled]
            exact before same listed

/-! ## Entries of sorted tables -/

/-- In a sorted table the first entry answers for its own key only, and the others as without it. -/
theorem get?_cons [Std.TransCmp order] {first : κ} {own : α} {rest : List (κ × α)}
    (sorted : IsSorted order ((first, own) :: rest)) (key : κ) :
    get? order key ((first, own) :: rest) =
      if order key first = .eq then some own else get? order key rest := by
  cases place : order key first with
  | eq => simp [get?, place]
  | gt => simp [get?, place]
  | lt =>
      cases rest with
      | nil => simp [get?, place]
      | cons second others =>
          have next : order first second.1 = .lt :=
            (List.pairwise_cons.mp sorted).1 second List.mem_cons_self
          have before : order key second.1 = .lt := Std.TransCmp.lt_trans place next
          simp [get?, place, before]

theorem get?_of_forall_lt {key : κ} {table : List (κ × α)}
    (before : ∀ entry ∈ table, order key entry.1 = .lt) : get? order key table = none := by
  cases table with
  | nil => rfl
  | cons entry rest => simp [get?, before entry List.mem_cons_self]

/-- In a sorted table exactly the keys have an answer. -/
theorem isSome_get?_iff [Std.TransCmp order] [Std.LawfulEqCmp order] {key : κ}
    {table : List (κ × α)} (sorted : IsSorted order table) :
    (get? order key table).isSome = true ↔ key ∈ table.map (·.1) := by
  induction table with
  | nil => simp
  | cons entry rest ih =>
      obtain ⟨first, value⟩ := entry
      rw [get?_cons sorted, List.map_cons, List.mem_cons, ← ih (List.pairwise_cons.mp sorted).2]
      by_cases own : order key first = .eq
      · rw [if_pos own]
        simp [Std.LawfulEqCmp.eq_of_compare own]
      · rw [if_neg own]
        have other : key ≠ first := fun same => own (same ▸ Std.ReflCmp.compare_self)
        simp [other]

theorem get?_self [Std.ReflCmp order] {key : κ} {value : α} {rest : List (κ × α)} :
    get? order key ((key, value) :: rest) = some value := by
  simp [get?, Std.ReflCmp.compare_self]

/-- Where equal keys are the same, a sorted table is known by what it answers. -/
theorem eq_of_get?_eq [Std.TransCmp order] [Std.LawfulEqCmp order] {first second : List (κ × α)}
    (sortedFirst : IsSorted order first) (sortedSecond : IsSorted order second)
    (same : ∀ key, get? order key first = get? order key second) : first = second := by
  induction first generalizing second with
  | nil =>
      cases second with
      | nil => rfl
      | cons entry rest =>
          have found := same entry.1
          rw [get?_self] at found
          cases found
  | cons entry rest ih =>
      obtain ⟨key, value⟩ := entry
      cases second with
      | nil =>
          have found := same key
          rw [get?_self] at found
          cases found
      | cons other others =>
          obtain ⟨otherKey, otherValue⟩ := other
          -- The smaller of two different first keys would be found in one table only.
          have keys : key = otherKey := by
            cases place : order key otherKey with
            | eq => exact Std.LawfulEqCmp.eq_of_compare place
            | lt =>
                have found := same key
                rw [get?_self] at found
                simp [get?, place] at found
            | gt =>
                have found := same otherKey
                rw [get?_self] at found
                simp [get?, Std.OrientedCmp.lt_of_gt place] at found
          subst keys
          have values : value = otherValue := by
            have found := same key
            rwa [get?_self, get?_self, Option.some.injEq] at found
          subst values
          congr 1
          apply ih (List.pairwise_cons.mp sortedFirst).2 (List.pairwise_cons.mp sortedSecond).2
          intro wanted
          have found := same wanted
          rw [get?_cons sortedFirst, get?_cons sortedSecond] at found
          by_cases own : order wanted key = .eq
          · rw [Std.LawfulEqCmp.eq_of_compare own,
              get?_of_forall_lt (List.pairwise_cons.mp sortedFirst).1,
              get?_of_forall_lt (List.pairwise_cons.mp sortedSecond).1]
          · rwa [if_neg own, if_neg own] at found

end MappedCoverage.Sorted
