import MappedCoverage.Proofs.Coverage.Recordings

/-!
# Merging coverages

Merging adds up the counters of each construct and lists what either coverage lists. It is refused
only when a sum does not fit into a counter. A coverage made by recordings is well-formed, so it
merges into an empty one without loss.
-/

namespace MappedCoverage

/-! ## Counters -/

namespace Counters

/-- Counters that recordings can lead to. -/
structure WellFormed (counters : Counters) : Prop where
  sorted : Sorted.IsSorted compare counters
  fits : ∀ construct, counters.hits construct ≤ limit

theorem wellFormed_nil : WellFormed [] where
  sorted := Sorted.isSorted_nil
  fits := fun _ => Nat.zero_le _

theorem WellFormed.insert {counters : Counters} (wellFormed : counters.WellFormed)
    (construct : String) {count : Nat} (fits : count ≤ limit) :
    WellFormed (Sorted.insert compare construct count counters) where
  sorted := wellFormed.sorted.insert construct count
  fits := by
    intro other
    rw [hits_insert]
    split
    · exact fits
    · exact wellFormed.fits other

theorem WellFormed.declare {counters : Counters} (wellFormed : counters.WellFormed)
    (construct : String) : (counters.declare construct).WellFormed := by
  rw [Counters.declare]
  split
  · exact wellFormed
  · exact wellFormed.insert construct (Nat.zero_le _)

section

variable {construct : String} {count : Nat} {rest : Counters}

theorem hits_cons (sorted : Sorted.IsSorted compare ((construct, count) :: rest))
    (other : String) :
    hits ((construct, count) :: rest) other =
      if other = construct then count else hits rest other := by
  rw [hits, Sorted.get?_cons sorted]
  simp only [Std.LawfulEqOrd.compare_eq_iff_eq]
  split <;> rfl

theorem lists_cons (sorted : Sorted.IsSorted compare ((construct, count) :: rest))
    (other : String) :
    lists ((construct, count) :: rest) other =
      (decide (other = construct) || lists rest other) := by
  rw [lists, Sorted.get?_cons sorted]
  simp only [Std.LawfulEqOrd.compare_eq_iff_eq]
  split <;> simp_all [lists]

theorem not_lists_rest (sorted : Sorted.IsSorted compare ((construct, count) :: rest)) :
    lists rest construct = false := by
  rw [lists, Sorted.get?_of_forall_lt (List.pairwise_cons.mp sorted).1]
  rfl

end

theorem merge?_cons (counters : Counters) (entry : String × Nat) (rest : Counters) :
    counters.merge? (entry :: rest) =
      (counters.add? entry.1 entry.2).bind fun between => between.merge? rest :=
  List.foldlM_cons

/-- Counters that say together what two others say. -/
structure IsSum (first second sum : Counters) : Prop where
  hits : ∀ construct, sum.hits construct = first.hits construct + second.hits construct
  lists : ∀ construct, sum.lists construct = (first.lists construct || second.lists construct)

theorem isSum_merge? {counters other merged : Counters} (sorted : Sorted.IsSorted compare other)
    (added : counters.merge? other = some merged) : IsSum counters other merged := by
  induction other generalizing counters with
  | nil =>
      obtain rfl := Option.some.inj added
      exact { hits := fun _ => rfl, lists := fun _ => (Bool.or_false _).symm }
  | cons entry rest ih =>
      obtain ⟨first, count⟩ := entry
      rw [merge?_cons] at added
      obtain ⟨between, head, tail⟩ := Option.bind_eq_some_iff.mp added
      rw [add?, Option.ite_none_right_eq_some] at head
      obtain rfl := Option.some.inj head.2
      have later := ih (List.pairwise_cons.mp sorted).2 tail
      refine { hits := fun construct => ?_, lists := fun construct => ?_ }
      · rw [later.hits, hits_insert, hits_cons sorted]
        by_cases same : construct = first
        · rw [if_pos same, if_pos same, same, hits_of_not_lists (not_lists_rest sorted),
            Nat.add_zero]
        · rw [if_neg same, if_neg same]
      · rw [later.lists, lists_insert, lists_cons sorted, Bool.or_comm (decide _), Bool.or_assoc]

theorem exceeded_of_merge?_eq_none {counters other : Counters}
    (sorted : Sorted.IsSorted compare other) (refused : counters.merge? other = none) :
    ∃ construct, limit < counters.hits construct + other.hits construct := by
  induction other generalizing counters with
  | nil => cases refused
  | cons entry rest ih =>
      obtain ⟨first, count⟩ := entry
      rw [merge?_cons] at refused
      cases head : counters.add? first count with
      | none =>
          rw [add?, ite_eq_right_iff] at head
          refine ⟨first, Nat.lt_of_not_le fun fits => ?_⟩
          rw [hits_cons sorted, if_pos rfl] at fits
          cases head fits
      | some between =>
          rw [head] at refused
          rw [add?, Option.ite_none_right_eq_some] at head
          obtain rfl := Option.some.inj head.2
          obtain ⟨construct, full⟩ := ih (List.pairwise_cons.mp sorted).2 refused
          -- The rest does not list the first construct again, so no sum is counted twice.
          refine ⟨construct, ?_⟩
          rw [hits_insert] at full
          rw [hits_cons sorted]
          by_cases same : construct = first
          · rw [if_pos same, same, hits_of_not_lists (not_lists_rest sorted)] at full
            rwa [if_pos same, same]
          · rwa [if_neg same] at full ⊢

end Counters

/-! ## Files -/

namespace Coverage

/-- Coverage that recordings can lead to. -/
structure WellFormed (coverage : Coverage) : Prop where
  sorted : Sorted.IsSorted compare coverage.files
  counters : ∀ entry ∈ coverage.files, Counters.WellFormed entry.2

namespace WellFormed

variable {coverage after : Coverage}

theorem empty : Coverage.empty.WellFormed where
  sorted := Sorted.isSorted_nil
  counters := fun _ inside => nomatch inside

theorem counters_of (wellFormed : coverage.WellFormed) (file : String) :
    (coverage.counters file).WellFormed := by
  rw [Coverage.counters]
  cases found : coverage.file? file with
  | none => exact Counters.wellFormed_nil
  | some counters =>
      obtain ⟨other, inside⟩ := Sorted.mem_of_get? found
      exact wellFormed.counters (other, counters) inside

theorem setCounters (wellFormed : coverage.WellFormed) (file : String) {counters : Counters}
    (own : counters.WellFormed) : (coverage.setCounters file counters).WellFormed where
  sorted := wellFormed.sorted.insert file counters
  counters := by
    intro entry inside
    rcases Sorted.mem_insert inside with old | ⟨written, _⟩
    · exact wellFormed.counters entry old
    · rw [written]
      exact own

theorem record? (wellFormed : coverage.WellFormed) {recording : Recording}
    (recorded : coverage.record? recording = some after) : after.WellFormed := by
  cases recording with
  | declaration file construct =>
      obtain rfl := Option.some.inj recorded
      exact wellFormed.setCounters file ((wellFormed.counters_of file).declare construct)
  | hit file construct =>
      rw [Coverage.record?, increment?_eq, Option.ite_none_right_eq_some] at recorded
      obtain rfl := Option.some.inj recorded.2
      exact wellFormed.setCounters file ((wellFormed.counters_of file).insert construct recorded.1)

/-- Recordings keep a coverage well-formed. -/
theorem recordAll? (wellFormed : coverage.WellFormed) {recordings : List Recording}
    (recorded : coverage.recordAll? recordings = some after) : after.WellFormed := by
  induction recordings generalizing coverage with
  | nil =>
      obtain rfl := Option.some.inj recorded
      exact wellFormed
  | cons recording rest ih =>
      rw [recordAll?_cons] at recorded
      obtain ⟨between, first, later⟩ := Option.bind_eq_some_iff.mp recorded
      exact ih (wellFormed.record? first) later

end WellFormed

/-! ## Merging files -/

section

variable {file : String} {counters : Counters} {rest : List (String × Counters)}

theorem counters_cons (sorted : Sorted.IsSorted compare ((file, counters) :: rest))
    (other : String) :
    Coverage.counters ⟨(file, counters) :: rest⟩ other =
      if other = file then counters else Coverage.counters ⟨rest⟩ other := by
  rw [Coverage.counters, file?, Sorted.get?_cons sorted]
  simp only [Std.LawfulEqOrd.compare_eq_iff_eq]
  split <;> rfl

theorem counters_rest (sorted : Sorted.IsSorted compare ((file, counters) :: rest)) :
    Coverage.counters ⟨rest⟩ file = [] := by
  rw [Coverage.counters, file?, Sorted.get?_of_forall_lt (List.pairwise_cons.mp sorted).1]
  rfl

end

theorem merge?_cons (coverage : Coverage) (entry : String × Counters)
    (rest : List (String × Counters)) :
    coverage.merge? ⟨entry :: rest⟩ =
      ((coverage.counters entry.1).merge? entry.2).bind fun counters =>
        (coverage.setCounters entry.1 counters).merge? ⟨rest⟩ := by
  rw [merge?, List.foldlM_cons]
  cases (coverage.counters entry.1).merge? entry.2 <;> rfl

theorem WellFormed.tail {entry : String × Counters} {rest : List (String × Counters)}
    (wellFormed : WellFormed ⟨entry :: rest⟩) : WellFormed ⟨rest⟩ where
  sorted := (List.pairwise_cons.mp wellFormed.sorted).2
  counters := fun other inside => wellFormed.counters other (List.mem_cons_of_mem _ inside)

variable {coverage other merged : Coverage}

/-- Coverage that says together what two others say. -/
structure IsSum (first second sum : Coverage) : Prop where
  hits : ∀ file construct,
    sum.hits file construct = first.hits file construct + second.hits file construct
  lists : ∀ file construct,
    sum.lists file construct = (first.lists file construct || second.lists file construct)

theorem isSum_merge? (wellFormed : other.WellFormed) (added : coverage.merge? other = some merged) :
    IsSum coverage other merged := by
  obtain ⟨files⟩ := other
  induction files generalizing coverage with
  | nil =>
      obtain rfl := Option.some.inj added
      exact { hits := fun _ _ => rfl, lists := fun _ _ => (Bool.or_false _).symm }
  | cons entry rest ih =>
      obtain ⟨first, counters⟩ := entry
      rw [merge?_cons] at added
      obtain ⟨sum, head, tail⟩ := Option.bind_eq_some_iff.mp added
      have own := Counters.isSum_merge?
        (wellFormed.counters (first, counters) List.mem_cons_self).sorted head
      have later := ih wellFormed.tail tail
      refine { hits := fun file construct => ?_, lists := fun file construct => ?_ }
      · rw [later.hits, hits_setCounters, hits, hits, hits, counters_cons wellFormed.sorted]
        by_cases same : file = first
        · rw [if_pos same, if_pos same, same, own.hits, counters_rest wellFormed.sorted]
          rfl
        · rw [if_neg same, if_neg same]
      · rw [later.lists, lists_setCounters, lists, lists, lists, counters_cons wellFormed.sorted]
        by_cases same : file = first
        · rw [if_pos same, if_pos same, same, own.lists, counters_rest wellFormed.sorted]
          exact Bool.or_false _
        · rw [if_neg same, if_neg same]

/-- Coverages are refused only if a sum does not fit into a counter. -/
theorem exceeded_of_merge?_eq_none (wellFormed : other.WellFormed)
    (refused : coverage.merge? other = none) :
    ∃ file construct,
      Counters.limit < coverage.hits file construct + other.hits file construct := by
  obtain ⟨files⟩ := other
  induction files generalizing coverage with
  | nil => cases refused
  | cons entry rest ih =>
      obtain ⟨first, counters⟩ := entry
      have own := (wellFormed.counters (first, counters) List.mem_cons_self).sorted
      rw [merge?_cons] at refused
      cases head : (coverage.counters first).merge? counters with
      | none =>
          obtain ⟨construct, full⟩ := Counters.exceeded_of_merge?_eq_none own head
          refine ⟨first, construct, ?_⟩
          rwa [hits, hits, counters_cons wellFormed.sorted, if_pos rfl]
      | some sum =>
          rw [head] at refused
          obtain ⟨file, construct, full⟩ := ih wellFormed.tail refused
          refine ⟨file, construct, ?_⟩
          rw [hits_setCounters] at full
          rw [hits, hits, counters_cons wellFormed.sorted]
          by_cases same : file = first
          · rw [if_pos same, (Counters.isSum_merge? own head).hits, hits, same,
              counters_rest wellFormed.sorted] at full
            rw [if_pos same, same]
            exact full
          · rwa [if_neg same] at full ⊢

end Coverage

end MappedCoverage
