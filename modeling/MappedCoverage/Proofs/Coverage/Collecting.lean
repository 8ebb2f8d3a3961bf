import Mathlib.Algebra.BigOperators.Group.List.Basic
import Mathlib.Algebra.Ring.Nat
import MappedCoverage.Collector
import MappedCoverage.Proofs.Coverage.Merging

/-!
# Collecting coverages

A well-formed coverage is known by the files and constructs that it lists and by their hits. So a
collector that coverages are added to holds the same in whatever order they come, and it overflows
in every order or in none.
-/

namespace MappedCoverage

/-! ## Coverages that say the same -/

theorem option_eq_of_isSome_eq {α : Type} {first second : Option α} (fallback : α)
    (present : first.isSome = second.isSome)
    (value : first.getD fallback = second.getD fallback) : first = second := by
  cases first with
  | none => exact (Option.isNone_iff_eq_none.mp (by simpa using present)).symm
  | some own =>
      cases second with
      | none => cases present
      | some other => exact congrArg some value

namespace Counters

/-- Well-formed counters are known by what they list and by the hits. -/
theorem WellFormed.eq_of_views {first second : Counters}
    (firstWellFormed : first.WellFormed) (secondWellFormed : second.WellFormed)
    (lists : ∀ construct, first.lists construct = second.lists construct)
    (hits : ∀ construct, first.hits construct = second.hits construct) : first = second :=
  Sorted.eq_of_get?_eq firstWellFormed.sorted secondWellFormed.sorted fun construct =>
    option_eq_of_isSome_eq 0 (lists construct) (hits construct)

theorem WellFormed.merge? {counters other merged : Counters} (wellFormed : counters.WellFormed)
    (added : counters.merge? other = some merged) : merged.WellFormed := by
  induction other generalizing counters with
  | nil =>
      obtain rfl := Option.some.inj added
      exact wellFormed
  | cons entry rest ih =>
      rw [merge?_cons] at added
      obtain ⟨between, head, tail⟩ := Option.bind_eq_some_iff.mp added
      rw [add?, Option.ite_none_right_eq_some] at head
      obtain rfl := Option.some.inj head.2
      exact ih (wellFormed.insert entry.1 head.1) tail

end Counters

namespace Coverage

/-- Whether a file is listed, be it without constructs. -/
def listsFile (coverage : Coverage) (file : String) : Bool :=
  (coverage.file? file).isSome

@[simp] theorem listsFile_empty (file : String) : empty.listsFile file = false := rfl

theorem listsFile_setCounters (coverage : Coverage) (file other : String) (counters : Counters) :
    (coverage.setCounters file counters).listsFile other =
      (decide (other = file) || coverage.listsFile other) := by
  rw [listsFile, file?, setCounters, Sorted.get?_insert]
  simp only [Std.LawfulEqOrd.compare_eq_iff_eq]
  split <;> simp_all [listsFile, file?]

theorem listsFile_cons {file : String} {counters : Counters} {rest : List (String × Counters)}
    (sorted : Sorted.IsSorted compare ((file, counters) :: rest)) (other : String) :
    listsFile ⟨(file, counters) :: rest⟩ other =
      (decide (other = file) || listsFile ⟨rest⟩ other) := by
  rw [listsFile, file?, Sorted.get?_cons sorted]
  simp only [Std.LawfulEqOrd.compare_eq_iff_eq]
  split <;> simp_all [listsFile, file?]

/-- A well-formed coverage is known by what it lists and by the hits. -/
theorem WellFormed.eq_of_views {first second : Coverage}
    (firstWellFormed : first.WellFormed) (secondWellFormed : second.WellFormed)
    (files : ∀ file, first.listsFile file = second.listsFile file)
    (lists : ∀ file construct, first.lists file construct = second.lists file construct)
    (hits : ∀ file construct, first.hits file construct = second.hits file construct) :
    first = second := by
  have counters (file : String) : first.counters file = second.counters file :=
    (firstWellFormed.counters_of file).eq_of_views (secondWellFormed.counters_of file)
      (lists file) (hits file)
  have same : first.files = second.files :=
    Sorted.eq_of_get?_eq firstWellFormed.sorted secondWellFormed.sorted fun file =>
      option_eq_of_isSome_eq [] (files file) (counters file)
  cases first
  cases second
  exact congrArg Coverage.mk same

variable {coverage other merged : Coverage}

theorem WellFormed.merge? (wellFormed : coverage.WellFormed)
    (added : coverage.merge? other = some merged) : merged.WellFormed := by
  obtain ⟨files⟩ := other
  induction files generalizing coverage with
  | nil =>
      obtain rfl := Option.some.inj added
      exact wellFormed
  | cons entry rest ih =>
      rw [merge?_cons] at added
      obtain ⟨sum, head, tail⟩ := Option.bind_eq_some_iff.mp added
      exact ih (wellFormed.setCounters entry.1 ((wellFormed.counters_of entry.1).merge? head)) tail

/-- Merging lists the files of both coverages. -/
theorem listsFile_merge? (wellFormed : other.WellFormed)
    (added : coverage.merge? other = some merged) (file : String) :
    merged.listsFile file = (coverage.listsFile file || other.listsFile file) := by
  obtain ⟨files⟩ := other
  induction files generalizing coverage with
  | nil =>
      obtain rfl := Option.some.inj added
      exact (Bool.or_false _).symm
  | cons entry rest ih =>
      rw [merge?_cons] at added
      obtain ⟨sum, _, tail⟩ := Option.bind_eq_some_iff.mp added
      rw [ih wellFormed.tail tail, listsFile_setCounters, listsFile_cons wellFormed.sorted,
        Bool.or_comm (decide _), Bool.or_assoc]

/-! ## Totals -/

/-- The hits of a construct of a file in several coverages together. -/
def total (coverages : List Coverage) (file construct : String) : Nat :=
  (coverages.map (·.hits file construct)).sum

/-- Coverage that says, beyond an earlier one, what several others say together. -/
structure IsTotal (coverages : List Coverage) (earlier later : Coverage) : Prop where
  wellFormed : later.WellFormed
  hits : ∀ file construct,
    later.hits file construct = earlier.hits file construct + total coverages file construct
  lists : ∀ file construct,
    later.lists file construct =
      (earlier.lists file construct || coverages.any (·.lists file construct))
  listsFile : ∀ file,
    later.listsFile file = (earlier.listsFile file || coverages.any (·.listsFile file))

theorem isTotal_nil (wellFormed : coverage.WellFormed) : IsTotal [] coverage coverage where
  wellFormed := wellFormed
  hits := fun _ _ => rfl
  lists := fun _ _ => (Bool.or_false _).symm
  listsFile := fun _ => (Bool.or_false _).symm

theorem IsTotal.cons {coverages : List Coverage} {between later : Coverage}
    (wellFormed : other.WellFormed) (added : coverage.merge? other = some between)
    (rest : IsTotal coverages between later) : IsTotal (other :: coverages) coverage later where
  wellFormed := rest.wellFormed
  hits := by
    intro file construct
    rw [rest.hits, (isSum_merge? wellFormed added).hits, total, total, List.map_cons,
      List.sum_cons, Nat.add_assoc]
  lists := by
    intro file construct
    rw [rest.lists, (isSum_merge? wellFormed added).lists, List.any_cons, Bool.or_assoc]
  listsFile := by
    intro file
    rw [rest.listsFile, listsFile_merge? wellFormed added, List.any_cons, Bool.or_assoc]

theorem total_perm {coverages ordered : List Coverage} (same : ordered.Perm coverages)
    (file construct : String) : total ordered file construct = total coverages file construct :=
  (same.map _).sum_eq

/-- The order of coverages does not matter for what they say together. -/
theorem IsTotal.perm {coverages ordered : List Coverage} {earlier later : Coverage}
    (isTotal : IsTotal ordered earlier later) (same : ordered.Perm coverages) :
    IsTotal coverages earlier later where
  wellFormed := isTotal.wellFormed
  hits := by
    intro file construct
    rw [isTotal.hits, total_perm same]
  lists := by
    intro file construct
    rw [isTotal.lists, same.any_eq]
  listsFile := by
    intro file
    rw [isTotal.listsFile, same.any_eq]

theorem IsTotal.unique {coverages : List Coverage} {earlier first second : Coverage}
    (isFirst : IsTotal coverages earlier first) (isSecond : IsTotal coverages earlier second) :
    first = second :=
  isFirst.wellFormed.eq_of_views isSecond.wellFormed
    (fun file => (isFirst.listsFile file).trans (isSecond.listsFile file).symm)
    (fun file construct => (isFirst.lists file construct).trans (isSecond.lists file construct).symm)
    (fun file construct => (isFirst.hits file construct).trans (isSecond.hits file construct).symm)

end Coverage

/-! ## Collectors -/

namespace Collector

/-- Adds several coverages one after another. -/
def addAll? (collector : Collector) (coverages : List Coverage) : Option Collector :=
  coverages.foldlM Collector.add? collector

theorem addAll?_cons (collector : Collector) (coverage : Coverage) (rest : List Coverage) :
    collector.addAll? (coverage :: rest) =
      (collector.merged.merge? coverage).bind fun merged =>
        ({ collector with sources := collector.sources + 1, merged } : Collector).addAll? rest := by
  rw [addAll?, List.foldlM_cons, add?]
  cases collector.merged.merge? coverage <;> rfl

/-- What a collector holds after coverages were added. -/
theorem isTotal_of_addAll? {coverages : List Coverage} {collector after : Collector}
    (wellFormed : collector.merged.WellFormed)
    (each : ∀ coverage ∈ coverages, coverage.WellFormed)
    (added : collector.addAll? coverages = some after) :
    ∃ merged, after = ⟨collector.options, collector.sources + coverages.length, merged⟩ ∧
      Coverage.IsTotal coverages collector.merged merged := by
  induction coverages generalizing collector with
  | nil =>
      obtain rfl := Option.some.inj added
      exact ⟨collector.merged, rfl, Coverage.isTotal_nil wellFormed⟩
  | cons coverage rest ih =>
      rw [addAll?_cons] at added
      obtain ⟨between, head, tail⟩ := Option.bind_eq_some_iff.mp added
      obtain ⟨merged, rfl, isTotal⟩ :=
        ih (wellFormed.merge? head) (fun other inside => each other (List.mem_cons_of_mem _ inside))
          tail
      refine ⟨merged, ?_, isTotal.cons (each coverage List.mem_cons_self) head⟩
      rw [List.length_cons, Nat.succ_add_eq_add_succ]

theorem exceeded_of_addAll?_eq_none {coverages : List Coverage} {collector : Collector}
    (each : ∀ coverage ∈ coverages, coverage.WellFormed)
    (refused : collector.addAll? coverages = none) :
    ∃ file construct, Counters.limit <
      collector.merged.hits file construct + Coverage.total coverages file construct := by
  induction coverages generalizing collector with
  | nil => cases refused
  | cons coverage rest ih =>
      have first := each coverage List.mem_cons_self
      rw [addAll?_cons] at refused
      cases head : collector.merged.merge? coverage with
      | none =>
          obtain ⟨file, construct, full⟩ := Coverage.exceeded_of_merge?_eq_none first head
          refine ⟨file, construct, ?_⟩
          rw [Coverage.total, List.map_cons, List.sum_cons]
          omega
      | some merged =>
          rw [head] at refused
          obtain ⟨file, construct, full⟩ :=
            ih (fun other inside => each other (List.mem_cons_of_mem _ inside)) refused
          refine ⟨file, construct, ?_⟩
          rw [(Coverage.isSum_merge? first head).hits, Nat.add_assoc] at full
          rwa [Coverage.total, List.map_cons, List.sum_cons]

section

variable {coverages : List Coverage} {options : Entries Document}

/-- A collector that started empty holds the totals of what was added to it. -/
theorem exists_isTotal_of_addAll? {after : Collector}
    (each : ∀ coverage ∈ coverages, coverage.WellFormed)
    (added : (withOptions options).addAll? coverages = some after) :
    ∃ merged, after = ⟨options, coverages.length, merged⟩ ∧
      Coverage.IsTotal coverages .empty merged := by
  obtain ⟨merged, rfl, isTotal⟩ := isTotal_of_addAll? .empty each added
  refine ⟨merged, ?_, isTotal⟩
  rw [withOptions, Nat.zero_add]

/-- Adding fails exactly when a total does not fit into a counter. -/
theorem addAll?_eq_none_iff (each : ∀ coverage ∈ coverages, coverage.WellFormed) :
    (withOptions options).addAll? coverages = none ↔
      ∃ file construct, Counters.limit < Coverage.total coverages file construct := by
  constructor
  · intro refused
    obtain ⟨file, construct, full⟩ := exceeded_of_addAll?_eq_none each refused
    refine ⟨file, construct, ?_⟩
    rwa [withOptions, Coverage.hits_empty, Nat.zero_add] at full
  · rintro ⟨file, construct, full⟩
    cases added : (withOptions options).addAll? coverages with
    | none => rfl
    | some after =>
        obtain ⟨merged, _, isTotal⟩ := exists_isTotal_of_addAll? each added
        have sum := isTotal.hits file construct
        rw [Coverage.hits_empty, Nat.zero_add] at sum
        have fits : merged.hits file construct ≤ Counters.limit :=
          (isTotal.wellFormed.counters_of file).fits construct
        omega

/--
Coverages may be added in any order. Every order overflows when some construct has more hits
together than a counter holds; otherwise every order leads to one and the same collector, which
lists what some coverage lists, with the sums of the hits.
-/
theorem addAll?_reordered (options : Entries Document)
    (wellFormed : ∀ coverage ∈ coverages, coverage.WellFormed) :
    (∀ ordered, ordered.Perm coverages →
      ((withOptions options).addAll? ordered = none ↔
        ∃ file construct, Counters.limit < Coverage.total coverages file construct)) ∧
    ((∀ file construct, Coverage.total coverages file construct ≤ Counters.limit) →
      ∃ merged,
        (∀ ordered, ordered.Perm coverages →
          (withOptions options).addAll? ordered = some ⟨options, coverages.length, merged⟩) ∧
        (∀ file construct, merged.lists file construct = true ↔
          ∃ coverage ∈ coverages, coverage.lists file construct = true) ∧
        ∀ file construct,
          merged.hits file construct = Coverage.total coverages file construct) := by
  have each {ordered : List Coverage} (same : ordered.Perm coverages) :
      ∀ coverage ∈ ordered, coverage.WellFormed :=
    fun coverage inside => wellFormed coverage (same.mem_iff.mp inside)
  have fails (ordered : List Coverage) (same : ordered.Perm coverages) :
      (withOptions options).addAll? ordered = none ↔
        ∃ file construct, Counters.limit < Coverage.total coverages file construct := by
    rw [addAll?_eq_none_iff (each same)]
    simp only [Coverage.total_perm same]
  refine ⟨fails, fun fits => ?_⟩
  have holds (ordered : List Coverage) (same : ordered.Perm coverages) :
      ∃ merged, (withOptions options).addAll? ordered = some ⟨options, coverages.length, merged⟩ ∧
        Coverage.IsTotal coverages .empty merged := by
    cases added : (withOptions options).addAll? ordered with
    | none =>
        obtain ⟨file, construct, full⟩ := (fails ordered same).mp added
        exact absurd (fits file construct) (Nat.not_le_of_lt full)
    | some after =>
        obtain ⟨merged, rfl, isTotal⟩ := exists_isTotal_of_addAll? (each same) added
        rw [same.length_eq]
        exact ⟨merged, rfl, isTotal.perm same⟩
  obtain ⟨merged, _, isTotal⟩ := holds coverages (List.Perm.refl coverages)
  refine ⟨merged, ?_, ?_, ?_⟩
  · intro ordered same
    obtain ⟨other, added, isOther⟩ := holds ordered same
    rw [added, isOther.unique isTotal]
  · intro file construct
    rw [isTotal.lists, Coverage.lists_empty, Bool.false_or, List.any_eq_true]
  · intro file construct
    rw [isTotal.hits, Coverage.hits_empty, Nat.zero_add]

end

/-- Two coverages that together fill a counter to its limit, the one with the later file first. -/
theorem addAll?_reordered_to_limit :
    ∃ first second merged : Coverage,
      (∀ coverage ∈ [first, second], coverage.WellFormed) ∧
      first.hits "a" "x" = Counters.limit - 1 ∧ second.hits "a" "x" = 1 ∧
      second.lists "b" "y" = true ∧
      (withOptions []).addAll? [second, first] = some ⟨[], 2, merged⟩ ∧
      merged.lists "b" "y" = true ∧ merged.hits "a" "x" = Counters.limit := by
  have nearlyFull := Coverage.WellFormed.empty.setCounters "a"
    (Counters.wellFormed_nil.insert "x" (Nat.sub_le Counters.limit 1))
  have single : Coverage.WellFormed _ := Coverage.WellFormed.empty.setCounters "a"
    (Counters.wellFormed_nil.insert "x" (show 1 ≤ Counters.limit by decide))
  have declared := single.setCounters "b" (Counters.wellFormed_nil.insert "y" (Nat.zero_le _))
  have wellFormed := List.forall_mem_cons.mpr ⟨nearlyFull, List.forall_mem_singleton.mpr declared⟩
  have unlisted (construct : String) : Counters.hits [] construct = 0 := rfl
  obtain ⟨merged, added, lists, hits⟩ := (addAll?_reordered [] wellFormed).2 <| by
    intro file construct
    simp only [Coverage.total, List.map_cons, List.map_nil, List.sum_cons, List.sum_nil,
      Coverage.hits_setCounters, Counters.hits_insert, Coverage.hits_empty, unlisted]
    split_ifs <;> decide
  refine ⟨_, _, merged, wellFormed, rfl, rfl, rfl, added _ (List.Perm.swap _ _ _), ?_, ?_⟩
  · exact (lists "b" "y").mpr ⟨_, List.mem_cons_of_mem _ List.mem_cons_self, rfl⟩
  · exact hits "a" "x"

end Collector

end MappedCoverage
