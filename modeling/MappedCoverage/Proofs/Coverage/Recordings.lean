import MappedCoverage.Coverage
import MappedCoverage.Proofs.Sorted.Tables

/-!
# Recordings in a coverage

What a coverage says after recordings: a counter has grown by the hits of its construct, and the
constructs that were hit or declared are listed. A recording is refused only when a counter is full.
-/

namespace MappedCoverage

/-! ## Counters -/

namespace Counters

theorem hits_insert (counters : Counters) (construct other : String) (count : Nat) :
    hits (Sorted.insert compare construct count counters) other =
      if other = construct then count else counters.hits other := by
  rw [hits, Sorted.get?_insert]
  simp only [Std.LawfulEqOrd.compare_eq_iff_eq]
  split <;> rfl

theorem lists_insert (counters : Counters) (construct other : String) (count : Nat) :
    lists (Sorted.insert compare construct count counters) other =
      (decide (other = construct) || counters.lists other) := by
  rw [lists, Sorted.get?_insert]
  simp only [Std.LawfulEqOrd.compare_eq_iff_eq]
  split <;> simp_all [lists]

theorem hits_of_not_lists {counters : Counters} {construct : String}
    (unlisted : counters.lists construct = false) : counters.hits construct = 0 := by
  rw [lists, Option.isSome_eq_false_iff, Option.isNone_iff_eq_none] at unlisted
  rw [hits, unlisted, Option.getD_none]

/-- Declaring counts nothing. -/
theorem hits_declare (counters : Counters) (construct other : String) :
    (counters.declare construct).hits other = counters.hits other := by
  rw [declare]
  cases listed : counters.lists construct with
  | true => rfl
  | false =>
      rw [if_neg Bool.false_ne_true, hits_insert]
      split
      case isTrue same => rw [same, hits_of_not_lists listed]
      case isFalse => rfl

theorem lists_declare (counters : Counters) (construct other : String) :
    (counters.declare construct).lists other =
      (decide (other = construct) || counters.lists other) := by
  rw [declare]
  cases listed : counters.lists construct with
  | true =>
      by_cases same : other = construct
      · simp [same, listed]
      · simp [same]
  | false =>
      rw [if_neg Bool.false_ne_true, lists_insert]

end Counters

/-! ## Files -/

namespace Coverage

/-- Whether a construct of a file is listed. -/
def lists (coverage : Coverage) (file construct : String) : Bool :=
  (coverage.counters file).lists construct

@[simp] theorem hits_empty (file construct : String) : empty.hits file construct = 0 := rfl

@[simp] theorem lists_empty (file construct : String) : empty.lists file construct = false := rfl

theorem counters_setCounters (coverage : Coverage) (file other : String) (counters : Counters) :
    (coverage.setCounters file counters).counters other =
      if other = file then counters else coverage.counters other := by
  rw [Coverage.counters, file?, setCounters, Sorted.get?_insert]
  simp only [Std.LawfulEqOrd.compare_eq_iff_eq]
  split <;> rfl

theorem hits_setCounters (coverage : Coverage) (file other construct : String)
    (counters : Counters) :
    (coverage.setCounters file counters).hits other construct =
      if other = file then counters.hits construct else coverage.hits other construct := by
  rw [hits, counters_setCounters]
  split <;> rfl

theorem lists_setCounters (coverage : Coverage) (file other construct : String)
    (counters : Counters) :
    (coverage.setCounters file counters).lists other construct =
      if other = file then counters.lists construct else coverage.lists other construct := by
  rw [lists, counters_setCounters]
  split <;> rfl

/-- One execution is counted unless the counter is full. -/
theorem increment?_eq (coverage : Coverage) (file construct : String) :
    coverage.increment? file construct =
      if coverage.hits file construct + 1 ≤ Counters.limit then
        some (coverage.setCounters file (Sorted.insert compare construct
          (coverage.hits file construct + 1) (coverage.counters file)))
      else none := by
  unfold increment? Counters.add?
  dsimp only
  rw [hits]
  split <;> rfl

end Coverage

/-! ## Recordings -/

/-- Whether a recording makes a construct of a file listed. -/
def Recording.lists (recording : Recording) (file construct : String) : Bool :=
  recording = .hit file construct ∨ recording = .declaration file construct

namespace Coverage

variable {coverage after : Coverage} {recording : Recording} {recordings : List Recording}

theorem hits_record? (recorded : coverage.record? recording = some after)
    (file construct : String) :
    after.hits file construct =
      coverage.hits file construct + [recording].count (.hit file construct) := by
  cases recording with
  | declaration of declared =>
      obtain rfl := Option.some.inj recorded
      rw [declare, hits_setCounters, Counters.hits_declare]
      by_cases same : file = of <;> simp [hits, same]
  | hit of counted =>
      rw [record?, increment?_eq, Option.ite_none_right_eq_some] at recorded
      obtain rfl := Option.some.inj recorded.2
      rw [hits_setCounters, Counters.hits_insert]
      by_cases same : file = of
      · subst same
        by_cases own : construct = counted
        · simp [own]
        · simp [own, Ne.symm own, hits]
      · simp [same, Ne.symm same]

theorem lists_record? (recorded : coverage.record? recording = some after)
    (file construct : String) :
    after.lists file construct =
      (recording.lists file construct || coverage.lists file construct) := by
  cases recording with
  | declaration of declared =>
      obtain rfl := Option.some.inj recorded
      rw [declare, lists_setCounters, Counters.lists_declare]
      by_cases same : file = of
      · simp [Recording.lists, lists, same, eq_comm]
      · simp [Recording.lists, same, Ne.symm same]
  | hit of counted =>
      rw [record?, increment?_eq, Option.ite_none_right_eq_some] at recorded
      obtain rfl := Option.some.inj recorded.2
      rw [lists_setCounters, Counters.lists_insert]
      by_cases same : file = of
      · simp [Recording.lists, lists, same, eq_comm]
      · simp [Recording.lists, same, Ne.symm same]

theorem exceeded_of_record?_eq_none (exceeded : coverage.record? recording = none) :
    ∃ file construct, Counters.limit <
      coverage.hits file construct + [recording].count (.hit file construct) := by
  cases recording with
  | declaration of declared => cases exceeded
  | hit of counted =>
      rw [record?, increment?_eq, ite_eq_right_iff] at exceeded
      refine ⟨of, counted, Nat.lt_of_not_le fun within => ?_⟩
      rw [List.count_singleton_self] at within
      cases exceeded within

theorem count_cons (recording counted : Recording) (rest : List Recording) :
    (recording :: rest).count counted = [recording].count counted + rest.count counted := by
  rw [← List.count_append, List.singleton_append]

theorem recordAll?_cons (coverage : Coverage) (recording : Recording) (rest : List Recording) :
    coverage.recordAll? (recording :: rest) =
      (coverage.record? recording).bind fun between => between.recordAll? rest :=
  List.foldlM_cons

theorem recordAll?_append (coverage : Coverage) (earlier later : List Recording) :
    coverage.recordAll? (earlier ++ later) =
      (coverage.recordAll? earlier).bind fun between => between.recordAll? later :=
  List.foldlM_append

/-- A counter has grown by the hits of its construct. -/
theorem hits_recordAll? (recorded : coverage.recordAll? recordings = some after)
    (file construct : String) :
    after.hits file construct =
      coverage.hits file construct + recordings.count (.hit file construct) := by
  induction recordings generalizing coverage with
  | nil =>
      obtain rfl := Option.some.inj recorded
      simp
  | cons recording rest ih =>
      rw [recordAll?_cons] at recorded
      obtain ⟨between, first, later⟩ := Option.bind_eq_some_iff.mp recorded
      rw [ih later, hits_record? first, count_cons recording _ rest, Nat.add_assoc]

/-- A construct is listed when it was before, or when it was hit or declared. -/
theorem lists_recordAll? (recorded : coverage.recordAll? recordings = some after)
    (file construct : String) :
    after.lists file construct =
      (recordings.any (·.lists file construct) || coverage.lists file construct) := by
  induction recordings generalizing coverage with
  | nil =>
      obtain rfl := Option.some.inj recorded
      rfl
  | cons recording rest ih =>
      rw [recordAll?_cons] at recorded
      obtain ⟨between, first, later⟩ := Option.bind_eq_some_iff.mp recorded
      rw [ih later, lists_record? first, List.any_cons, ← Bool.or_assoc,
        Bool.or_comm (rest.any _)]

/-- Recordings are refused only if one of the counters would have to hold too much. -/
theorem exceeded_of_recordAll?_eq_none (exceeded : coverage.recordAll? recordings = none) :
    ∃ file construct, Counters.limit <
      coverage.hits file construct + recordings.count (.hit file construct) := by
  induction recordings generalizing coverage with
  | nil => cases exceeded
  | cons recording rest ih =>
      rw [recordAll?_cons] at exceeded
      cases first : coverage.record? recording with
      | none =>
          obtain ⟨file, construct, full⟩ := exceeded_of_record?_eq_none first
          refine ⟨file, construct, ?_⟩
          rw [count_cons recording _ rest]
          omega
      | some between =>
          rw [first] at exceeded
          obtain ⟨file, construct, full⟩ := ih exceeded
          refine ⟨file, construct, ?_⟩
          rwa [count_cons recording _ rest, ← Nat.add_assoc, ← hits_record? first]

/-! ## Recordings in any order -/

/-- The later coverage is the earlier one with recordings added, in whatever order they came. -/
def Gains (recordings : List Recording) (earlier later : Coverage) : Prop :=
  ∃ ordered, ordered.Perm recordings ∧ earlier.recordAll? ordered = some later

/-- Some counter cannot hold all hits of its construct. -/
def Overfull (recordings : List Recording) (coverage : Coverage) : Prop :=
  ∃ file construct, Counters.limit <
    coverage.hits file construct + recordings.count (.hit file construct)

theorem gains_nil (coverage : Coverage) : Gains [] coverage coverage :=
  ⟨[], List.Perm.refl [], rfl⟩

theorem Gains.trans {first second : List Recording} {earlier between later : Coverage}
    (before : Gains first earlier between) (after : Gains second between later) :
    Gains (first ++ second) earlier later := by
  obtain ⟨ordered, same, recorded⟩ := before
  obtain ⟨others, alike, recordedNext⟩ := after
  refine ⟨ordered ++ others, same.append alike, ?_⟩
  rw [recordAll?_append, recorded]
  exact recordedNext

theorem Gains.perm {first second : List Recording} {earlier later : Coverage}
    (gains : Gains first earlier later) (same : first.Perm second) :
    Gains second earlier later := by
  obtain ⟨ordered, alike, recorded⟩ := gains
  exact ⟨ordered, alike.trans same, recorded⟩

theorem Gains.hits {earlier later : Coverage} (gains : Gains recordings earlier later)
    (file construct : String) :
    later.hits file construct =
      earlier.hits file construct + recordings.count (.hit file construct) := by
  obtain ⟨ordered, same, recorded⟩ := gains
  rw [hits_recordAll? recorded, same.count_eq]

theorem Gains.lists {earlier later : Coverage} (gains : Gains recordings earlier later)
    (file construct : String) :
    later.lists file construct =
      (recordings.any (·.lists file construct) || earlier.lists file construct) := by
  obtain ⟨ordered, same, recorded⟩ := gains
  rw [lists_recordAll? recorded, same.any_eq]

/-- What is too much for the later coverage is too much for the earlier one with all recordings. -/
theorem Gains.overfull {first second : List Recording} {earlier later : Coverage}
    (gains : Gains first earlier later) (full : Overfull second later) :
    Overfull (first ++ second) earlier := by
  obtain ⟨file, construct, much⟩ := full
  refine ⟨file, construct, ?_⟩
  rwa [List.count_append, ← Nat.add_assoc, ← gains.hits]

theorem Overfull.perm {first second : List Recording} {coverage : Coverage}
    (full : Overfull first coverage) (same : first.Perm second) : Overfull second coverage := by
  obtain ⟨file, construct, much⟩ := full
  refine ⟨file, construct, ?_⟩
  rwa [← same.count_eq]

end Coverage

end MappedCoverage
