import MappedCoverage.Proofs.Coverage.Collecting
import MappedCoverage.Proofs.Shared.Handles

/-!
# Recording through handles

A sink holds what was recorded through the handle that it was created with and through clones of it,
in the order of the recordings. Recording in two sinks and merging what they hold comes to the same
as recording everything in one sink, in whatever order the recordings come.
-/

namespace MappedCoverage

/-! ## Recordings and merging -/

/-- The file of a recording. -/
def Recording.file : Recording → String
  | .hit file _ => file
  | .declaration file _ => file

/-- The construct of a recording. -/
def Recording.construct : Recording → String
  | .hit _ construct => construct
  | .declaration _ construct => construct

theorem Recording.lists_self (recording : Recording) :
    recording.lists recording.file recording.construct = true := by
  cases recording <;> simp [lists, file, construct]

namespace Coverage

variable {coverage after : Coverage} {recordings : List Recording}

theorem listsFile_record? {recording : Recording} (recorded : coverage.record? recording = some after)
    (file : String) :
    after.listsFile file = (decide (file = recording.file) || coverage.listsFile file) := by
  cases recording with
  | declaration of declared =>
      obtain rfl := Option.some.inj recorded
      exact listsFile_setCounters ..
  | hit of counted =>
      rw [record?, increment?_eq, Option.ite_none_right_eq_some] at recorded
      obtain rfl := Option.some.inj recorded.2
      exact listsFile_setCounters ..

/-- A file is listed when it was before, or when something of it was hit or declared. -/
theorem listsFile_recordAll? (recorded : coverage.recordAll? recordings = some after)
    (file : String) :
    after.listsFile file =
      (recordings.any (fun recording => decide (file = recording.file)) ||
        coverage.listsFile file) := by
  induction recordings generalizing coverage with
  | nil =>
      obtain rfl := Option.some.inj recorded
      rfl
  | cons recording rest ih =>
      rw [recordAll?_cons] at recorded
      obtain ⟨between, first, later⟩ := Option.bind_eq_some_iff.mp recorded
      rw [ih later, listsFile_record? first, List.any_cons, ← Bool.or_assoc,
        Bool.or_comm (rest.any _)]

/-- No file is listed without a construct. -/
theorem exists_lists_of_recorded (recorded : empty.recordAll? recordings = some after) {file : String}
    (listed : after.listsFile file = true) : ∃ construct, after.lists file construct = true := by
  rw [listsFile_recordAll? recorded, listsFile_empty, Bool.or_false, List.any_eq_true] at listed
  obtain ⟨recording, inside, own⟩ := listed
  obtain rfl := of_decide_eq_true own
  refine ⟨recording.construct, ?_⟩
  rw [lists_recordAll? recorded, lists_empty, Bool.or_false]
  exact List.any_eq_true.mpr ⟨recording, inside, recording.lists_self⟩

theorem hits_recorded (recorded : empty.recordAll? recordings = some after)
    (file construct : String) :
    after.hits file construct = recordings.count (.hit file construct) := by
  rw [hits_recordAll? recorded, hits_empty, Nat.zero_add]

theorem mem_fileNames_iff (wellFormed : coverage.WellFormed) {file : String} :
    file ∈ coverage.fileNames ↔ coverage.listsFile file = true :=
  (Sorted.isSome_get?_iff wellFormed.sorted).symm

/-- Declaring counts nothing. -/
theorem hits_declare (coverage : Coverage) (declaredFile declared file construct : String) :
    (coverage.declare declaredFile declared).hits file construct =
      coverage.hits file construct := by
  have recorded : coverage.record? (.declaration declaredFile declared) =
      some (coverage.declare declaredFile declared) := rfl
  rw [hits_record? recorded]
  simp

/-- Recordings made apart and merged come to the same as recordings made together. -/
theorem merge?_recorded {first second together : List Recording} {one other both : Coverage}
    (mixed : together.Perm (first ++ second)) (recordedFirst : empty.recordAll? first = some one)
    (recordedSecond : empty.recordAll? second = some other)
    (recordedBoth : empty.recordAll? together = some both) : one.merge? other = some both := by
  have oneWellFormed := WellFormed.empty.recordAll? recordedFirst
  have otherWellFormed := WellFormed.empty.recordAll? recordedSecond
  have bothWellFormed := WellFormed.empty.recordAll? recordedBoth
  have hits (file construct : String) :
      both.hits file construct = one.hits file construct + other.hits file construct := by
    rw [hits_recorded recordedBoth, hits_recorded recordedFirst, hits_recorded recordedSecond,
      mixed.count_eq, List.count_append]
  cases merged : one.merge? other with
  | none =>
      obtain ⟨file, construct, full⟩ := exceeded_of_merge?_eq_none otherWellFormed merged
      have fits : both.hits file construct ≤ Counters.limit :=
        (bothWellFormed.counters_of file).fits construct
      rw [hits] at fits
      exact absurd fits (Nat.not_le_of_lt full)
  | some sum =>
      have isSum := isSum_merge? otherWellFormed merged
      congr 1
      apply (oneWellFormed.merge? merged).eq_of_views bothWellFormed
      · intro file
        rw [listsFile_merge? otherWellFormed merged, listsFile_recordAll? recordedFirst,
          listsFile_recordAll? recordedSecond, listsFile_recordAll? recordedBoth, mixed.any_eq,
          List.any_append]
        simp
      · intro file construct
        rw [isSum.lists, lists_recordAll? recordedFirst, lists_recordAll? recordedSecond,
          lists_recordAll? recordedBoth, mixed.any_eq, List.any_append]
        simp
      · intro file construct
        rw [isSum.hits, hits]

end Coverage

/-! ## Uses of sinks -/

/-- What a program does with sinks. -/
inductive SinkUse where
  | create (handle name : String)
  | clone (handle other : String)
  | record (handle : String) (recording : Recording)

namespace Sinks

/-- The sinks after a use. -/
def use? (sinks : Sinks) : SinkUse → Option Sinks
  | .create handle name => some (sinks.create handle (Sink.named name))
  | .clone handle other => some (sinks.clone handle other)
  | .record handle recording => sinks.record? handle recording

/-- The sinks after uses, one after another. -/
def useAll? (sinks : Sinks) (uses : List SinkUse) : Option Sinks :=
  uses.foldlM use? sinks

/-- The handles after a use, which do not depend on what is recorded. -/
def rebind (sinks : Sinks) : SinkUse → Sinks
  | .create handle name => sinks.create handle (Sink.named name)
  | .clone handle other => sinks.clone handle other
  | .record _ _ => sinks

/-- What a use records in a cell. -/
def sentTo (sinks : Sinks) (cell : Nat) : SinkUse → List Recording
  | .record handle recording => if sinks.cell? handle = some cell then [recording] else []
  | _ => []

/-- What uses record in a cell, through whatever handles lead to it at the time. -/
def recordingsTo (sinks : Sinks) (cell : Nat) : List SinkUse → List Recording
  | [] => []
  | use :: rest => sinks.sentTo cell use ++ (sinks.rebind use).recordingsTo cell rest

/-- The coverage in a cell; a cell that is not there yet has none. -/
def coverageAt (sinks : Sinks) (cell : Nat) : Coverage :=
  ((sinks.cells[cell]?).map (·.coverage)).getD .empty

variable {sinks after first second : Sinks} {use : SinkUse} {uses : List SinkUse} {cell : Nat}
  {handle : String} {recording : Recording}

theorem snapshot_of_cell? (leads : sinks.cell? handle = some cell) :
    sinks.snapshot handle = sinks.coverageAt cell := by
  rw [snapshot, Shared.get?_of_cell? leads, coverageAt]

theorem useAll?_cons (sinks : Sinks) (use : SinkUse) (rest : List SinkUse) :
    sinks.useAll? (use :: rest) = (sinks.use? use).bind fun between => between.useAll? rest :=
  List.foldlM_cons

theorem recordingsTo_congr (same : Shared.SameHandles first second) :
    first.recordingsTo cell uses = second.recordingsTo cell uses := by
  induction uses generalizing first second with
  | nil => rfl
  | cons use rest ih =>
      cases use with
      | create handle name =>
          exact ih (same.create handle (Sink.named name) (Sink.named name))
      | clone handle other => exact ih (same.clone handle other)
      | record handle recording =>
          rw [recordingsTo, recordingsTo, sentTo, sentTo, same.cell?_eq, rebind, rebind, ih same]

/-! ## Single uses -/

theorem grounded_rebind (grounded : sinks.Grounded) (use : SinkUse) : (sinks.rebind use).Grounded := by
  cases use with
  | create handle name => exact grounded.create handle (Sink.named name)
  | clone handle other => exact grounded.clone handle other
  | record handle recording => exact grounded

/-- A recording through a handle that leads to a cell is made in the coverage there. -/
theorem record?_of_cell? (grounded : sinks.Grounded) {own : Nat}
    (leads : sinks.cell? handle = some own) (recording : Recording) :
    ∃ name, sinks.record? handle recording =
      ((sinks.coverageAt own).record? recording).map fun coverage =>
        sinks.set handle ⟨name, coverage⟩ := by
  obtain ⟨sink, found⟩ : ∃ sink, sinks.cells[own]? = some sink :=
    ⟨_, List.getElem?_eq_getElem (grounded.cell_lt leads)⟩
  refine ⟨sink.name, ?_⟩
  rw [record?, Shared.get?_of_cell? leads, coverageAt, found, Option.map_some, Option.getD_some]
  dsimp only
  cases sink.coverage.record? recording <;> rfl

theorem record?_of_cell?_eq_none (nowhere : sinks.cell? handle = none) (recording : Recording) :
    sinks.record? handle recording = some sinks := by
  rw [record?, Shared.get?_of_cell?_eq_none nowhere]

theorem sameHandles_use? (grounded : sinks.Grounded) (used : sinks.use? use = some after) :
    Shared.SameHandles after (sinks.rebind use) := by
  cases use with
  | create handle name =>
      obtain rfl := Option.some.inj used
      exact ⟨rfl, rfl⟩
  | clone handle other =>
      obtain rfl := Option.some.inj used
      exact ⟨rfl, rfl⟩
  | record handle recording =>
      rw [use?] at used
      cases leads : sinks.cell? handle with
      | none =>
          rw [record?_of_cell?_eq_none leads] at used
          obtain rfl := Option.some.inj used
          exact ⟨rfl, rfl⟩
      | some own =>
          obtain ⟨name, answer⟩ := record?_of_cell? grounded leads recording
          rw [answer] at used
          obtain ⟨coverage, _, rfl⟩ := Option.map_eq_some_iff.mp used
          exact Shared.sameHandles_set sinks handle ⟨name, coverage⟩

/-- A use adds to the coverage of each cell what it records there. -/
theorem coverageAt_use? (grounded : sinks.Grounded) (used : sinks.use? use = some after)
    (cell : Nat) :
    (sinks.coverageAt cell).recordAll? (sinks.sentTo cell use) = some (after.coverageAt cell) := by
  cases use with
  | create handle name =>
      obtain rfl := Option.some.inj used
      rw [coverageAt, coverageAt, Shared.getElem?_cells_create]
      split
      · next last =>
          rw [last, List.getElem?_eq_none (Nat.le_refl _)]
          rfl
      · rfl
  | clone handle other =>
      obtain rfl := Option.some.inj used
      rw [coverageAt, coverageAt, Shared.cells_clone]
      rfl
  | record handle recording =>
      rw [use?] at used
      cases leads : sinks.cell? handle with
      | none =>
          rw [record?_of_cell?_eq_none leads] at used
          obtain rfl := Option.some.inj used
          rw [sentTo, leads, if_neg (by simp)]
          rfl
      | some own =>
          obtain ⟨name, answer⟩ := record?_of_cell? grounded leads recording
          rw [answer] at used
          obtain ⟨coverage, recorded, rfl⟩ := Option.map_eq_some_iff.mp used
          rw [sentTo, leads, coverageAt, coverageAt, grounded.getElem?_cells_set leads]
          by_cases here : own = cell
          · subst here
            rw [if_pos rfl, if_pos rfl, Coverage.recordAll?_cons]
            exact (congrArg (Option.bind · _) recorded).trans rfl
          · rw [if_neg here, if_neg (by simpa using here)]
            rfl

/-- A use is refused only if it records in a cell where a counter is full. -/
theorem exceeded_of_use?_eq_none (grounded : sinks.Grounded) (refused : sinks.use? use = none) :
    ∃ cell, Coverage.Overfull (sinks.sentTo cell use) (sinks.coverageAt cell) := by
  cases use with
  | create handle name => cases refused
  | clone handle other => cases refused
  | record handle recording =>
      rw [use?] at refused
      cases leads : sinks.cell? handle with
      | none => simp [record?_of_cell?_eq_none leads] at refused
      | some own =>
          obtain ⟨name, answer⟩ := record?_of_cell? grounded leads recording
          rw [answer, Option.map_eq_none_iff] at refused
          refine ⟨own, ?_⟩
          rw [sentTo, leads, if_pos rfl]
          exact Coverage.exceeded_of_record?_eq_none refused

/-! ## Programs -/

/-- A cell holds what uses recorded there, in this order. -/
theorem coverageAt_useAll? (grounded : sinks.Grounded) (used : sinks.useAll? uses = some after)
    (cell : Nat) :
    (sinks.coverageAt cell).recordAll? (sinks.recordingsTo cell uses) =
      some (after.coverageAt cell) := by
  induction uses generalizing sinks with
  | nil =>
      obtain rfl := Option.some.inj used
      rfl
  | cons use rest ih =>
      rw [useAll?_cons] at used
      obtain ⟨between, first, later⟩ := Option.bind_eq_some_iff.mp used
      have same := sameHandles_use? grounded first
      rw [recordingsTo, Coverage.recordAll?_append, coverageAt_use? grounded first,
        ← recordingsTo_congr same]
      exact ih ((grounded_rebind grounded use).of_sameHandles same) later

/-- Uses are refused only if some cell would have to count more than a counter holds. -/
theorem exceeded_of_useAll?_eq_none (grounded : sinks.Grounded)
    (refused : sinks.useAll? uses = none) :
    ∃ cell, Coverage.Overfull (sinks.recordingsTo cell uses) (sinks.coverageAt cell) := by
  induction uses generalizing sinks with
  | nil => cases refused
  | cons use rest ih =>
      rw [useAll?_cons] at refused
      cases first : sinks.use? use with
      | none =>
          obtain ⟨cell, file, construct, full⟩ := exceeded_of_use?_eq_none grounded first
          refine ⟨cell, file, construct, ?_⟩
          rw [recordingsTo, List.count_append]
          omega
      | some between =>
          rw [first] at refused
          have same := sameHandles_use? grounded first
          obtain ⟨cell, full⟩ :=
            ih ((grounded_rebind grounded use).of_sameHandles same) refused
          rw [recordingsTo_congr same] at full
          have gains : Coverage.Gains (sinks.sentTo cell use) (sinks.coverageAt cell)
              (between.coverageAt cell) :=
            ⟨_, List.Perm.refl _, coverageAt_use? grounded first cell⟩
          exact ⟨cell, gains.overfull full⟩

theorem length_recordingsTo_le (sinks : Sinks) (cell : Nat) (uses : List SinkUse) :
    (sinks.recordingsTo cell uses).length ≤ uses.length := by
  induction uses generalizing sinks with
  | nil => exact Nat.le_refl _
  | cons use rest ih =>
      have single : (sinks.sentTo cell use).length ≤ 1 := by
        cases use with
        | create handle name => exact Nat.zero_le _
        | clone handle other => exact Nat.zero_le _
        | record handle recording =>
            rw [sentTo]
            split
            · exact Nat.le_refl 1
            · exact Nat.zero_le 1
      rw [recordingsTo, List.length_append, List.length_cons]
      have others := ih (sinks.rebind use)
      omega

/--
A program creates and clones sinks and records through their handles. When one cell gets the
recordings of two others together, in whatever order, then it holds what merging these two gives:
the hits of each construct are counted, what was hit or declared is listed, declaring counts
nothing, and no file is listed without a construct. The only condition is that no counter has to
hold too much.
-/
theorem merge?_snapshots {uses : List SinkUse} {first second both : Nat}
    (fits : ∀ cell file construct,
      (recordingsTo .empty cell uses).count (.hit file construct) ≤ Counters.limit)
    (mixed : (recordingsTo .empty both uses).Perm
      (recordingsTo .empty first uses ++ recordingsTo .empty second uses)) :
    ∃ sinks, useAll? .empty uses = some sinks ∧
      ∀ a b c : String,
        sinks.cell? a = some first → sinks.cell? b = some second → sinks.cell? c = some both →
          (sinks.snapshot a).merge? (sinks.snapshot b) = some (sinks.snapshot c) ∧
          (∀ file construct, (sinks.snapshot c).hits file construct =
            (recordingsTo .empty first uses).count (.hit file construct) +
              (recordingsTo .empty second uses).count (.hit file construct)) ∧
          (∀ file construct, (sinks.snapshot c).lists file construct = true ↔
            ∃ recording ∈ recordingsTo .empty first uses ++ recordingsTo .empty second uses,
              recording.lists file construct = true) ∧
          (∀ declaredFile declared file construct,
            ((sinks.snapshot c).declare declaredFile declared).hits file construct =
              (sinks.snapshot c).hits file construct) ∧
          ∀ file ∈ (sinks.snapshot c).fileNames,
            ∃ construct, (sinks.snapshot c).lists file construct = true := by
  cases used : useAll? .empty uses with
  | none =>
      obtain ⟨cell, file, construct, full⟩ :=
        exceeded_of_useAll?_eq_none Shared.grounded_empty used
      have none : coverageAt .empty cell = .empty := rfl
      rw [none, Coverage.hits_empty, Nat.zero_add] at full
      exact absurd (fits cell file construct) (Nat.not_le_of_lt full)
  | some sinks =>
      have recorded (cell : Nat) :
          Coverage.empty.recordAll? (recordingsTo .empty cell uses) =
            some (sinks.coverageAt cell) :=
        coverageAt_useAll? Shared.grounded_empty used cell
      refine ⟨sinks, rfl, fun a b c leadsFirst leadsSecond leadsBoth => ?_⟩
      rw [snapshot_of_cell? leadsFirst, snapshot_of_cell? leadsSecond, snapshot_of_cell? leadsBoth]
      refine ⟨?_, ?_, ?_, ?_, ?_⟩
      · exact Coverage.merge?_recorded mixed (recorded first) (recorded second) (recorded both)
      · intro file construct
        rw [Coverage.hits_recorded (recorded both), mixed.count_eq, List.count_append]
      · intro file construct
        rw [Coverage.lists_recordAll? (recorded both), Coverage.lists_empty, Bool.or_false,
          mixed.any_eq, List.any_eq_true]
      · intro declaredFile declared file construct
        exact Coverage.hits_declare _ _ _ _ _
      · intro file listed
        have wellFormed := Coverage.WellFormed.empty.recordAll? (recorded both)
        exact Coverage.exists_lists_of_recorded (recorded both)
          ((Coverage.mem_fileNames_iff wellFormed).mp listed)

/-- Two sinks and a third that gets what they get, each also used through a clone. -/
def threeSinks : List SinkUse :=
  [.create "a" "v", .create "b" "v", .create "c" "v", .clone "alias" "a",
    .record "alias" (.hit "f" "x"), .record "b" (.declaration "f" "x"),
    .record "a" (.hit "f" "x"), .clone "last" "c", .record "last" (.declaration "f" "x"),
    .record "c" (.hit "f" "x"), .record "b" (.hit "g" "y"), .record "last" (.hit "g" "y"),
    .record "c" (.hit "f" "x")]

theorem merge?_snapshots_three_sinks :
    (∀ cell file construct,
      (recordingsTo .empty cell threeSinks).count (.hit file construct) ≤ Counters.limit) ∧
    (recordingsTo .empty 2 threeSinks).Perm
      (recordingsTo .empty 0 threeSinks ++ recordingsTo .empty 1 threeSinks) ∧
    ∃ sinks, useAll? .empty threeSinks = some sinks ∧
      (sinks.snapshot "alias").merge? (sinks.snapshot "b") = some (sinks.snapshot "last") ∧
      (sinks.snapshot "last").hits "f" "x" = 2 := by
  have fits : ∀ cell file construct,
      (recordingsTo .empty cell threeSinks).count (.hit file construct) ≤ Counters.limit := by
    intro cell file construct
    calc (recordingsTo .empty cell threeSinks).count (.hit file construct)
      _ ≤ (recordingsTo .empty cell threeSinks).length := List.count_le_length
      _ ≤ threeSinks.length := length_recordingsTo_le .empty cell threeSinks
      _ ≤ Counters.limit := by decide
  have mixed : (recordingsTo .empty 2 threeSinks).Perm
      (recordingsTo .empty 0 threeSinks ++ recordingsTo .empty 1 threeSinks) := by decide
  obtain ⟨sinks, used, holds⟩ := merge?_snapshots fits mixed
  obtain rfl := Option.some.inj ((show useAll? .empty threeSinks = some _ from rfl).symm.trans used)
  obtain ⟨merged, hits, _⟩ := holds "alias" "b" "last" rfl rfl rfl
  exact ⟨fits, mixed, _, rfl, merged, hits "f" "x"⟩

end Sinks

end MappedCoverage
