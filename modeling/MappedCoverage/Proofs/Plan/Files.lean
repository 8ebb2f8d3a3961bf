import MappedCoverage.Proofs.Glob.Sets
import MappedCoverage.Proofs.Path.Spellings
import MappedCoverage.Proofs.Plan.Parties

/-!
# Test files

The patterns of a plan are expanded one after another, and a file that several of them lead to is
listed once, where it is found first and as it is spelled there. Files are the same when their paths
have the same components. A pattern that cannot be expanded ends the search.
-/

namespace MappedCoverage

open MappedCoverage.Action

/-! ## First spellings -/

namespace Path

theorem same_refl (path : String) : same path path = true :=
  same_iff.mpr rfl

theorem distinct_sublist (paths : List String) : (distinct paths).Sublist paths := by
  induction paths with
  | nil => exact .slnil
  | cons path rest ih => exact (List.filter_sublist.trans ih).cons_cons path

theorem distinct_pairwise (paths : List String) :
    (distinct paths).Pairwise fun earlier later => same earlier later = false := by
  induction paths with
  | nil => exact .nil
  | cons path rest ih =>
      refine List.pairwise_cons.mpr ⟨fun other inside => ?_, ih.filter _⟩
      simpa using (List.mem_filter.mp inside).2

theorem exists_mem_distinct {paths : List String} {path : String} (inside : path ∈ paths) :
    ∃ first ∈ distinct paths, same first path = true := by
  induction paths with
  | nil => cases inside
  | cons head rest ih =>
      by_cases known : same head path = true
      · exact ⟨head, List.mem_cons_self, known⟩
      · rcases List.mem_cons.mp inside with rfl | later
        · exact absurd (same_refl path) known
        · obtain ⟨first, listed, equal⟩ := ih later
          refine ⟨first, List.mem_cons_of_mem _ (List.mem_filter.mpr ⟨listed, ?_⟩), equal⟩
          -- Otherwise the head would have the components of the path, too.
          rw [Bool.not_eq_true', Bool.eq_false_iff, Ne, same_iff]
          intro headFirst
          exact known (same_iff.mpr (headFirst.trans (same_iff.mp equal)))

/-- The path at a place, unless one of the paths before it has the same components. -/
def newAt? (paths : List String) (place : Nat) : Option String :=
  paths[place]?.filter fun path => !(paths.take place).any (same path)

theorem newAt?_append_singleton (paths : List String) (path : String) {place : Nat}
    (before : place < paths.length) : newAt? (paths ++ [path]) place = newAt? paths place := by
  rw [newAt?, newAt?, List.getElem?_append_left before, List.take_append_of_le_length before.le]

theorem newAt?_length (paths : List String) (path : String) :
    newAt? (paths ++ [path]) paths.length = if paths.any (same path) then none else some path := by
  rw [newAt?, List.getElem?_concat_length, List.take_left, Option.filter_some]
  cases paths.any (same path) <;> rfl

/-- The distinct paths are those that are new at their place. -/
theorem distinct_eq_filterMap (paths : List String) :
    distinct paths = (List.range paths.length).filterMap (newAt? paths) := by
  induction paths using List.reverseRecOn with
  | nil => rfl
  | append_singleton paths path ih =>
      have earlier : (List.range paths.length).filterMap (newAt? (paths ++ [path])) =
          distinct paths := by
        rw [ih]
        refine List.filterMap_congr fun place inside => ?_
        exact newAt?_append_singleton paths path (List.mem_range.mp inside)
      rw [distinct_append_singleton, List.length_append, List.length_singleton, List.range_succ,
        List.filterMap_append, earlier, List.filterMap_cons, newAt?_length]
      cases paths.any (same path) <;> simp

/-- Paths that are listed before, in whatever spelling, change nothing. -/
theorem distinct_append_known {before known behind : List String}
    (listed : ∀ path ∈ known, before.any (same path) = true) :
    distinct (before ++ known ++ behind) = distinct (before ++ behind) := by
  induction behind using List.reverseRecOn with
  | nil =>
      rw [List.append_nil, List.append_nil]
      induction known using List.reverseRecOn with
      | nil => rw [List.append_nil]
      | append_singleton known path ih =>
          have again : (before ++ known).any (same path) = true := by
            rw [List.any_append, listed path List.mem_concat_self, Bool.true_or]
          rw [← List.append_assoc, distinct_append_singleton, if_pos again]
          exact ih fun other inside => listed other (List.mem_append_left _ inside)
  | append_singleton behind path ih =>
      have same_any : (before ++ known ++ behind).any (same path) =
          (before ++ behind).any (same path) := by
        rw [Bool.eq_iff_iff]
        simp only [List.any_append, Bool.or_eq_true]
        constructor
        · rintro ((first | again) | last)
          · exact Or.inl first
          · -- A known path with these components has a spelling further ahead.
            obtain ⟨other, inside, equal⟩ := List.any_eq_true.mp again
            obtain ⟨first, ahead, equalFirst⟩ := List.any_eq_true.mp (listed other inside)
            refine Or.inl (List.any_eq_true.mpr ⟨first, ahead, ?_⟩)
            exact same_iff.mpr ((same_iff.mp equal).trans (same_iff.mp equalFirst))
          · exact Or.inr last
        · rintro (first | last)
          · exact Or.inl (Or.inl first)
          · exact Or.inr last
      rw [← List.append_assoc, ← List.append_assoc, distinct_append_singleton,
        distinct_append_singleton, same_any, ih]

/-- The files that are listed are those that were found, each at its first place alone. -/
structure FirstSpellings (found files : List String) : Prop where
  /-- The paths with the components of an earlier one are left out, and no others. -/
  exact : files = (List.range found.length).filterMap (newAt? found)
  sublist : files.Sublist found
  pairwise : files.Pairwise fun earlier later => same earlier later = false
  covers : ∀ path ∈ found, ∃ file ∈ files, same file path = true

theorem firstSpellings_distinct (found : List String) : FirstSpellings found (distinct found) where
  exact := distinct_eq_filterMap found
  sublist := distinct_sublist found
  pairwise := distinct_pairwise found
  covers := fun _ inside => exists_mem_distinct inside

end Path

/-! ## Expanding patterns -/

/-- An expander that answers by the pattern alone, however often and after whatever it is asked. -/
def Expander.Answers (expander : Expander) (answer : String → Except Failure (List String)) :
    Prop :=
  ∀ pattern session, ((expander.expand pattern).runFrom session).1 = answer pattern

theorem Expander.Answers.fst_runFrom_ask {expander : Expander}
    {answer : String → Except Failure (List String)} (answers : expander.Answers answer)
    (pattern : String) (session : Session) :
    ((expander.ask pattern).runFrom session).1 = answer pattern := by
  rw [ask, runFrom_announced]
  exact answers pattern _

namespace TestPlan

/-- Expands patterns one after another. -/
def expandAll (plan : TestPlan) (expander : Expander) (patterns : List String) :
    Action (List (List String)) :=
  patterns.mapM fun pattern => expander.ask (plan.anchored pattern)

/-- Patterns of a plan are expanded one after another, each of them taken from the working
directory. -/
def Expands (plan : TestPlan) (expander : Expander) : List String → Session →
    List (List String) → Session → Prop :=
  InTurn (fun pattern => .expand (plan.anchored pattern))
    fun pattern => expander.expand (plan.anchored pattern)

/-- The calls that have patterns expanded. -/
def asked (plan : TestPlan) (patterns : List String) : List Call :=
  patterns.map fun pattern => .expand (plan.anchored pattern)

section

variable {plan : TestPlan} {expander : Expander} {session before after : Session}
  {patterns earlier later : List String} {pattern : String} {lists : List (List String)}
  {failure : Failure}

theorem files_eq (plan : TestPlan) (expander : Expander) :
    plan.files expander.ask = plan.expandAll expander plan.patterns >>= fun lists =>
      pure (Path.distinct lists.flatten) := rfl

theorem Expands.adds (expands : plan.Expands expander patterns session lists after) :
    Adds session (plan.asked patterns) after :=
  InTurn.adds (fun _ => rfl) (fun _ => expander.discreet _) expands

theorem Expands.adds_stopped (expands : plan.Expands expander earlier session lists before)
    (failed : (expander.expand (plan.anchored pattern)).runFrom
      (before.noting [.expand (plan.anchored pattern)]) = (.error failure, after)) :
    Adds session (plan.asked (earlier ++ [pattern])) after :=
  InTurn.adds_stopped (fun _ => rfl) (fun _ => expander.discreet _) expands failed

theorem runFrom_expandAll_eq_ok_iff :
    (plan.expandAll expander patterns).runFrom session = (.ok lists, after) ↔
      plan.Expands expander patterns session lists after :=
  runFrom_mapM_eq_ok_iff

theorem runFrom_files_of_expands
    (expands : plan.Expands expander plan.patterns session lists after) :
    (plan.files expander.ask).runFrom session = (.ok (Path.distinct lists.flatten), after) := by
  rw [files_eq, runFrom_bind_ok (runFrom_expandAll_eq_ok_iff.mpr expands), runFrom_pure]

theorem runFrom_files_of_error (listed : plan.patterns = earlier ++ pattern :: later)
    (expands : plan.Expands expander earlier session lists before)
    (failed : (expander.expand (plan.anchored pattern)).runFrom
      (before.noting [.expand (plan.anchored pattern)]) = (.error failure, after)) :
    (plan.files expander.ask).runFrom session = (.error failure, after) := by
  have stopped : (plan.expandAll expander plan.patterns).runFrom session =
      (.error failure, after) := by
    rw [listed]
    refine runFrom_mapM_stops (runFrom_expandAll_eq_ok_iff.mpr expands) ?_
    rw [Expander.ask, runFrom_announced, failed]
  rw [files_eq, runFrom_bind_error stopped]

end

/-! ## Patterns that find nothing new -/

section

variable {plan : TestPlan} {expander : Expander} {answer : String → Except Failure (List String)}

/-- The test files of patterns, when patterns are expanded by themselves alone. -/
def filesBy (plan : TestPlan) (answer : String → Except Failure (List String))
    (patterns : List String) : Except Failure (List String) :=
  (patterns.mapM fun pattern => answer (plan.anchored pattern)).map fun lists =>
    Path.distinct lists.flatten

theorem fst_runFrom_files (answers : expander.Answers answer) (session : Session) :
    ((plan.files expander.ask).runFrom session).1 = plan.filesBy answer plan.patterns := by
  have expanded : ((plan.expandAll expander plan.patterns).runFrom session).1 =
      plan.patterns.mapM fun pattern => answer (plan.anchored pattern) :=
    fst_runFrom_mapM (fun _ session => answers.fst_runFrom_ask _ session) _ session
  rw [filesBy, ← expanded, files_eq, runFrom_bind]
  rcases (plan.expandAll expander plan.patterns).runFrom session with ⟨failure | lists, after⟩ <;>
    rfl

/-- Every file that a pattern leads to is found by an earlier pattern, in whatever spelling. -/
def FindsNothingNew (plan : TestPlan) (answer : String → Except Failure (List String))
    (earlier : List String) (again : String) : Prop :=
  ∃ found, answer (plan.anchored again) = .ok found ∧
    ∀ file ∈ found, ∃ pattern ∈ earlier, ∃ others, answer (plan.anchored pattern) = .ok others ∧
      ∃ other ∈ others, Path.same file other = true

theorem FindsNothingNew.of_mem {earlier : List String} {again : String} {found : List String}
    (listed : again ∈ earlier) (answered : answer (plan.anchored again) = .ok found) :
    plan.FindsNothingNew answer earlier again :=
  ⟨found, answered, fun file inside =>
    ⟨again, listed, found, answered, file, inside, Path.same_refl file⟩⟩

/-- A pattern that is repeated, or that finds nothing new, can be left out. -/
theorem filesBy_insert {earlier later : List String} {again : String}
    (known : again ∈ earlier ∨ plan.FindsNothingNew answer earlier again) :
    plan.filesBy answer (earlier ++ again :: later) = plan.filesBy answer (earlier ++ later) := by
  simp only [filesBy, List.mapM_append, List.mapM_cons]
  cases expanded : earlier.mapM fun pattern => answer (plan.anchored pattern) with
  | error failure => rfl
  | ok lists =>
      have each {pattern : String} (inside : pattern ∈ earlier) :
          ∃ files ∈ lists, answer (plan.anchored pattern) = .ok files :=
        exists_mem_of_forall₂ (mapM_eq_ok_iff.mp expanded) inside
      have nothingNew : plan.FindsNothingNew answer earlier again := by
        rcases known with listed | nothingNew
        · obtain ⟨_, _, answered⟩ := each listed
          exact .of_mem listed answered
        · exact nothingNew
      obtain ⟨found, answered, covered⟩ := nothingNew
      have known : ∀ file ∈ found, lists.flatten.any (Path.same file) = true := by
        intro file inside
        obtain ⟨pattern, listed, others, answeredOthers, other, among, equal⟩ :=
          covered file inside
        obtain ⟨files, own, answeredFiles⟩ := each listed
        obtain rfl : others = files := Except.ok.inj (answeredOthers.symm.trans answeredFiles)
        exact List.any_eq_true.mpr ⟨other, List.mem_flatten.mpr ⟨others, own, among⟩, equal⟩
      rw [answered]
      cases later.mapM fun pattern => answer (plan.anchored pattern) with
      | error failure => rfl
      | ok rest =>
          have same : Path.distinct (lists ++ found :: rest).flatten =
              Path.distinct (lists ++ rest).flatten := by
            rw [List.flatten_append, List.flatten_cons, List.flatten_append, ← List.append_assoc]
            exact Path.distinct_append_known known
          exact congrArg Except.ok same

end

/-- The test files of a plan are what its patterns lead to, in order and without every path that has
the components of an earlier one. If a pattern cannot be expanded, the first such pattern is the
last one that is asked for, and fails the search. A pattern that is repeated, or that leads only to
files of the patterns before it, changes nothing. -/
theorem files_lists_first_matches (plan : TestPlan) (expander : Expander) (session : Session) :
    (∀ lists after, plan.Expands expander plan.patterns session lists after →
        ∃ files, (plan.files expander.ask).runFrom session = (.ok files, after) ∧
          Path.FirstSpellings lists.flatten files ∧
          Adds session (plan.asked plan.patterns) after) ∧
      (∀ earlier pattern later lists before failure after,
        plan.patterns = earlier ++ pattern :: later →
        plan.Expands expander earlier session lists before →
        (expander.expand (plan.anchored pattern)).runFrom
            (before.noting [.expand (plan.anchored pattern)]) = (.error failure, after) →
          (plan.files expander.ask).runFrom session = (.error failure, after) ∧
            Adds session (plan.asked (earlier ++ [pattern])) after) ∧
      ∀ answer, expander.Answers answer → ∀ earlier again later,
        plan.patterns = earlier ++ later →
        again ∈ earlier ∨ plan.FindsNothingNew answer earlier again →
          ((TestPlan.files { plan with patterns := earlier ++ again :: later } expander.ask).runFrom
              session).1 = ((plan.files expander.ask).runFrom session).1 := by
  refine ⟨?_, ?_, ?_⟩
  · intro lists after expands
    exact ⟨_, runFrom_files_of_expands expands, Path.firstSpellings_distinct _, expands.adds⟩
  · intro earlier pattern later lists before failure after listed expands failed
    exact ⟨runFrom_files_of_error listed expands failed, expands.adds_stopped failed⟩
  · intro answer answers earlier again later listed known
    rw [fst_runFrom_files answers, fst_runFrom_files answers, listed]
    exact filesBy_insert known

/-- A plan of two patterns that have a file in common, and a third one that is malformed. -/
def overlapping (more : List String) : TestPlan :=
  ⟨["ab", "bc"] ++ more, ⟨[], [], []⟩, "/p"⟩

/-- What the patterns of this plan lead to; the file in common is spelled in two ways. -/
def overlappingFiles (pattern : String) : Except Failure (List String) :=
  if pattern = "/p/ab" then .ok ["/p/a", "/p/b"]
  else if pattern = "/p/bc" then .ok ["/p//b", "/p/c"]
  else .error (.invalidPattern pattern "unclosed")

/-- An expander that answers so. -/
def overlappingExpander : Expander where
  expand pattern := liftExcept (overlappingFiles pattern)
  discreet pattern session := by
    cases overlappingFiles pattern <;> exact Adds.refl session

/-- The file in common keeps its first spelling, a repeated pattern adds nothing to it, and a
malformed pattern is the last one that is asked for. -/
theorem files_lists_first_matches_overlap :
    (∃ after, ((overlapping []).files overlappingExpander.ask).runFrom .initial =
        (.ok ["/p/a", "/p/b", "/p/c"], after)) ∧
      (((overlapping ["ab"]).files overlappingExpander.ask).runFrom .initial).1 =
        (((overlapping []).files overlappingExpander.ask).runFrom .initial).1 ∧
      ∃ after, ((overlapping ["[", "ab"]).files overlappingExpander.ask).runFrom .initial =
          (.error (.invalidPattern "/p/[" "unclosed"), after) ∧
        Adds .initial [.expand "/p/ab", .expand "/p/bc", .expand "/p/["] after := by
  have answers : overlappingExpander.Answers overlappingFiles := by
    intro pattern session
    change ((liftExcept (overlappingFiles pattern) : Action _).runFrom session).1 = _
    cases overlappingFiles pattern <;> rfl
  refine ⟨?_, ?_, ?_⟩
  · obtain ⟨files, found, first, _⟩ :=
      (files_lists_first_matches (overlapping []) overlappingExpander .initial).1 _ _
        (.next rfl (.next rfl .none))
    have listed : files = ["/p/a", "/p/b", "/p/c"] := by
      rw [first.exact]
      decide
    exact ⟨_, listed ▸ found⟩
  · exact (files_lists_first_matches (overlapping []) overlappingExpander .initial).2.2 _ answers
      ["ab", "bc"] "ab" [] rfl (Or.inl (by decide))
  · exact ⟨_, (files_lists_first_matches (overlapping ["[", "ab"]) overlappingExpander .initial).2.1
      ["ab", "bc"] "[" ["ab"] _ _ _ _ rfl (.next rfl (.next rfl .none)) rfl⟩

end TestPlan

end MappedCoverage
