import MappedCoverage.Regex.Basic

/-!
# Matches of regular expressions

What an expression matches, from one place of a text to another and with the texts of its groups.
All ways of matching count, whichever of them a search prefers.
-/

namespace MappedCoverage.Regex

/-! ## Places -/

/-- A place in a text: the characters before it, the nearest first, and those after it. -/
structure Place where
  before : List Char
  after : List Char

/-- Some characters lie between two places. -/
structure Place.Spans (start : Place) (taken : List Char) (stop : Place) : Prop where
  after : start.after = taken ++ stop.after
  before : stop.before = taken.reverse ++ start.before

namespace Place

variable {start between stop other : Place} {taken first second : List Char}

theorem spans_nil_iff : start.Spans [] stop ↔ start = stop := by
  constructor
  · rintro ⟨after, before⟩
    cases start
    cases stop
    cases after
    cases before
    rfl
  · rintro rfl
    exact ⟨rfl, rfl⟩

theorem spans_append_iff :
    start.Spans (first ++ second) stop ↔
      ∃ between, start.Spans first between ∧ between.Spans second stop := by
  constructor
  · rintro ⟨after, before⟩
    refine ⟨⟨first.reverse ++ start.before, second ++ stop.after⟩, ⟨?_, rfl⟩, ⟨rfl, ?_⟩⟩
    · rw [after, List.append_assoc]
    · rw [before, List.reverse_append, List.append_assoc]
  · rintro ⟨between, ⟨afterFirst, beforeFirst⟩, ⟨afterSecond, beforeSecond⟩⟩
    constructor
    · rw [afterFirst, afterSecond, List.append_assoc]
    · rw [beforeSecond, beforeFirst, List.reverse_append, List.append_assoc]

theorem spans_cons_iff {before after : List Char} {c d : Char} :
    (⟨before, c :: after⟩ : Place).Spans (d :: taken) stop ↔
      c = d ∧ (⟨c :: before, after⟩ : Place).Spans taken stop := by
  have passed : (d :: taken).reverse ++ before = taken.reverse ++ (d :: before) := by
    rw [List.reverse_cons, List.append_assoc, List.singleton_append]
  constructor
  · rintro ⟨ahead, behind⟩
    obtain ⟨rfl, rest⟩ := List.cons.inj ahead
    exact ⟨rfl, rest, behind.trans passed⟩
  · rintro ⟨rfl, rest, behind⟩
    exact ⟨congrArg (List.cons c) rest, behind.trans passed.symm⟩

theorem Spans.unique (spans : start.Spans first stop) (same : start.Spans second stop) :
    first = second :=
  List.append_cancel_right (spans.after.symm.trans same.after)

end Place

/-! ## Ways of matching -/

/-- Which places are matched, from one to another, with the texts of groups in the order in which
the groups open. -/
abbrev Matching := Place → Place → List (List Char) → Prop

namespace Matching

/-- Takes no character. -/
def nothing : Matching := fun start stop captures => start = stop ∧ captures = []

/-- Takes characters with a property, without groups. -/
def takes (property : List Char → Prop) : Matching := fun start stop captures =>
  ∃ taken, property taken ∧ start.Spans taken stop ∧ captures = []

/-- One after the other. -/
def andThen (first second : Matching) : Matching := fun start stop captures =>
  ∃ between early late, first start between early ∧ second between stop late ∧
    captures = early ++ late

/-- A number of times. -/
def times (once : Matching) : Nat → Matching
  | 0 => nothing
  | turns + 1 => once.andThen (times once turns)

/-- The text of a group in front of those of the groups inside of it. -/
def captured (inner : Matching) : Matching := fun start stop captures =>
  ∃ taken inside, inner start stop inside ∧ start.Spans taken stop ∧ captures = taken :: inside

end Matching

mutual

/-- What an expression matches. -/
def Matches : Regex → Matching
  | .empty => .nothing
  | .oneOf ranges => .takes fun taken => ∃ c, taken = [c] ∧ ranges.holds c.toNat = true
  | .look assertion => fun start stop captures =>
      holdsBetween start.before.head? start.after.head? assertion = true ∧
        Matching.nothing start stop captures
  | .capture inner => (Matches inner).captured
  | .sequence items => MatchesInTurn items
  | .choice branches => MatchesAny branches
  -- an upper bound below the lower one counts as the lower one
  | .repeated inner least most => fun start stop captures =>
      ∃ further, (∀ bound ∈ most, further ≤ bound - least) ∧
        (Matches inner).times (least + further) start stop captures

/-- What several expressions match one after another. -/
def MatchesInTurn : List Regex → Matching
  | [] => .nothing
  | item :: rest => (Matches item).andThen (MatchesInTurn rest)

/-- What one of several expressions matches. -/
def MatchesAny : List Regex → Matching
  | [] => fun _ _ _ => False
  | branch :: rest => fun start stop captures =>
      Matches branch start stop captures ∨ MatchesAny rest start stop captures

end

/-! ## Laws of matching -/

namespace Matching

variable {first second third : Matching} {property other : List Char → Prop}

theorem nothing_eq_takes : nothing = takes (· = []) := by
  funext start stop captures
  simp [nothing, takes, Place.spans_nil_iff]

@[simp] theorem nothing_andThen : nothing.andThen first = first := by
  funext start stop captures
  apply propext
  constructor
  · rintro ⟨between, early, late, ⟨rfl, rfl⟩, matched, rfl⟩
    exact matched
  · intro matched
    exact ⟨start, [], captures, ⟨rfl, rfl⟩, matched, rfl⟩

@[simp] theorem andThen_nothing : first.andThen nothing = first := by
  funext start stop captures
  apply propext
  constructor
  · rintro ⟨between, early, late, matched, ⟨rfl, rfl⟩, rfl⟩
    rwa [List.append_nil]
  · intro matched
    exact ⟨stop, captures, [], matched, ⟨rfl, rfl⟩, (List.append_nil _).symm⟩

theorem andThen_assoc :
    (first.andThen second).andThen third = first.andThen (second.andThen third) := by
  funext start stop captures
  apply propext
  constructor
  · rintro ⟨_, _, late, ⟨between, early, middle, matched, goesOn, rfl⟩, ends, rfl⟩
    exact ⟨between, early, middle ++ late, matched, ⟨_, middle, late, goesOn, ends, rfl⟩,
      List.append_assoc _ _ _⟩
  · rintro ⟨between, early, _, matched, ⟨_, middle, late, goesOn, ends, rfl⟩, rfl⟩
    exact ⟨_, early ++ middle, late, ⟨between, early, middle, matched, goesOn, rfl⟩, ends,
      (List.append_assoc _ _ _).symm⟩

theorem takes_andThen_takes :
    (takes property).andThen (takes other) =
      takes fun taken => ∃ early late, property early ∧ other late ∧ taken = early ++ late := by
  funext start stop captures
  apply propext
  constructor
  · rintro ⟨between, _, _, ⟨early, holds, spans, rfl⟩, ⟨late, holdsNext, spansNext, rfl⟩, rfl⟩
    exact ⟨early ++ late, ⟨early, late, holds, holdsNext, rfl⟩,
      Place.spans_append_iff.mpr ⟨between, spans, spansNext⟩, rfl⟩
  · rintro ⟨_, ⟨early, late, holds, holdsNext, rfl⟩, spans, rfl⟩
    obtain ⟨between, spansEarly, spansLate⟩ := Place.spans_append_iff.mp spans
    exact ⟨between, [], [], ⟨early, holds, spansEarly, rfl⟩, ⟨late, holdsNext, spansLate, rfl⟩,
      rfl⟩

theorem times_add (once : Matching) (earlier later : Nat) :
    once.times (earlier + later) = (once.times earlier).andThen (once.times later) := by
  induction earlier with
  | zero => rw [Nat.zero_add, times, nothing_andThen]
  | succ earlier ih => rw [Nat.succ_add, times, ih, times, andThen_assoc]

/-- The text of a group without groups inside of it. -/
theorem captured_takes {start stop : Place} {captures : List (List Char)} :
    (takes property).captured start stop captures ↔
      ∃ taken, property taken ∧ start.Spans taken stop ∧ captures = [taken] := by
  constructor
  · rintro ⟨taken, inside, ⟨same, holds, spansSame, rfl⟩, spans, rfl⟩
    obtain rfl := spans.unique spansSame
    exact ⟨taken, holds, spans, rfl⟩
  · rintro ⟨taken, holds, spans, rfl⟩
    exact ⟨taken, [], ⟨taken, holds, spans, rfl⟩, spans, rfl⟩

end Matching

theorem matches_capture (inner : Regex) : Matches (.capture inner) = (Matches inner).captured :=
  rfl

theorem matches_sequence (items : List Regex) : Matches (.sequence items) = MatchesInTurn items :=
  rfl

theorem look_andThen_iff {assertion : Look} {rest : Matching} {start stop : Place}
    {captures : List (List Char)} :
    (Matches (.look assertion)).andThen rest start stop captures ↔
      holdsBetween start.before.head? start.after.head? assertion = true ∧
        rest start stop captures := by
  constructor
  · rintro ⟨between, early, late, ⟨holds, rfl, rfl⟩, matched, rfl⟩
    exact ⟨holds, matched⟩
  · rintro ⟨holds, matched⟩
    exact ⟨start, [], captures, ⟨holds, rfl, rfl⟩, matched, rfl⟩

theorem andThen_look_iff {assertion : Look} {first : Matching} {start stop : Place}
    {captures : List (List Char)} :
    first.andThen (Matches (.look assertion)) start stop captures ↔
      first start stop captures ∧
        holdsBetween stop.before.head? stop.after.head? assertion = true := by
  constructor
  · rintro ⟨between, early, late, matched, ⟨holds, rfl, rfl⟩, rfl⟩
    rw [List.append_nil]
    exact ⟨matched, holds⟩
  · rintro ⟨matched, holds⟩
    exact ⟨stop, captures, [], matched, ⟨holds, rfl, rfl⟩, (List.append_nil _).symm⟩

theorem matchesInTurn_single (item : Regex) : MatchesInTurn [item] = Matches item :=
  Matching.andThen_nothing

theorem matchesInTurn_append (earlier later : List Regex) :
    MatchesInTurn (earlier ++ later) = (MatchesInTurn earlier).andThen (MatchesInTurn later) := by
  induction earlier with
  | nil => exact Matching.nothing_andThen.symm
  | cons item rest ih =>
      rw [List.cons_append, MatchesInTurn, ih, MatchesInTurn, Matching.andThen_assoc]

/-! ## Characters -/

theorem matches_oneOf (ranges : Unicode.Ranges) :
    Matches (.oneOf ranges) = .takes fun taken => ∃ c, taken = [c] ∧ ranges.holds c.toNat = true :=
  rfl

/-- The expression for a text that stands for itself. -/
def literal (text : List Char) : List Regex :=
  text.map fun c => .oneOf [(c.toNat, c.toNat)]

theorem holds_single_iff {c d : Char} :
    Unicode.Ranges.holds [(c.toNat, c.toNat)] d.toNat = true ↔ d = c := by
  simp only [Unicode.Ranges.holds, List.any_cons, List.any_nil, Bool.or_false, Bool.and_eq_true,
    decide_eq_true_eq]
  constructor
  · rintro ⟨low, high⟩
    exact Char.toNat_inj.mp (Nat.le_antisymm high low)
  · rintro rfl
    exact ⟨Nat.le_refl _, Nat.le_refl _⟩

theorem matchesInTurn_literal (text : List Char) :
    MatchesInTurn (literal text) = .takes (· = text) := by
  induction text with
  | nil => exact Matching.nothing_eq_takes
  | cons c rest ih =>
      change (Matches (.oneOf [(c.toNat, c.toNat)])).andThen (MatchesInTurn (literal rest)) = _
      rw [ih, matches_oneOf, Matching.takes_andThen_takes]
      simp [holds_single_iff]

theorem times_oneOf (ranges : Unicode.Ranges) (turns : Nat) :
    (Matches (.oneOf ranges)).times turns =
      .takes fun run => run.length = turns ∧ ∀ c ∈ run, ranges.holds c.toNat = true := by
  induction turns with
  | zero =>
      rw [Matching.times, Matching.nothing_eq_takes]
      congr 1
      funext run
      simp +contextual [List.length_eq_zero_iff]
  | succ turns ih =>
      rw [Matching.times, ih, matches_oneOf, Matching.takes_andThen_takes]
      congr 1
      funext run
      apply propext
      constructor
      · rintro ⟨_, rest, ⟨c, rfl, own⟩, ⟨rfl, others⟩, rfl⟩
        exact ⟨rfl, List.forall_mem_cons.mpr ⟨own, others⟩⟩
      · rintro ⟨long, all⟩
        obtain ⟨c, rest, rfl⟩ := List.exists_cons_of_length_eq_add_one long
        obtain ⟨own, others⟩ := List.forall_mem_cons.mp all
        exact ⟨[c], rest, ⟨c, rfl, own⟩, ⟨Nat.succ.inj long, others⟩, rfl⟩

/-- A run of characters of a class. -/
theorem matches_run (ranges : Unicode.Ranges) (least : Nat) :
    Matches (.repeated (.oneOf ranges) least none) =
      .takes fun run => least ≤ run.length ∧ ∀ c ∈ run, ranges.holds c.toNat = true := by
  funext start stop captures
  rw [Matches]
  simp only [times_oneOf]
  apply propext
  constructor
  · rintro ⟨further, _, run, ⟨long, all⟩, spans, rfl⟩
    exact ⟨run, ⟨long ▸ Nat.le_add_right least further, all⟩, spans, rfl⟩
  · rintro ⟨run, ⟨enough, all⟩, spans, rfl⟩
    refine ⟨run.length - least, nofun, run, ⟨?_, all⟩, spans, rfl⟩
    exact (Nat.add_sub_cancel' enough).symm

/-- What may be there or not. -/
theorem matches_optional {inner : Regex} {property : List Char → Prop}
    (takes : Matches inner = .takes property) :
    Matches (.repeated inner 0 (some 1)) = .takes fun taken => taken = [] ∨ property taken := by
  funext start stop captures
  rw [Matches, takes]
  apply propext
  constructor
  · rintro ⟨turns, bounded, matched⟩
    rw [Nat.zero_add] at matched
    rcases Nat.le_one_iff_eq_zero_or_eq_one.mp (bounded 1 rfl) with rfl | rfl
    · obtain ⟨rfl, rfl⟩ := matched
      exact ⟨[], Or.inl rfl, Place.spans_nil_iff.mpr rfl, rfl⟩
    · rw [Matching.times, Matching.times, Matching.andThen_nothing] at matched
      obtain ⟨taken, holds, spans, rfl⟩ := matched
      exact ⟨taken, Or.inr holds, spans, rfl⟩
  · rintro ⟨taken, rfl | holds, spans, rfl⟩
    · exact ⟨0, by simp, Place.spans_nil_iff.mp spans, rfl⟩
    · refine ⟨1, by simp, ?_⟩
      rw [Nat.zero_add, Matching.times, Matching.times, Matching.andThen_nothing]
      exact ⟨taken, holds, spans, rfl⟩

/-! ## Searches -/

/-- A search through a text from a place on. Where a match starts, some match is found that takes
characters, and the search goes on behind it; else it passes over one character. -/
inductive Search (regex : Regex) : Place → List (List (List Char)) → Prop where
  | ended {before : List Char}
      (unmatched : ∀ stop captures, ¬ Matches regex ⟨before, []⟩ stop captures) :
      Search regex ⟨before, []⟩ []
  | passed {before after : List Char} {c : Char} {others : List (List (List Char))}
      (unmatched : ∀ stop captures, ¬ Matches regex ⟨before, c :: after⟩ stop captures)
      (rest : Search regex ⟨c :: before, after⟩ others) : Search regex ⟨before, c :: after⟩ others
  | found {start stop : Place} {captures : List (List Char)} {others : List (List (List Char))}
      (matched : Matches regex start stop captures) (ahead : start ≠ stop)
      (rest : Search regex stop others) : Search regex start (captures :: others)

/-- A search finds something where there is a match at its start or behind it. -/
theorem Search.eq_nil_iff {regex : Regex} {start : Place} {found : List (List (List Char))}
    (search : Search regex start found) :
    found = [] ↔ ∀ skipped place stop captures, start.Spans skipped place →
      ¬ Matches regex place stop captures := by
  induction search with
  | ended unmatched =>
      refine iff_of_true rfl fun skipped place stop captures spans => ?_
      obtain ⟨rfl, _⟩ := List.append_eq_nil_iff.mp spans.after.symm
      obtain rfl := Place.spans_nil_iff.mp spans
      exact unmatched stop captures
  | @passed before after c others unmatched rest ih =>
      rw [ih]
      constructor
      · rintro none (_ | ⟨d, skipped⟩) place stop captures spans
        · obtain rfl := Place.spans_nil_iff.mp spans
          exact unmatched stop captures
        · obtain ⟨_, others⟩ := Place.spans_cons_iff.mp spans
          exact none skipped place stop captures others
      · intro none skipped place stop captures spans
        exact none (c :: skipped) place stop captures (Place.spans_cons_iff.mpr ⟨rfl, spans⟩)
  | @found start stop captures others matched _ _ _ =>
      refine iff_of_false (List.cons_ne_nil _ _) fun none => ?_
      exact none [] start stop captures (Place.spans_nil_iff.mpr rfl) matched

/-- Every match takes some characters. -/
def Advances (regex : Regex) : Prop :=
  ∀ start stop captures, Matches regex start stop captures → stop.after.length < start.after.length

/-- There is a search for an expression that only matches where it takes characters. -/
theorem Advances.exists_search {regex : Regex} (advances : Advances regex) (start : Place) :
    ∃ found, Search regex start found := by
  induction long : start.after.length using Nat.strongRecOn generalizing start with
  | ind length ih =>
      by_cases some : ∃ stop captures, Matches regex start stop captures
      · obtain ⟨stop, captures, matched⟩ := some
        have shorter := advances start stop captures matched
        obtain ⟨others, rest⟩ := ih stop.after.length (long ▸ shorter) stop rfl
        refine ⟨captures :: others, .found matched ?_ rest⟩
        rintro rfl
        exact Nat.lt_irrefl _ shorter
      · have unmatched (stop : Place) (captures : List (List Char)) :
            ¬ Matches regex start stop captures := fun matched => some ⟨stop, captures, matched⟩
        obtain ⟨before, after⟩ := start
        cases after with
        | nil => exact ⟨[], .ended unmatched⟩
        | cons c after =>
            obtain ⟨others, rest⟩ :=
              ih after.length (long ▸ Nat.lt_succ_self _) ⟨c :: before, after⟩ rfl
            exact ⟨others, .passed unmatched rest⟩

end MappedCoverage.Regex
