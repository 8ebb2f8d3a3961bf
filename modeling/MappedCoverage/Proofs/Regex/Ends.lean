import MappedCoverage.Proofs.Regex.Matching

/-!
# Ends of matches

The matcher reaches the places where a match can end, and no others. Repetitions are followed level
by level until a level finds nothing new; as no match goes backwards, no more levels than the text
has characters can find something.
-/

namespace MappedCoverage.Regex

theorem mem_mergeFrom {place : Nat} (fuel : Nat) (a b : Places) :
    place ∈ mergeFrom fuel a b ↔ place ∈ a ∨ place ∈ b := by
  fun_induction mergeFrom fuel a b <;> grind

theorem mem_merge {place : Nat} {a b : Places} : place ∈ merge a b ↔ place ∈ a ∨ place ∈ b :=
  mem_mergeFrom _ a b

/-! ## Places of a text -/

/-- The place of a text behind a number of its characters. -/
def placeAt (text : List Char) (index : Nat) : Place :=
  ⟨(text.take index).reverse, text.drop index⟩

/-- A match goes forward. -/
def Matching.Forward (matching : Matching) : Prop :=
  ∀ start stop captures, matching start stop captures → ∃ taken, start.Spans taken stop

/-- A match leads from one place of a text to another. -/
def Leads (text : List Char) (matching : Matching) (i j : Nat) : Prop :=
  j ≤ text.length ∧ ∃ captures, matching (placeAt text i) (placeAt text j) captures

section

variable {text taken : List Char} {i j : Nat} {stop : Place}

theorem placeAt_append (before after : List Char) :
    placeAt (before ++ after) before.length = ⟨before.reverse, after⟩ := by
  rw [placeAt, List.take_left, List.drop_left]

theorem placeAt_inj (inside : i ≤ text.length) (insideOther : j ≤ text.length) :
    placeAt text i = placeAt text j ↔ i = j := by
  constructor
  · intro same
    have long := congrArg (·.after.length) same
    simp only [placeAt, List.length_drop] at long
    omega
  · rintro rfl
    rfl

theorem eq_placeAt_of_spans (inside : i ≤ text.length) (spans : (placeAt text i).Spans taken stop) :
    i + taken.length ≤ text.length ∧ stop = placeAt text (i + taken.length) := by
  obtain ⟨before, after⟩ := stop
  obtain ⟨rest, rfl⟩ := spans
  have whole : text = text.take i ++ taken ++ after := by
    rw [List.append_assoc, ← rest]
    exact (List.take_append_drop i text).symm
  have long : (text.take i ++ taken).length = i + taken.length := by
    rw [List.length_append, List.length_take_of_le inside]
  constructor
  · have total := congrArg List.length whole
    rw [List.length_append, long] at total
    omega
  · have behind := placeAt_append (text.take i ++ taken) after
    rw [← whole, long] at behind
    rw [behind, List.reverse_append]
    rfl

variable {first second once : Matching} {k n : Nat}

theorem Leads.le (forward : first.Forward) (inside : i ≤ text.length)
    (leads : Leads text first i j) : i ≤ j := by
  obtain ⟨insideOther, captures, matched⟩ := leads
  obtain ⟨taken, spans⟩ := forward _ _ _ matched
  obtain ⟨bounded, same⟩ := eq_placeAt_of_spans inside spans
  have reached := (placeAt_inj insideOther bounded).mp same
  omega

theorem leads_nothing_iff (inside : i ≤ text.length) : Leads text .nothing i j ↔ i = j := by
  constructor
  · rintro ⟨insideOther, _, same, _⟩
    exact (placeAt_inj inside insideOther).mp same
  · rintro rfl
    exact ⟨inside, [], rfl, rfl⟩

theorem leads_andThen_iff (forward : first.Forward) (inside : i ≤ text.length) :
    Leads text (first.andThen second) i j ↔
      ∃ k, Leads text first i k ∧ Leads text second k j := by
  constructor
  · rintro ⟨insideLast, _, between, early, late, matched, goesOn, rfl⟩
    obtain ⟨taken, spans⟩ := forward _ _ _ matched
    obtain ⟨insideNext, rfl⟩ := eq_placeAt_of_spans inside spans
    exact ⟨_, ⟨insideNext, early, matched⟩, insideLast, late, goesOn⟩
  · rintro ⟨k, ⟨_, early, matched⟩, insideLast, late, goesOn⟩
    exact ⟨insideLast, early ++ late, placeAt text k, early, late, matched, goesOn, rfl⟩

theorem leads_oneOf_iff {ranges : Unicode.Ranges} (inside : i ≤ text.length) :
    Leads text (Matches (.oneOf ranges)) i j ↔
      ∃ c, text[i]? = some c ∧ ranges.holds c.toNat = true ∧ i + 1 = j := by
  constructor
  · rintro ⟨insideNext, _, _, ⟨c, rfl, holds⟩, spans, _⟩
    obtain ⟨bounded, same⟩ := eq_placeAt_of_spans inside spans
    refine ⟨c, ?_, holds, ((placeAt_inj insideNext bounded).mp same).symm⟩
    rw [← List.head?_drop]
    exact congrArg List.head? spans.after
  · rintro ⟨c, found, holds, rfl⟩
    obtain ⟨short, rfl⟩ := List.getElem?_eq_some_iff.mp found
    refine ⟨short, [], [text[i]], ⟨_, rfl, holds⟩, ⟨?_, ?_⟩, rfl⟩
    · exact List.drop_eq_getElem_cons short
    · rw [placeAt, List.take_succ_eq_append_getElem short, List.reverse_append]
      rfl

/-- Turns that take nothing can be left out. -/
theorem Leads.shortened (forward : once.Forward) (inside : i ≤ text.length)
    (leads : Leads text (once.times n) i j) :
    ∃ m ≤ n, i + m ≤ j ∧ Leads text (once.times m) i j := by
  induction n generalizing i with
  | zero =>
      obtain rfl := (leads_nothing_iff inside).mp leads
      exact ⟨0, Nat.le_refl 0, Nat.le_refl i, leads⟩
  | succ n ih =>
      obtain ⟨k, turn, others⟩ := (leads_andThen_iff forward inside).mp leads
      obtain ⟨m, fewer, ahead, shorter⟩ := ih turn.1 others
      rcases Nat.eq_or_lt_of_le (turn.le forward inside) with rfl | further
      · exact ⟨m, Nat.le_succ_of_le fewer, ahead, shorter⟩
      · refine ⟨m + 1, Nat.succ_le_succ fewer, by omega, ?_⟩
        exact (leads_andThen_iff forward inside).mpr ⟨k, turn, shorter⟩

end

/-! ## Neighbours -/

theorem head?_before_placeAt {text : Array Char} {i : Nat} (inside : i ≤ text.toList.length) :
    (placeAt text.toList i).before.head? = charBefore? text i := by
  rw [placeAt, List.head?_reverse, List.getLast?_take, charBefore?]
  split
  case isTrue => rfl
  case isFalse filled =>
    have short : i - 1 < text.toList.length := by omega
    rw [List.getElem?_eq_getElem short, Option.some_or, ← Array.getElem?_toList,
      List.getElem?_eq_getElem short]

theorem head?_after_placeAt (text : Array Char) (i : Nat) :
    (placeAt text.toList i).after.head? = text[i]? := by
  rw [placeAt, List.head?_drop, Array.getElem?_toList]

theorem leads_look_iff {text : Array Char} {assertion : Look} {i j : Nat}
    (inside : i ≤ text.toList.length) :
    Leads text.toList (Matches (.look assertion)) i j ↔
      holdsBetween (charBefore? text i) text[i]? assertion = true ∧ i = j := by
  rw [← head?_before_placeAt inside, ← head?_after_placeAt text i, ← leads_nothing_iff inside]
  constructor
  · rintro ⟨insideOther, captures, holds, matched⟩
    exact ⟨holds, insideOther, captures, matched⟩
  · rintro ⟨holds, insideOther, captures, matched⟩
    exact ⟨insideOther, captures, holds, matched⟩

/-! ## Steps -/

/-- A step reaches the places that a way of matching leads to. -/
structure Finds (text : List Char) (matching : Matching) (step : Places → Places) : Prop where
  forward : matching.Forward
  mem_iff : ∀ places : Places, (∀ i ∈ places, i ≤ text.length) →
    ∀ j, j ∈ step places ↔ ∃ i ∈ places, Leads text matching i j

section

variable {text : List Char} {first second once : Matching} {step other : Places → Places}
  {places : Places}

theorem Finds.inside (finds : Finds text first step) (inside : ∀ i ∈ places, i ≤ text.length) :
    ∀ j ∈ step places, j ≤ text.length := by
  intro j reached
  obtain ⟨i, _, leads⟩ := (finds.mem_iff places inside j).mp reached
  exact leads.1

theorem finds_nothing : Finds text .nothing fun places => places where
  forward := by
    rintro start _ _ ⟨rfl, _⟩
    exact ⟨[], Place.spans_nil_iff.mpr rfl⟩
  mem_iff := by
    intro places inside j
    constructor
    · intro listed
      exact ⟨j, listed, (leads_nothing_iff (inside j listed)).mpr rfl⟩
    · rintro ⟨i, listed, leads⟩
      obtain rfl := (leads_nothing_iff (inside i listed)).mp leads
      exact listed

theorem Finds.andThen (findsFirst : Finds text first step) (findsSecond : Finds text second other) :
    Finds text (first.andThen second) fun places => other (step places) where
  forward := by
    rintro start stop _ ⟨between, early, late, matched, goesOn, _⟩
    obtain ⟨taken, spans⟩ := findsFirst.forward _ _ _ matched
    obtain ⟨takenNext, spansNext⟩ := findsSecond.forward _ _ _ goesOn
    exact ⟨taken ++ takenNext, Place.spans_append_iff.mpr ⟨between, spans, spansNext⟩⟩
  mem_iff := by
    intro places inside j
    rw [findsSecond.mem_iff _ (findsFirst.inside inside)]
    constructor
    · rintro ⟨k, reached, leads⟩
      obtain ⟨i, listed, leadsFirst⟩ := (findsFirst.mem_iff places inside k).mp reached
      exact ⟨i, listed,
        (leads_andThen_iff findsFirst.forward (inside i listed)).mpr ⟨k, leadsFirst, leads⟩⟩
    · rintro ⟨i, listed, leads⟩
      obtain ⟨k, leadsFirst, leadsSecond⟩ :=
        (leads_andThen_iff findsFirst.forward (inside i listed)).mp leads
      exact ⟨k, (findsFirst.mem_iff places inside k).mpr ⟨i, listed, leadsFirst⟩, leadsSecond⟩

theorem Finds.captured (finds : Finds text first step) : Finds text first.captured step where
  forward := by
    rintro start stop _ ⟨taken, _, _, spans, _⟩
    exact ⟨taken, spans⟩
  mem_iff := by
    intro places inside j
    rw [finds.mem_iff places inside]
    refine exists_congr fun i => and_congr_right fun _ => and_congr_right fun _ => ?_
    constructor
    · rintro ⟨captures, matched⟩
      obtain ⟨taken, spans⟩ := finds.forward _ _ _ matched
      exact ⟨taken :: captures, taken, captures, matched, spans, rfl⟩
    · rintro ⟨_, _, captures, matched, _, _⟩
      exact ⟨captures, matched⟩

theorem finds_never : Finds text (fun _ _ _ => False) fun _ => [] where
  forward := fun _ _ _ => False.elim
  mem_iff := by
    intro places _ j
    simp [Leads]

theorem Finds.either (findsFirst : Finds text first step) (findsSecond : Finds text second other) :
    Finds text (fun start stop captures => first start stop captures ∨ second start stop captures)
      fun places => merge (step places) (other places) where
  forward := by
    rintro start stop captures (matched | matched)
    · exact findsFirst.forward _ _ _ matched
    · exact findsSecond.forward _ _ _ matched
  mem_iff := by
    intro places inside j
    rw [mem_merge, findsFirst.mem_iff places inside, findsSecond.mem_iff places inside,
      ← exists_or]
    refine exists_congr fun i => ?_
    rw [← and_or_left, Leads, Leads, ← and_or_left, ← exists_or]
    rfl

theorem finds_oneOf (text : Array Char) (ranges : Unicode.Ranges) :
    Finds text.toList (Matches (.oneOf ranges)) (afterOneOf text ranges) where
  forward := by
    rintro start stop _ ⟨taken, _, spans, _⟩
    exact ⟨taken, spans⟩
  mem_iff := by
    intro places inside j
    rw [afterOneOf, List.mem_filterMap]
    refine exists_congr fun i => and_congr_right fun listed => ?_
    rw [leads_oneOf_iff (inside i listed)]
    rw [Array.getElem?_toList]
    cases text[i]? with
    | none => simp
    | some c =>
        by_cases holds : ranges.holds c.toNat = true <;> simp [holds]

theorem finds_look (text : Array Char) (assertion : Look) :
    Finds text.toList (Matches (.look assertion)) fun places => places.filter fun place =>
      holdsBetween (charBefore? text place) text[place]? assertion where
  forward := by
    rintro start _ _ ⟨_, rfl, _⟩
    exact ⟨[], Place.spans_nil_iff.mpr rfl⟩
  mem_iff := by
    intro places inside j
    rw [List.mem_filter]
    constructor
    · rintro ⟨listed, holds⟩
      exact ⟨j, listed, (leads_look_iff (inside j listed)).mpr ⟨holds, rfl⟩⟩
    · rintro ⟨i, listed, leads⟩
      obtain ⟨holds, rfl⟩ := (leads_look_iff (inside i listed)).mp leads
      exact ⟨listed, holds⟩

theorem Finds.times (finds : Finds text once step) (turns : Nat) :
    Finds text (once.times turns) (steps step turns) := by
  induction turns with
  | zero => exact finds_nothing
  | succ turns ih =>
      have nowhere : step [] = [] := by
        refine List.eq_nil_iff_forall_not_mem.mpr fun j reached => ?_
        obtain ⟨i, listed, _⟩ := (finds.mem_iff [] (by simp) j).mp reached
        cases listed
      have stays : steps step turns [] = [] := by cases turns <;> rfl
      have turn : steps step (turns + 1) = fun places => steps step turns (step places) := by
        funext places
        cases places with
        | nil => rw [nowhere, stays, steps]
        | cons place others => rfl
      rw [turn]
      exact finds.andThen ih

/-- Turns from what is reached stay there, or go through the next level. -/
theorem Leads.exit {reached next : Places} {i j turns : Nat} (forward : once.Forward)
    (inside : ∀ i ∈ reached, i ≤ text.length)
    (turn : ∀ i ∈ reached, ∀ k, Leads text once i k → k ∈ reached ∨ k ∈ next)
    (listed : i ∈ reached) (leads : Leads text (once.times turns) i j) :
    j ∈ reached ∨ ∃ fewer < turns, ∃ k ∈ next, Leads text (once.times fewer) k j := by
  induction turns generalizing i with
  | zero =>
      obtain rfl := (leads_nothing_iff (inside i listed)).mp leads
      exact Or.inl listed
  | succ turns ih =>
      obtain ⟨k, first, others⟩ := (leads_andThen_iff forward (inside i listed)).mp leads
      rcases turn i listed k first with old | new
      · rcases ih old others with last | ⟨fewer, less, exit⟩
        · exact Or.inl last
        · exact Or.inr ⟨fewer, Nat.lt_succ_of_lt less, exit⟩
      · exact Or.inr ⟨turns, Nat.lt_succ_self turns, k, new, others⟩

/-- All levels but the last are known to lead no further. -/
structure Levels (text : List Char) (once : Matching) (reached frontier : Places) : Prop where
  inside : ∀ i ∈ reached, i ≤ text.length
  part : ∀ i ∈ frontier, i ∈ reached
  closed : ∀ i ∈ reached, i ∉ frontier → ∀ j, Leads text once i j → j ∈ reached

theorem mem_level (finds : Finds text once step) {reached frontier : Places}
    (levels : Levels text once reached frontier) (j : Nat) :
    j ∈ (step frontier).filter (fun place => !reached.contains place) ↔
      (∃ i ∈ frontier, Leads text once i j) ∧ j ∉ reached := by
  have inside (i : Nat) (listed : i ∈ frontier) : i ≤ text.length :=
    levels.inside i (levels.part i listed)
  rw [List.mem_filter, finds.mem_iff frontier inside]
  simp

/-- A turn from what is reached leads to it or to the next level. -/
theorem Levels.turn {reached frontier found : Places} (levels : Levels text once reached frontier)
    (level : ∀ j, j ∈ found ↔ (∃ i ∈ frontier, Leads text once i j) ∧ j ∉ reached) :
    ∀ i ∈ reached, ∀ k, Leads text once i k → k ∈ reached ∨ k ∈ found := by
  intro i listed k leads
  by_cases known : k ∈ reached
  · exact Or.inl known
  · by_cases last : i ∈ frontier
    · exact Or.inr ((level k).mpr ⟨⟨i, last, leads⟩, known⟩)
    · exact Or.inl (levels.closed i listed last k leads)

theorem Levels.next {reached frontier found : Places} (levels : Levels text once reached frontier)
    (level : ∀ j, j ∈ found ↔ (∃ i ∈ frontier, Leads text once i j) ∧ j ∉ reached) :
    Levels text once (merge reached found) found where
  inside := by
    intro i listed
    rcases mem_merge.mp listed with old | new
    · exact levels.inside i old
    · obtain ⟨⟨_, _, leads⟩, _⟩ := (level i).mp new
      exact leads.1
  part := fun i new => mem_merge.mpr (Or.inr new)
  closed := by
    intro i listed old j leads
    rcases mem_merge.mp listed with before | new
    · exact mem_merge.mpr (levels.turn level i before j leads)
    · exact absurd new old

/-- What is reached by a number of further levels is what at most as many turns lead to. -/
theorem mem_stepsUpTo (finds : Finds text once step) (count : Nat) {reached frontier : Places}
    (levels : Levels text once reached frontier) (j : Nat) :
    j ∈ stepsUpTo step count reached frontier ↔
      ∃ turns ≤ count, ∃ i ∈ reached, Leads text (once.times turns) i j := by
  have here (count : Nat) {reached : Places} (inside : ∀ i ∈ reached, i ≤ text.length)
      (listed : j ∈ reached) :
      ∃ turns ≤ count, ∃ i ∈ reached, Leads text (once.times turns) i j :=
    ⟨0, Nat.zero_le count, j, listed, (leads_nothing_iff (inside j listed)).mpr rfl⟩
  induction count generalizing reached frontier with
  | zero =>
      constructor
      · exact here 0 levels.inside
      · rintro ⟨turns, none, i, listed, leads⟩
        obtain rfl := Nat.le_zero.mp none
        obtain rfl := (leads_nothing_iff (levels.inside i listed)).mp leads
        exact listed
  | succ count ih =>
      have level := mem_level finds levels
      simp only [stepsUpTo]
      generalize (step frontier).filter (fun place => !reached.contains place) = found at level ⊢
      split
      case isTrue none =>
        constructor
        · exact here (count + 1) levels.inside
        · rintro ⟨turns, _, i, listed, leads⟩
          rcases leads.exit finds.forward levels.inside (levels.turn level) listed with
            last | ⟨_, _, k, new, _⟩
          · exact last
          · rw [List.isEmpty_iff.mp none] at new
            cases new
      case isFalse =>
        refine (ih (levels.next level)).trans ?_
        constructor
        · rintro ⟨turns, few, k, listed, leads⟩
          rcases mem_merge.mp listed with old | new
          · exact ⟨turns, Nat.le_succ_of_le few, k, old, leads⟩
          · obtain ⟨⟨i, last, first⟩, _⟩ := (level k).mp new
            have known := levels.part i last
            refine ⟨turns + 1, Nat.succ_le_succ few, i, known, ?_⟩
            exact (leads_andThen_iff finds.forward (levels.inside i known)).mpr ⟨k, first, leads⟩
        · rintro ⟨turns, few, i, listed, leads⟩
          rcases leads.exit finds.forward levels.inside (levels.turn level) listed with
            last | ⟨fewer, less, k, new, rest⟩
          · exact here count (levels.next level).inside (mem_merge.mpr (Or.inl last))
          · exact ⟨fewer, by omega, k, mem_merge.mpr (Or.inr new), rest⟩

/-- A repetition whose further turns are bounded as the search for them is, up to the turns that
take nothing. -/
theorem Finds.repeated (finds : Finds text once step) {allowed : Nat → Prop} (least : Nat)
    {further : Nat} (bounded : ∀ turns ≤ further, allowed turns)
    (enough : ∀ turns, allowed turns → ∀ fewer ≤ turns, fewer ≤ text.length → fewer ≤ further) :
    Finds text
      (fun start stop captures => ∃ turns, allowed turns ∧
        once.times (least + turns) start stop captures)
      fun places =>
        stepsUpTo step further (steps step least places) (steps step least places) where
  forward := by
    rintro start stop captures ⟨turns, _, matched⟩
    exact (finds.times (least + turns)).forward _ _ _ matched
  mem_iff := by
    intro places inside j
    have reached := finds.times least
    have levels : Levels text once (steps step least places) (steps step least places) :=
      ⟨reached.inside inside, fun _ listed => listed, fun _ listed new => absurd listed new⟩
    rw [mem_stepsUpTo finds further levels]
    constructor
    · rintro ⟨turns, few, k, listed, leads⟩
      obtain ⟨i, started, first⟩ := (reached.mem_iff places inside k).mp listed
      obtain ⟨insideLast, captures, matched⟩ :=
        (leads_andThen_iff reached.forward (inside i started)).mpr ⟨k, first, leads⟩
      refine ⟨i, started, insideLast, captures, turns, bounded turns few, ?_⟩
      rwa [Matching.times_add]
    · rintro ⟨i, started, insideLast, captures, turns, within, matched⟩
      rw [Matching.times_add] at matched
      obtain ⟨k, first, leads⟩ := (leads_andThen_iff reached.forward (inside i started)).mp
        ⟨insideLast, captures, matched⟩
      obtain ⟨fewer, less, ahead, shorter⟩ := leads.shortened finds.forward first.1
      refine ⟨fewer, enough turns within fewer less (by omega), k, ?_, shorter⟩
      exact (reached.mem_iff places inside k).mpr ⟨i, started, first⟩

end

/-! ## Expressions -/

mutual

theorem finds_ends (text : Array Char) :
    (regex : Regex) → Finds text.toList (Matches regex) (ends text regex)
  | .empty => finds_nothing
  | .oneOf ranges => finds_oneOf text ranges
  | .look assertion => finds_look text assertion
  | .capture inner => (finds_ends text inner).captured
  | .sequence items => finds_endsInTurn text items
  | .choice branches => finds_endsOfAny text branches
  | .repeated inner least none => by
      refine (finds_ends text inner).repeated least ?_ ?_
      · simp
      · intro _ _ fewer _ inside
        exact Nat.le_succ_of_le inside
  | .repeated inner least (some most) => by
      refine (finds_ends text inner).repeated least ?_ ?_
      · intro turns few bound same
        cases same
        exact Nat.le_trans few (Nat.min_le_left _ _)
      · intro turns within fewer less inside
        have allowed := within most rfl
        exact Nat.le_min.mpr ⟨Nat.le_trans less allowed, Nat.le_succ_of_le inside⟩

theorem finds_endsInTurn (text : Array Char) :
    (items : List Regex) → Finds text.toList (MatchesInTurn items) (endsInTurn text items)
  | [] => finds_nothing
  | item :: rest => (finds_ends text item).andThen (finds_endsInTurn text rest)

theorem finds_endsOfAny (text : Array Char) :
    (branches : List Regex) → Finds text.toList (MatchesAny branches) (endsOfAny text branches)
  | [] => finds_never
  | branch :: rest => (finds_ends text branch).either (finds_endsOfAny text rest)

end

/-- A text matches where a match lies between two of its places. -/
theorem isMatch_iff {regex : Regex} {text : String} :
    regex.isMatch text = true ↔
      ∃ skipped start stop captures,
        (⟨[], text.toList⟩ : Place).Spans skipped start ∧ Matches regex start stop captures := by
  have finds := finds_ends text.toList.toArray regex
  have inside (i : Nat) (listed : i ∈ List.range (text.toList.length + 1)) :
      i ≤ text.toList.length := Nat.le_of_lt_succ (List.mem_range.mp listed)
  have reached : regex.isMatch text = true ↔
      ∃ j, j ∈ ends text.toList.toArray regex (List.range (text.toList.length + 1)) := by
    simp [isMatch, List.eq_nil_iff_forall_not_mem]
  rw [reached]
  constructor
  · rintro ⟨j, ended⟩
    obtain ⟨i, listed, _, captures, matched⟩ := (finds.mem_iff _ inside j).mp ended
    refine ⟨text.toList.take i, placeAt text.toList i, _, captures, ⟨?_, ?_⟩, matched⟩
    · exact (List.take_append_drop i _).symm
    · exact (List.append_nil _).symm
  · rintro ⟨skipped, start, stop, captures, spans, matched⟩
    obtain ⟨insideStart, rfl⟩ := eq_placeAt_of_spans (Nat.zero_le _) spans
    obtain ⟨taken, spansMatch⟩ := finds.forward _ _ _ matched
    obtain ⟨insideStop, rfl⟩ := eq_placeAt_of_spans insideStart spansMatch
    refine ⟨_, (finds.mem_iff _ inside _).mpr ⟨_, ?_, insideStop, captures, matched⟩⟩
    exact List.mem_range.mpr (Nat.lt_succ_of_le insideStart)

/-- A text matches where a search of it finds something. -/
theorem Search.isMatch_eq {regex : Regex} {text : String} {found : List (List (List Char))}
    (search : Search regex ⟨[], text.toList⟩ found) : regex.isMatch text = !found.isEmpty := by
  rw [Bool.eq_iff_iff, isMatch_iff, Bool.not_eq_true', List.isEmpty_eq_false_iff, ne_eq,
    search.eq_nil_iff]
  simp only [Classical.not_forall, Classical.not_not, exists_prop]

end MappedCoverage.Regex
