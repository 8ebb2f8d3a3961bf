import Mathlib.Data.List.Chain
import MappedCoverage.Glob.Match

/-!
# What patterns match

A text is matched by tokens when it can be cut into a stretch for each of them. The search tries
stretches shortest first and gives up altogether when the text ends too early; for tokens in which
a run of pieces follows a separator or another such run this loses nothing, so that the search
decides the relation.
-/

namespace MappedCoverage.Glob

/-- Whole pieces in front of a rest: they end with a separator, or with the text. -/
def Whole (pieces rest : List Char) : Prop :=
  pieces = [] ∨ pieces.getLast? = some '/' ∨ rest = []

/-- A token can take a stretch of text in front of a rest. -/
def Token.Takes (token : Token) (taken rest : List Char) : Prop :=
  match token with
  | .anyRun => '/' ∉ taken
  | .anyPieces => Whole taken rest
  | single => ∃ c, taken = [c] ∧ single.admits c = true

/-- A text is a sequence of stretches for tokens. -/
inductive Matches : List Token → List Char → Prop where
  | nil : Matches [] []
  | cons {token : Token} {tokens : List Token} {taken rest : List Char} :
      token.Takes taken rest →
      Matches tokens rest →
      Matches (token :: tokens) (taken ++ rest)

/-- Every run of pieces stands first, after a separator or after another run of pieces. -/
def WellPlaced (tokens : List Token) : Prop :=
  tokens.IsChain fun before token => token = .anyPieces → before = .char '/' ∨ before = .anyPieces

theorem matches_cons_iff {token : Token} {tokens : List Token} {text : List Char} :
    Matches (token :: tokens) text ↔
      ∃ taken rest, text = taken ++ rest ∧ token.Takes taken rest ∧ Matches tokens rest := by
  constructor
  · intro found
    cases found with
    | cons takes others => exact ⟨_, _, rfl, takes, others⟩
  · rintro ⟨taken, rest, rfl, takes, others⟩
    exact .cons takes others

theorem matches_nil_iff {text : List Char} : Matches [] text ↔ text = [] := by
  constructor
  · intro found
    cases found
    rfl
  · rintro rfl
    exact .nil

theorem Whole.append {first second rest : List Char}
    (before : Whole first (second ++ rest)) (after : Whole second rest) :
    Whole (first ++ second) rest := by
  by_cases empty : second = []
  · subst empty
    simpa using before
  · rcases after with none | last | final
    · exact absurd none empty
    · exact Or.inr (Or.inl (by simp [List.getLast?_append, last]))
    · exact Or.inr (Or.inr final)

theorem Whole.after {first second rest : List Char} (whole : Whole (first ++ second) rest) :
    Whole second rest := by
  by_cases empty : second = []
  · exact Or.inl empty
  · rcases whole with none | last | final
    · exact Or.inl (List.append_eq_nil_iff.mp none).2
    · refine Or.inr (Or.inl ?_)
      rwa [List.getLast?_append_of_ne_nil _ empty] at last
    · exact Or.inr (Or.inr final)

/-! ## How a search ends -/

section

variable (next : List Char → Verdict)

theorem afterRun_cons (c : Char) (rest : List Char) :
    afterRun next (c :: rest) =
      if next (c :: rest) = .missed ∧ c ≠ '/' then afterRun next rest else next (c :: rest) := by
  rw [afterRun]
  cases verdict : next (c :: rest) <;> by_cases separator : c = '/' <;> simp [separator]

theorem afterSeparator_cons (c : Char) (rest : List Char) :
    afterSeparator next (c :: rest) =
      if c = '/' ∧ next rest ≠ .missed then next rest else afterSeparator next rest := by
  rw [afterSeparator]
  cases verdict : next rest <;> by_cases separator : c = '/' <;> simp [separator]

theorem afterPieces_eq (text : List Char) :
    afterPieces next text =
      if next text = .missed then afterSeparator next text else next text := by
  rw [afterPieces]
  cases next text <;> simp

/-- A run within a piece ends at the first rest that is not missed, or with the piece. -/
theorem afterRun_stops (text : List Char) :
    ∃ within stop, text = within ++ stop ∧ '/' ∉ within ∧ afterRun next text = next stop ∧
      (∀ taken rest, within = taken ++ rest → rest ≠ [] → next (rest ++ stop) = .missed) ∧
      (next stop = .missed → stop = [] ∨ stop.head? = some '/') := by
  induction text with
  | nil => exact ⟨[], [], rfl, by simp, rfl, by simp, fun _ => Or.inl rfl⟩
  | cons c rest ih =>
      rw [afterRun_cons]
      by_cases passed : next (c :: rest) = .missed ∧ c ≠ '/'
      · obtain ⟨within, stop, rfl, free, same, earlier, final⟩ := ih
        refine ⟨c :: within, stop, rfl, ?_, ?_, ?_, final⟩
        · simp [free, Ne.symm passed.2]
        · rw [if_pos passed, same]
        · intro taken others split nonempty
          cases taken with
          | nil =>
              rw [List.nil_append] at split
              rw [← split]
              exact passed.1
          | cons d taken => exact earlier taken others (List.cons.inj split).2 nonempty
      · refine ⟨[], c :: rest, rfl, by simp, by rw [if_neg passed], by simp, ?_⟩
        intro missed
        by_cases separator : c = '/'
        · exact Or.inr (by rw [separator]; rfl)
        · exact absurd ⟨missed, separator⟩ passed

/-- A run of later pieces ends at the first rest that is not missed, or with the text. -/
theorem afterSeparator_stops (text : List Char) :
    ∃ pieces stop, text = pieces ++ stop ∧ (pieces.getLast? = some '/' ∨ stop = []) ∧
      afterSeparator next text = next stop ∧
      (∀ taken rest, pieces = taken ++ rest → rest ≠ [] → taken.getLast? = some '/' →
        next (rest ++ stop) = .missed) ∧
      (next stop = .missed → stop = []) := by
  induction text with
  | nil => exact ⟨[], [], rfl, Or.inr rfl, rfl, by simp, fun _ => rfl⟩
  | cons c rest ih =>
      rw [afterSeparator_cons]
      by_cases found : c = '/' ∧ next rest ≠ .missed
      · refine ⟨[c], rest, rfl, Or.inl (by rw [found.1]; rfl), by rw [if_pos found], ?_,
          fun missed => absurd missed found.2⟩
        intro taken others split nonempty last
        cases taken with
        | nil => cases last
        | cons d taken =>
            have empty := (List.append_eq_nil_iff.mp (List.cons.inj split).2.symm).2
            exact absurd empty nonempty
      · obtain ⟨pieces, stop, rfl, ends, same, earlier, final⟩ := ih
        refine ⟨c :: pieces, stop, rfl, ?_, by rw [if_neg found, same], ?_, final⟩
        · rcases ends with last | empty
          · exact Or.inl (by simp [List.getLast?_cons, last])
          · exact Or.inr empty
        · intro taken others split nonempty last
          cases taken with
          | nil => cases last
          | cons d taken =>
              obtain ⟨rfl, tails⟩ := List.cons.inj split
              by_cases empty : taken = []
              · subst empty
                have separator : c = '/' := Option.some.inj last
                have passed : pieces = others := tails
                by_contra other
                exact found ⟨separator, by rwa [passed]⟩
              · rw [List.getLast?_cons_of_ne_nil empty] at last
                exact earlier taken others tails nonempty last

/-- A run of pieces ends at the first rest that is not missed, or with the text. -/
theorem afterPieces_stops (text : List Char) :
    ∃ pieces stop, text = pieces ++ stop ∧ Whole pieces stop ∧
      afterPieces next text = next stop ∧
      (∀ taken rest, pieces = taken ++ rest → rest ≠ [] → Whole taken (rest ++ stop) →
        next (rest ++ stop) = .missed) ∧
      (next stop = .missed → stop = []) := by
  rw [afterPieces_eq]
  by_cases missed : next text = .missed
  · obtain ⟨pieces, stop, rfl, ends, same, earlier, final⟩ := afterSeparator_stops next text
    refine ⟨pieces, stop, rfl, Or.inr ends, by rw [if_pos missed, same], ?_, final⟩
    intro taken others split nonempty whole
    rcases whole with empty | last | none
    · rw [empty, List.nil_append] at split
      rw [← split]
      exact missed
    · exact earlier taken others split nonempty last
    · exact absurd (List.append_eq_nil_iff.mp none).1 nonempty
  · exact ⟨[], text, rfl, Or.inl rfl, by rw [if_neg missed], by simp,
      fun yes => absurd yes missed⟩

end

/-! ## The search decides -/

/-- A token that takes one character. -/
def Token.IsSingle (token : Token) : Prop :=
  token ≠ .anyRun ∧ token ≠ .anyPieces

theorem Token.kind (token : Token) : token.IsSingle ∨ token = .anyRun ∨ token = .anyPieces := by
  by_cases within : token = .anyRun
  · exact Or.inr (Or.inl within)
  · by_cases pieces : token = .anyPieces
    · exact Or.inr (Or.inr pieces)
    · exact Or.inl ⟨within, pieces⟩

section

variable {token : Token} {tokens : List Token}

theorem takes_single_iff {taken rest : List Char} (single : token.IsSingle) :
    token.Takes taken rest ↔ ∃ c, taken = [c] ∧ token.admits c = true := by
  cases token with
  | anyRun => exact absurd rfl single.1
  | anyPieces => exact absurd rfl single.2
  | char | anyChar | anyOf | noneOf => rfl

theorem run_single_nil (single : token.IsSingle) : run (token :: tokens) [] = .exhausted := by
  cases token with
  | anyRun => exact absurd rfl single.1
  | anyPieces => exact absurd rfl single.2
  | char | anyChar | anyOf | noneOf => rfl

theorem run_single_cons {c : Char} {rest : List Char} (single : token.IsSingle) :
    run (token :: tokens) (c :: rest) = if token.admits c then run tokens rest else .missed := by
  cases token with
  | anyRun => exact absurd rfl single.1
  | anyPieces => exact absurd rfl single.2
  | char | anyChar | anyOf | noneOf => rfl

theorem matches_single_iff {text : List Char} (single : token.IsSingle) :
    Matches (token :: tokens) text ↔
      ∃ c rest, text = c :: rest ∧ token.admits c = true ∧ Matches tokens rest := by
  rw [matches_cons_iff]
  simp only [takes_single_iff single]
  constructor
  · rintro ⟨_, rest, rfl, ⟨c, rfl, admitted⟩, others⟩
    exact ⟨c, rest, rfl, admitted, others⟩
  · rintro ⟨c, rest, rfl, admitted, others⟩
    exact ⟨[c], rest, rfl, ⟨c, rfl, admitted⟩, others⟩

end

theorem matches_of_run_matched {tokens : List Token} {text : List Char}
    (matched : run tokens text = .matched) : Matches tokens text := by
  induction tokens generalizing text with
  | nil =>
      cases text with
      | nil => exact .nil
      | cons c rest => cases matched
  | cons token tokens ih =>
      rcases token.kind with single | rfl | rfl
      · cases text with
        | nil =>
            rw [run_single_nil single] at matched
            cases matched
        | cons c rest =>
            rw [run_single_cons single] at matched
            by_cases admitted : token.admits c = true
            · rw [if_pos admitted] at matched
              exact (matches_single_iff single).mpr ⟨c, rest, rfl, admitted, ih matched⟩
            · rw [if_neg admitted] at matched
              cases matched
      · obtain ⟨taken, stop, rfl, free, same, _⟩ := afterRun_stops (run tokens) text
        rw [run, same] at matched
        exact .cons free (ih matched)
      · obtain ⟨taken, stop, rfl, whole, same, _⟩ := afterPieces_stops (run tokens) text
        rw [run, same] at matched
        exact .cons whole (ih matched)

/--
A search that fails tells the truth: the text is not matched, and if the text ended too early, no
later part of it at which the tokens may start is matched either.
-/
structure Refutes (tokens : List Token) : Prop where
  missed {text : List Char} : run tokens text = .missed → ¬ Matches tokens text
  exhausted {text skipped rest : List Char} :
    run tokens text = .exhausted →
    text = skipped ++ rest →
    (tokens.head? = some .anyPieces → Whole skipped rest) →
    ¬ Matches tokens rest

namespace Refutes

theorem nil : Refutes [] where
  missed {text} missed := by
    rw [matches_nil_iff]
    rintro rfl
    cases missed
  exhausted {text _ _} exhausted := by
    cases text <;> cases exhausted

variable {token : Token} {tokens : List Token}

theorem single (refutes : Refutes tokens) (single : token.IsSingle)
    (separated : tokens.head? = some .anyPieces → token = .char '/') :
    Refutes (token :: tokens) where
  missed {text} missed := by
    rw [matches_single_iff single]
    rintro ⟨c, rest, rfl, admitted, others⟩
    rw [run_single_cons single, if_pos admitted] at missed
    exact refutes.missed missed others
  exhausted {text skipped rest} exhausted parts _ := by
    rw [matches_single_iff single]
    rintro ⟨d, others, rfl, admitted, matched⟩
    cases skipped with
    | nil =>
        rw [List.nil_append] at parts
        rw [parts, run_single_cons single, if_pos admitted] at exhausted
        exact refutes.exhausted exhausted (List.nil_append _).symm (fun _ => Or.inl rfl) matched
    | cons c skipped =>
        rw [parts, List.cons_append, run_single_cons single] at exhausted
        by_cases first : token.admits c = true
        · rw [if_pos first] at exhausted
          have parts : skipped ++ d :: others = (skipped ++ [d]) ++ others := by simp
          refine refutes.exhausted exhausted parts ?_ matched
          intro head
          have separator : d = '/' := by
            rw [separated head] at admitted
            simpa [Token.admits] using admitted
          exact Or.inr (Or.inl (by simp [separator]))
        · rw [if_neg first] at exhausted
          cases exhausted

theorem not_matches (refutes : Refutes tokens) {text : List Char}
    (failed : run tokens text ≠ .matched) : ¬ Matches tokens text := by
  cases verdict : run tokens text with
  | matched => exact absurd verdict failed
  | missed => exact refutes.missed verdict
  | exhausted => exact refutes.exhausted verdict (List.nil_append _).symm fun _ => Or.inl rfl

/-- Up to the rest at which a search stops without a match, nothing is matched. -/
theorem not_matches_before
    (refutes : Refutes tokens) {stop between rest : List Char}
    (failed : run tokens stop ≠ .matched)
    (earlier : between ≠ [] → run tokens (between ++ stop) = .missed)
    (same : rest = between ++ stop) : ¬ Matches tokens rest := by
  rw [same]
  by_cases empty : between = []
  · rw [empty, List.nil_append]
    exact refutes.not_matches failed
  · exact refutes.missed (earlier empty)

theorem anyRun (refutes : Refutes tokens) (separated : tokens.head? ≠ some .anyPieces) :
    Refutes (.anyRun :: tokens) where
  missed {text} missed := by
    rw [matches_cons_iff]
    rintro ⟨taken, rest, rfl, free, matched⟩
    obtain ⟨within, stop, parts, _, same, earlier, final⟩ :=
      afterRun_stops (run tokens) (taken ++ rest)
    rw [run, same] at missed
    have failed : run tokens stop ≠ .matched := by simp [missed]
    rcases List.append_eq_append_iff.mp parts with ⟨between, split, tails⟩ | ⟨between, split, tails⟩
    · exact refutes.not_matches_before failed (earlier taken between split) tails matched
    · -- The token would take the separator at which the search stopped.
      cases between with
      | nil =>
          rw [tails] at failed
          exact refutes.not_matches failed matched
      | cons c between =>
          rcases final missed with empty | separator
          · rw [tails] at empty
            cases empty
          · rw [tails] at separator
            have same : c = '/' := Option.some.inj separator
            exact free (by simp [split, same])
  exhausted {text skipped rest} exhausted parts _ := by
    rw [matches_cons_iff]
    rintro ⟨taken, others, rfl, free, matched⟩
    obtain ⟨within, stop, cut, _, same, earlier, _⟩ := afterRun_stops (run tokens) text
    rw [run, same] at exhausted
    have failed : run tokens stop ≠ .matched := by simp [exhausted]
    rw [parts, ← List.append_assoc] at cut
    rcases List.append_eq_append_iff.mp cut with ⟨between, split, tails⟩ | ⟨between, split, tails⟩
    · exact refutes.not_matches_before failed (earlier _ between split) tails matched
    · exact refutes.exhausted exhausted tails (fun head => absurd head separated) matched

theorem anyPieces (refutes : Refutes tokens) : Refutes (.anyPieces :: tokens) where
  missed {text} missed := by
    rw [matches_cons_iff]
    rintro ⟨taken, rest, rfl, whole, matched⟩
    obtain ⟨pieces, stop, parts, _, same, earlier, final⟩ :=
      afterPieces_stops (run tokens) (taken ++ rest)
    rw [run, same] at missed
    have failed : run tokens stop ≠ .matched := by simp [missed]
    have ended : stop = [] := final missed
    have filled : rest = rest ++ stop := by rw [ended, List.append_nil]
    rw [ended, List.append_nil] at parts
    refine refutes.not_matches_before failed (fun nonempty => ?_) filled matched
    exact earlier taken rest parts.symm nonempty (by rwa [← filled])
  exhausted {text skipped rest} exhausted parts aligned := by
    rw [matches_cons_iff]
    rintro ⟨taken, others, rfl, whole, matched⟩
    obtain ⟨pieces, stop, cut, _, same, earlier, _⟩ := afterPieces_stops (run tokens) text
    rw [run, same] at exhausted
    have failed : run tokens stop ≠ .matched := by simp [exhausted]
    have joined : Whole (skipped ++ taken) others := (aligned rfl).append whole
    rw [parts, ← List.append_assoc] at cut
    rcases List.append_eq_append_iff.mp cut with ⟨between, split, tails⟩ | ⟨between, split, tails⟩
    · refine refutes.not_matches_before failed (fun nonempty => ?_) tails matched
      exact earlier _ between split nonempty (by rwa [← tails])
    · rw [split] at joined
      exact refutes.exhausted exhausted tails (fun _ => joined.after) matched

end Refutes

theorem refutes_of_wellPlaced {tokens : List Token} (placed : WellPlaced tokens) :
    Refutes tokens := by
  induction tokens with
  | nil => exact .nil
  | cons token tokens ih =>
      obtain ⟨first, others⟩ := List.isChain_cons.mp placed
      have refutes := ih others
      rcases token.kind with single | rfl | rfl
      · refine refutes.single single fun head => ?_
        exact (first _ head rfl).resolve_right single.2
      · refine refutes.anyRun fun head => ?_
        rcases first _ head rfl with same | same <;> cases same
      · exact refutes.anyPieces

/-- The search finds a match exactly when there is one. -/
theorem run_eq_matched_iff {tokens : List Token} (placed : WellPlaced tokens) (text : List Char) :
    run tokens text = .matched ↔ Matches tokens text := by
  constructor
  · exact matches_of_run_matched
  · intro matched
    by_contra failed
    exact (refutes_of_wellPlaced placed).not_matches failed matched

end MappedCoverage.Glob
