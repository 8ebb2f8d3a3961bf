import MappedCoverage.Proofs.Regex.Ends

/-!
# Replacing matches

What becomes of a text when the matches of an expression are replaced one after another. Of the
matches that start at one place the longest counts, as it does where every repetition takes as much
as it can.
-/

namespace MappedCoverage.Regex

/-- A match that no other match from the same place goes beyond, and what it takes. -/
structure Longest (regex : Regex) (start : Place) (taken : List Char) (stop : Place) : Prop where
  matched : ∃ captures, Matches regex start stop captures
  spans : start.Spans taken stop
  longest : ∀ other captures, Matches regex start other captures →
    stop.after.length ≤ other.after.length

/-- A text from a place on becomes another when matches are replaced by what stands for the
characters that they take; where no match starts, a character stays. -/
inductive Replaces (regex : Regex) (replacement : List Char → List Char) :
    Place → List Char → Prop where
  | ended {before : List Char}
      (unmatched : ∀ stop captures, ¬ Matches regex ⟨before, []⟩ stop captures) :
      Replaces regex replacement ⟨before, []⟩ []
  | passed {before after result : List Char} {c : Char}
      (unmatched : ∀ stop captures, ¬ Matches regex ⟨before, c :: after⟩ stop captures)
      (rest : Replaces regex replacement ⟨c :: before, after⟩ result) :
      Replaces regex replacement ⟨before, c :: after⟩ (c :: result)
  | replaced {start stop : Place} {taken result : List Char}
      (longest : Longest regex start taken stop) (ahead : taken ≠ [])
      (rest : Replaces regex replacement stop result) :
      Replaces regex replacement start (replacement taken ++ result)

theorem forward_matches (regex : Regex) : (Matches regex).Forward :=
  (finds_ends #[] regex).forward

section

variable {regex : Regex} {start stop : Place} {captures : List (List Char)}

/-- Where a match starts, a longest one does. -/
theorem exists_longest (matched : Matches regex start stop captures) :
    ∃ taken last, Longest regex start taken last := by
  induction long : stop.after.length using Nat.strongRecOn generalizing stop captures with
  | ind length ih =>
      by_cases further : ∃ other captures, Matches regex start other captures ∧
          other.after.length < stop.after.length
      · obtain ⟨other, _, also, beyond⟩ := further
        exact ih other.after.length (long ▸ beyond) also rfl
      · obtain ⟨taken, spans⟩ := forward_matches regex _ _ _ matched
        refine ⟨taken, stop, ⟨captures, matched⟩, spans, fun other captures also => ?_⟩
        exact Nat.le_of_not_lt fun beyond => further ⟨other, captures, also, beyond⟩

theorem Advances.taken_ne_nil {taken : List Char} (advances : Advances regex)
    (longest : Longest regex start taken stop) : taken ≠ [] := by
  obtain ⟨captures, matched⟩ := longest.matched
  have shorter := advances start stop captures matched
  rintro rfl
  obtain rfl := Place.spans_nil_iff.mp longest.spans
  exact Nat.lt_irrefl _ shorter

/-- The matches of an expression that only matches where it takes characters can be replaced. -/
theorem Advances.exists_replaces (advances : Advances regex)
    (replacement : List Char → List Char) (start : Place) :
    ∃ result, Replaces regex replacement start result := by
  induction long : start.after.length using Nat.strongRecOn generalizing start with
  | ind length ih =>
      by_cases some : ∃ stop captures, Matches regex start stop captures
      · obtain ⟨_, _, matched⟩ := some
        obtain ⟨taken, stop, longest⟩ := exists_longest matched
        obtain ⟨captures, own⟩ := longest.matched
        obtain ⟨result, rest⟩ :=
          ih stop.after.length (long ▸ advances start stop captures own) stop rfl
        exact ⟨_, .replaced longest (advances.taken_ne_nil longest) rest⟩
      · have unmatched (stop : Place) (captures : List (List Char)) :
            ¬ Matches regex start stop captures := fun matched => some ⟨stop, captures, matched⟩
        obtain ⟨before, after⟩ := start
        cases after with
        | nil => exact ⟨[], .ended unmatched⟩
        | cons c after =>
            obtain ⟨result, rest⟩ :=
              ih after.length (long ▸ Nat.lt_succ_self _) ⟨c :: before, after⟩ rfl
            exact ⟨c :: result, .passed unmatched rest⟩

end

end MappedCoverage.Regex
