import MappedCoverage.Glob.Set
import MappedCoverage.Proofs.Failure.Attempts
import MappedCoverage.Proofs.Glob.Reading

/-!
# What sets of patterns accept

A set compiles when each of its patterns does, and matches the paths that one of them accepts.
-/

namespace MappedCoverage.Glob

theorem compileOne_eq_ok_iff {source : String} {pattern : Pattern} :
    PatternSet.compileOne source = .ok pattern ↔ Pattern.compile source = .ok pattern := by
  unfold PatternSet.compileOne
  cases Pattern.compile source with
  | ok found => simp
  | error malformed => simp

/-! ## Attempts that come to the same -/

/-- Two attempts come to the same: to related results, or to one failure. -/
def Alike {ε α : Type} (related : α → α → Prop) : Except ε α → Except ε α → Prop
  | .ok first, .ok second => related first second
  | .error first, .error second => first = second
  | _, _ => False

theorem Alike.bind {ε α β : Type} {related : α → α → Prop} {later : β → β → Prop}
    {first second : Except ε α} {nextFirst nextSecond : α → Except ε β}
    (alike : Alike related first second)
    (next : ∀ one other, related one other → Alike later (nextFirst one) (nextSecond other)) :
    Alike later (first >>= nextFirst) (second >>= nextSecond) := by
  cases first with
  | error failure =>
      cases second with
      | error other => exact alike
      | ok other => cases alike
  | ok one =>
      cases second with
      | error failure => cases alike
      | ok other => exact next one other alike

namespace PatternSet

theorem exists_compile_eq_ok_iff {sources : List String} :
    (∃ set, compile sources = .ok set) ↔
      ∀ source ∈ sources, ∃ pattern, compileOne source = .ok pattern := by
  rw [← exists_mapM_eq_ok_iff, compile]
  cases sources.mapM compileOne with
  | error failure => simp [bind, Except.bind]
  | ok patterns => simp [bind, Except.bind, pure, Except.pure]

theorem compile_eq_ok_iff {sources : List String} {set : PatternSet} :
    compile sources = .ok set ↔
      List.Forall₂ (fun source pattern => Pattern.compile source = .ok pattern)
        sources set.patterns := by
  simp only [← compileOne_eq_ok_iff, ← mapM_eq_ok_iff]
  rw [compile]
  cases sources.mapM compileOne with
  | error failure => simp [bind, Except.bind]
  | ok patterns =>
      obtain ⟨found⟩ := set
      simp [bind, Except.bind, pure, Except.pure]

/-- The patterns of a compiled set are those of its texts. -/
theorem compile_source_of_mem {sources : List String} {set : PatternSet} {pattern : Pattern}
    (compiled : compile sources = .ok set) (listed : pattern ∈ set.patterns) :
    Pattern.compile pattern.source = .ok pattern := by
  obtain ⟨source, _, own⟩ := exists_mem_of_forall₂ (compile_eq_ok_iff.mp compiled).flip listed
  obtain ⟨raw, _, rfl⟩ := Glob.compile_eq_ok_iff.mp own
  exact own

/-- A compiled set matches the paths that one of its patterns accepts. -/
theorem matchesAny_iff {sources : List String} {set : PatternSet} {path : String}
    (compiled : compile sources = .ok set) :
    set.matchesAny path = true ↔ ∃ source ∈ sources, Accepts source.toList path.toList := by
  rw [matchesAny, List.any_eq_true]
  have each := compile_eq_ok_iff.mp compiled
  generalize set.patterns = patterns at each ⊢
  clear compiled
  induction each with
  | nil => simp
  | cons first _ ih => simp only [List.exists_mem_cons_iff, ih, matches_iff_accepts first]

/-! ## Sets that match the same -/

/-- Two sets match the same paths. -/
def SameMatches (first second : PatternSet) : Prop :=
  ∀ path, first.matchesAny path = second.matchesAny path

theorem compile_append (sources more : List String) :
    compile (sources ++ more) =
      (compile sources).bind fun first => (compile more).map fun second =>
        ⟨first.patterns ++ second.patterns⟩ := by
  simp only [compile, List.mapM_append]
  cases sources.mapM compileOne with
  | error failure => rfl
  | ok first =>
      cases more.mapM compileOne with
      | error failure => rfl
      | ok second => rfl

/-- Patterns that are there already change neither whether a set compiles nor what it matches. -/
theorem alike_compile_append {sources more : List String}
    (known : ∀ source ∈ more, source ∈ sources) :
    Alike SameMatches (compile (sources ++ more)) (compile sources) := by
  rw [compile_append]
  cases compiled : compile sources with
  | error failure => rfl
  | ok set =>
      have each := exists_compile_eq_ok_iff.mp ⟨set, compiled⟩
      obtain ⟨other, compiledMore⟩ :=
        exists_compile_eq_ok_iff.mpr fun source inside => each source (known source inside)
      have both : compile (sources ++ more) = .ok ⟨set.patterns ++ other.patterns⟩ := by
        rw [compile_append, compiled, compiledMore]
        rfl
      rw [compiledMore]
      intro path
      rw [Bool.eq_iff_iff, matchesAny_iff both, matchesAny_iff compiled]
      constructor
      · rintro ⟨source, inside, accepted⟩
        rcases List.mem_append.mp inside with old | new
        · exact ⟨source, old, accepted⟩
        · exact ⟨source, known source new, accepted⟩
      · rintro ⟨source, inside, accepted⟩
        exact ⟨source, List.mem_append_left more inside, accepted⟩

end PatternSet

end MappedCoverage.Glob
