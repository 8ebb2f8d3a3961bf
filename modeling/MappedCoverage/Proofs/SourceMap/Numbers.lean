import Mathlib.Tactic.Ring
import MappedCoverage.Proofs.Base64.Symbols
import MappedCoverage.SourceMap.Vlq

/-!
# Laws of variable-length numbers

The grammar of segments, and how a segment is written. A segment is read exactly when it is a run of
one, four or five numbers. The reader holds the sum and the count of the symbols of an open number,
so its states are described by these symbols; a state that is reached from the start describes the
whole text read before it.
-/

namespace MappedCoverage.SourceMap

/-! ## The grammar -/

/-- The value of a sum of groups, lowest first. -/
def groupSum : List Nat → Nat
  | [] => 0
  | symbol :: rest => symbol % 32 + 32 * groupSum rest

/-- The texts of a number: one to twelve symbols of which all but the last are continued. -/
def IsNumber (text : List Char) (number : Int) : Prop :=
  ∃ (continued : List Nat) (last : Nat),
    text.mapM Base64.value? = some (continued ++ [last]) ∧
      continued.length < 12 ∧
      (∀ symbol ∈ continued, 32 ≤ symbol) ∧
      last < 32 ∧
      number = signed (groupSum (continued ++ [last]))

/-- The texts of a run of numbers. -/
inductive IsRun : List Char → List Int → Prop where
  | nil : IsRun [] []
  | cons {text rest : List Char} {number : Int} {numbers : List Int} :
      IsNumber text number → IsRun rest numbers → IsRun (text ++ rest) (number :: numbers)

/-- The texts of a segment. -/
def IsSegment (text : List Char) (numbers : List Int) : Prop :=
  IsRun text numbers ∧ numbers.length ∈ [1, 4, 5]

theorem groupSum_append (first second : List Nat) :
    groupSum (first ++ second) = groupSum first + 32 ^ first.length * groupSum second := by
  induction first with
  | nil => simp [groupSum]
  | cons symbol rest ih =>
      simp only [List.cons_append, groupSum, ih, List.length_cons, Nat.pow_succ]
      ring

theorem mapM_value?_cons_iff {text : List Char} {symbol : Nat} {symbols : List Nat} :
    text.mapM Base64.value? = some (symbol :: symbols) ↔
      ∃ c rest, text = c :: rest ∧ Base64.value? c = some symbol ∧
        rest.mapM Base64.value? = some symbols := by
  cases text with
  | nil => simp
  | cons c rest =>
      simp only [List.mapM_cons, Option.bind_eq_bind, Option.bind_eq_some_iff, Option.pure_def,
        Option.some.injEq, List.cons.injEq]
      grind

/-! ## Steps of the reader -/

namespace Partial

/-- The state after some numbers, last first, and the symbols of an open number. -/
def holding (fields : List Int) (symbols : List Nat) : Partial :=
  ⟨fields, groupSum symbols, 5 * symbols.length⟩

theorem start_eq_holding : start = holding [] [] := rfl

theorem value_snoc (symbols : List Nat) (symbol : Nat) :
    groupSum symbols + (symbol % 32) <<< (5 * symbols.length) =
      groupSum (symbols ++ [symbol]) := by
  simp only [groupSum_append, groupSum, Nat.shiftLeft_eq, Nat.pow_mul]
  ring

/-- A step takes a symbol while fewer than twelve are held; one that is continued is held, any
other closes a number unless five are complete. -/
theorem step_holding_iff
    {fields : List Int} {symbols : List Nat} {c : Char} {next : Partial} :
    (holding fields symbols).step c = some next ↔
      ∃ symbol, Base64.value? c = some symbol ∧ symbols.length < 12 ∧
        (32 ≤ symbol ∧ next = holding fields (symbols ++ [symbol]) ∨
          symbol < 32 ∧ fields.length < 5 ∧
            next = holding (signed (groupSum (symbols ++ [symbol])) :: fields) []) := by
  have place : 55 < 5 * symbols.length ↔ ¬ symbols.length < 12 := by omega
  cases read : Base64.value? c with
  | none => simp [step, read]
  | some symbol =>
      simp only [step, holding, read, Option.bind_eq_bind, Option.bind_some, value_snoc, place,
        Option.some.injEq, exists_eq_left']
      by_cases room : symbols.length < 12
      · by_cases continued : 32 ≤ symbol
        · simp [room, continued, Nat.not_lt.mpr continued, Nat.mul_add, eq_comm]
        · by_cases full : 4 < fields.length
          · simp [room, continued, full, Nat.not_lt.mpr full]
          · simp [room, continued, full, Nat.not_le.mp continued, Nat.not_lt.mp full, groupSum,
              Nat.lt_succ_iff, eq_comm]
      · simp [room]

theorem finish_holding_iff
    {fields numbers : List Int} {symbols : List Nat} :
    (holding fields symbols).finish = some numbers ↔
      symbols = [] ∧ fields.length ∈ [1, 4, 5] ∧ numbers = fields.reverse := by
  have open_iff : 5 * symbols.length = 0 ↔ symbols = [] := by
    rw [← List.length_eq_zero_iff]
    omega
  simp only [finish, holding, open_iff]
  by_cases closed : symbols = [] ∧ fields.length ∈ [1, 4, 5]
  · rw [if_pos closed]
    simp [closed.1, closed.2, eq_comm]
  · rw [if_neg closed]
    grind

end Partial

/-! ## Texts of numbers -/

theorem IsNumber.isRun {text : List Char} {number : Int} (written : IsNumber text number) :
    IsRun text [number] := by
  simpa using IsRun.cons written .nil

theorem IsRun.append
    {first second : List Char} {numbers others : List Int}
    (before : IsRun first numbers) (after : IsRun second others) :
    IsRun (first ++ second) (numbers ++ others) := by
  induction before with
  | nil => exact after
  | cons written _ ih =>
      rw [List.append_assoc]
      exact .cons written ih

/--
The states that reading a text leads to: the text is a run of whole numbers followed by the
symbols of an open one, all of them continued.
-/
inductive Partial.Reached : List Char → Partial → Prop where
  | intro {whole opened : List Char} {numbers : List Int} {symbols : List Nat}
      (run : IsRun whole numbers)
      (count : numbers.length ≤ 5)
      (held : opened.mapM Base64.value? = some symbols)
      (continued : ∀ symbol ∈ symbols, 32 ≤ symbol)
      (short : symbols.length ≤ 12) :
      Reached (whole ++ opened) (holding numbers.reverse symbols)

namespace Partial

theorem reached_of_run
    {text : List Char} {numbers : List Int}
    (run : IsRun text numbers) (count : numbers.length ≤ 5) :
    Reached text (holding numbers.reverse []) := by
  have nothing : ([] : List Char).mapM Base64.value? = some [] := rfl
  simpa using Reached.intro run count nothing (by simp) (Nat.zero_le 12)

/-- One step keeps what a state tells about the text before it. -/
theorem Reached.step
    {text : List Char} {state next : Partial} {c : Char}
    (reached : Reached text state) (taken : state.step c = some next) :
    Reached (text ++ [c]) next := by
  cases reached with
  | @intro whole opened numbers symbols run count held continued short =>
      obtain ⟨symbol, read, room, kinds⟩ := step_holding_iff.mp taken
      have heldNow : (opened ++ [c]).mapM Base64.value? = some (symbols ++ [symbol]) := by
        simp [List.mapM_append, held, read]
      rw [List.append_assoc]
      rcases kinds with ⟨more, rfl⟩ | ⟨last, few, rfl⟩
      · refine .intro run count heldNow ?_ ?_
        · intro member inside
          rcases List.mem_append.mp inside with old | new
          · exact continued member old
          · rw [List.mem_singleton.mp new]
            exact more
        · rw [List.length_append, List.length_singleton]
          exact room
      · have written : IsNumber (opened ++ [c]) (signed (groupSum (symbols ++ [symbol]))) :=
          ⟨symbols, symbol, heldNow, room, continued, last, rfl⟩
        have closed := reached_of_run (run.append written.isRun)
          (by simpa [Nat.lt_succ_iff] using few)
        simpa using closed

theorem Reached.run
    {text rest : List Char} {state final : Partial}
    (reached : Reached text state) (taken : rest.foldlM Partial.step state = some final) :
    Reached (text ++ rest) final := by
  induction rest generalizing text state with
  | nil =>
      cases taken
      simpa using reached
  | cons c rest ih =>
      rw [List.foldlM_cons] at taken
      obtain ⟨next, first, others⟩ := Option.bind_eq_some_iff.mp taken
      simpa using ih (reached.step first) others

/-- The symbols of a number close it after whatever symbols are held. -/
theorem foldlM_number
    {fields : List Int} {symbols continued : List Nat} {last : Nat} {text : List Char}
    (read : text.mapM Base64.value? = some (continued ++ [last]))
    (more : ∀ symbol ∈ continued, 32 ≤ symbol)
    (closing : last < 32)
    (room : symbols.length + continued.length < 12)
    (few : fields.length < 5) :
    text.foldlM Partial.step (holding fields symbols) =
      some (holding (signed (groupSum (symbols ++ (continued ++ [last]))) :: fields) []) := by
  induction continued generalizing text symbols with
  | nil =>
      obtain ⟨c, rest, rfl, value, others⟩ := mapM_value?_cons_iff.mp read
      have step := step_holding_iff.mpr
        ⟨last, value, room, Or.inr ⟨closing, few, rfl⟩⟩
      cases rest with
      | nil => simp [step]
      | cons d rest => simp [List.mapM_cons, Option.bind_eq_some_iff] at others
  | cons symbol continued ih =>
      obtain ⟨c, rest, rfl, value, others⟩ := mapM_value?_cons_iff.mp read
      rw [List.length_cons] at room
      have step : (holding fields symbols).step c = some (holding fields (symbols ++ [symbol])) :=
        step_holding_iff.mpr
          ⟨symbol, value, by omega, Or.inl ⟨more symbol List.mem_cons_self, rfl⟩⟩
      rw [List.foldlM_cons, step, Option.bind_eq_bind, Option.bind_some,
        ih others (fun other inside => more other (List.mem_cons_of_mem _ inside))
          (by rw [List.length_append, List.length_singleton]; omega)]
      simp

theorem foldlM_run
    {text : List Char} {numbers fields : List Int}
    (run : IsRun text numbers)
    (few : fields.length + numbers.length ≤ 5) :
    text.foldlM Partial.step (holding fields []) =
      some (holding (numbers.reverse ++ fields) []) := by
  induction run generalizing fields with
  | nil => rfl
  | @cons text rest number numbers written _ ih =>
      obtain ⟨continued, last, read, short, more, closing, rfl⟩ := written
      rw [List.length_cons] at few
      have room : ([] : List Nat).length + continued.length < 12 := by simpa using short
      have first := foldlM_number read more closing room (by omega : fields.length < 5)
      rw [List.foldlM_append, first, Option.bind_eq_bind, Option.bind_some,
        ih (by rw [List.length_cons]; omega)]
      simp

end Partial

/-- A segment is read exactly when it is a run of one, four or five numbers. -/
theorem fields?_eq_some_iff_isSegment (text : List Char) (numbers : List Int) :
    fields? text = some numbers ↔ IsSegment text numbers := by
  constructor
  · intro read
    obtain ⟨final, taken, finished⟩ := Option.bind_eq_some_iff.mp read
    have reached := (Partial.reached_of_run .nil (Nat.zero_le 5)).run taken
    rw [List.nil_append] at reached
    cases reached with
    | @intro whole opened found symbols run _ held _ _ =>
        obtain ⟨rfl, count, rfl⟩ := Partial.finish_holding_iff.mp finished
        cases opened with
        | nil => simpa [IsSegment] using And.intro run count
        | cons c rest => simp [List.mapM_cons, Option.bind_eq_some_iff] at held
  · rintro ⟨run, count⟩
    have few : numbers.length ≤ 5 := by
      simp only [List.mem_cons, List.not_mem_nil, or_false] at count
      omega
    have fits : ([] : List Int).length + numbers.length ≤ 5 := by simpa using few
    have taken := Partial.foldlM_run run fits
    rw [fields?, Partial.start_eq_holding, taken]
    exact Partial.finish_holding_iff.mpr ⟨rfl, by simpa using count, by simp⟩

/-! ## Writing -/

/-- The groups of a value, lowest first, at most `fuel` of them after the first. -/
def groups : Nat → Nat → List Nat
  | 0, value => [value % 32]
  | fuel + 1, value =>
      if value < 32 then [value] else (value % 32 + 32) :: groups fuel (value / 32)

/-- The value that stands for a signed number. -/
def unsigned (number : Int) : Nat :=
  if number < 0 then 2 * number.natAbs + 1 else 2 * number.natAbs

/-- The text of a number below `2 ^ 59` in size. -/
def writeNumber (number : Int) : List Char :=
  (groups 11 (unsigned number)).map Base64.symbol

/-- The text of a segment. -/
def writeFields (numbers : List Int) : List Char :=
  numbers.flatMap writeNumber

theorem signed_unsigned (number : Int) : signed (unsigned number) = number := by
  unfold signed unsigned
  by_cases negative : number < 0
  · rw [if_pos negative, if_pos (by omega)]
    omega
  · rw [if_neg negative, if_neg (by omega)]
    omega

/-- The groups of a value are the symbols of a number: all but the last are continued. -/
theorem groups_shape (fuel value : Nat) :
    ∃ continued last, groups fuel value = continued ++ [last] ∧ continued.length ≤ fuel ∧
      (∀ symbol ∈ continued, 32 ≤ symbol ∧ symbol < 64) ∧ last < 32 := by
  induction fuel generalizing value with
  | zero => exact ⟨[], value % 32, rfl, Nat.le_refl 0, by simp, Nat.mod_lt _ (by decide)⟩
  | succ fuel ih =>
      unfold groups
      by_cases small : value < 32
      · rw [if_pos small]
        exact ⟨[], value, rfl, Nat.zero_le _, by simp, small⟩
      · rw [if_neg small]
        obtain ⟨continued, last, shape, short, more, closing⟩ := ih (value / 32)
        refine ⟨(value % 32 + 32) :: continued, last, by rw [shape]; rfl,
          Nat.succ_le_succ short, ?_, closing⟩
        intro symbol inside
        rcases List.mem_cons.mp inside with rfl | inside
        · omega
        · exact more symbol inside

theorem groups_lt {fuel value symbol : Nat} (inside : symbol ∈ groups fuel value) :
    symbol < 64 := by
  obtain ⟨continued, last, shape, _, more, closing⟩ := groups_shape fuel value
  rw [shape] at inside
  rcases List.mem_append.mp inside with inside | inside
  · exact (more symbol inside).2
  · rw [List.mem_singleton.mp inside]
    omega

theorem groupSum_groups (fuel value : Nat) (bound : value < 32 ^ (fuel + 1)) :
    groupSum (groups fuel value) = value := by
  induction fuel generalizing value with
  | zero =>
      rw [groups, groupSum, groupSum, Nat.mod_mod]
      omega
  | succ fuel ih =>
      unfold groups
      by_cases small : value < 32
      · rw [if_pos small, groupSum, groupSum]
        omega
      · have rest : value / 32 < 32 ^ (fuel + 1) := by
          rw [Nat.div_lt_iff_lt_mul (by decide), ← Nat.pow_succ]
          exact bound
        rw [if_neg small, groupSum, ih _ rest]
        omega

theorem mapM_value?_map_symbol (symbols : List Nat) (small : ∀ symbol ∈ symbols, symbol < 64) :
    (symbols.map Base64.symbol).mapM Base64.value? = some symbols := by
  induction symbols with
  | nil => rfl
  | cons symbol rest ih =>
      rw [List.map_cons]
      exact mapM_value?_cons_iff.mpr ⟨_, _, rfl,
        Base64.value?_symbol (small symbol List.mem_cons_self),
        ih (fun other inside => small other (List.mem_cons_of_mem _ inside))⟩

/-- A number below `2 ^ 59` in size is written in twelve symbols at most. -/
theorem isNumber_writeNumber {number : Int} (bound : number.natAbs < 2 ^ 59) :
    IsNumber (writeNumber number) number := by
  obtain ⟨continued, last, shape, short, more, closing⟩ := groups_shape 11 (unsigned number)
  have wide : unsigned number < 32 ^ (11 + 1) := by
    unfold unsigned
    split <;> omega
  refine ⟨continued, last, ?_, Nat.lt_succ_of_le short,
    fun symbol inside => (more symbol inside).1, closing, ?_⟩
  · rw [writeNumber, ← shape]
    exact mapM_value?_map_symbol _ fun symbol inside => groups_lt inside
  · rw [← shape, groupSum_groups 11 _ wide, signed_unsigned]

theorem isRun_writeFields {numbers : List Int}
    (bound : ∀ number ∈ numbers, number.natAbs < 2 ^ 59) :
    IsRun (writeFields numbers) numbers := by
  induction numbers with
  | nil => exact .nil
  | cons number rest ih =>
      exact .cons (isNumber_writeNumber (bound number List.mem_cons_self))
        (ih fun other inside => bound other (List.mem_cons_of_mem _ inside))

theorem writeNumber_ne_nil (number : Int) : writeNumber number ≠ [] := by
  obtain ⟨continued, last, shape, _⟩ := groups_shape 11 (unsigned number)
  simp [writeNumber, shape]

theorem value?_isSome_of_mem_writeFields {numbers : List Int} {c : Char}
    (inside : c ∈ writeFields numbers) : (Base64.value? c).isSome := by
  obtain ⟨number, _, inside⟩ := List.mem_flatMap.mp inside
  obtain ⟨symbol, member, rfl⟩ := List.mem_map.mp inside
  rw [Base64.value?_symbol (groups_lt member)]
  rfl

theorem not_mem_writeFields {c : Char} (foreign : Base64.value? c = none) (numbers : List Int) :
    c ∉ writeFields numbers := by
  intro inside
  have read := value?_isSome_of_mem_writeFields inside
  rw [foreign] at read
  cases read

end MappedCoverage.SourceMap
