import MappedCoverage.Proofs.Base64.Symbols

/-!
# Reading written base64

The text of bytes has whole groups of symbols and padding, and reading it gives the bytes back. The
inner groups are read symbol by symbol; the last group is read by itself, with its padding.
-/

namespace MappedCoverage.Base64

/-! ## Symbols in front of the padding -/

theorem symbol_ne_padding {value : Nat} (small : value < 64) : symbol value ≠ padding := by
  intro same
  have read := value?_symbol small
  have unread : value? padding = none := by decide
  rw [same, unread] at read
  cases read

theorem valueAt_symbol (offset : Nat) {value : Nat} (small : value < 64) :
    valueAt offset (symbol value) = .ok value := by
  rw [valueAt, value?_symbol small]

@[simp] theorem lastValues_nil (offset index : Nat) : lastValues offset index [] = .ok ([], 0) :=
  rfl

theorem lastValues_symbol (offset index : Nat) {value : Nat} (rest : List Char)
    (small : value < 64) :
    lastValues offset index (symbol value :: rest) =
      (lastValues offset (index + 1) rest).map fun found => (value :: found.1, found.2) := by
  rw [lastValues, if_neg (symbol_ne_padding small), valueAt_symbol _ small]
  cases lastValues offset (index + 1) rest with
  | error flaw => rfl
  | ok found => rfl

/-! ## The last group -/

/-- The four values and the three bytes of a whole group. -/
theorem group_three (a b c : UInt8) {group : Nat}
    (joined : (a.toNat * 256 + b.toNat) * 256 + c.toNat = group) :
    group / 262144 < 64 ∧
      ((group / 262144 * 64 + group / 4096 % 64) * 64 + group / 64 % 64) * 64 + group % 64 = group ∧
      group / 65536 = a.toNat ∧ group / 256 % 256 = b.toNat ∧ group % 256 = c.toNat := by
  have ha := a.toNat_lt
  have hb := b.toNat_lt
  have hc := c.toNat_lt
  omega

theorem decodeLast_three (offset : Nat) (a b c : UInt8) :
    decodeLast offset (encode [a, b, c]) = .ok [a, b, c] := by
  simp only [encode]
  generalize joined : (a.toNat * 256 + b.toNat) * 256 + c.toNat = group
  obtain ⟨small, whole, first, second, third⟩ := group_three a b c joined
  rw [decodeLast, lastValues_symbol _ _ _ small, lastValues_symbol _ _ _ (by omega),
    lastValues_symbol _ _ _ (by omega), lastValues_symbol _ _ _ (by omega)]
  simp [bind, Except.bind, Except.map, pure, Except.pure, whole, first, second, third]

theorem decodeLast_two (offset : Nat) (a b : UInt8) :
    decodeLast offset (encode [a, b]) = .ok [a, b] := by
  have ha := a.toNat_lt
  have hb := b.toNat_lt
  simp only [encode]
  generalize group : (a.toNat * 256 + b.toNat) * 4 = g
  have whole : (g / 4096 * 64 + g / 64 % 64) * 64 + g % 64 = g := by omega
  have unused : g % 4 = 0 := by omega
  have first : g / 1024 = a.toNat := by omega
  have second : g / 4 % 256 = b.toNat := by omega
  have padded : lastValues offset 3 [padding] = .ok ([], 1) := rfl
  rw [decodeLast, lastValues_symbol _ _ _ (by omega), lastValues_symbol _ _ _ (by omega),
    lastValues_symbol _ _ _ (by omega), padded]
  simp [bind, Except.bind, Except.map, pure, Except.pure, whole, unused, first, second]

theorem decodeLast_one (offset : Nat) (a : UInt8) :
    decodeLast offset (encode [a]) = .ok [a] := by
  have ha := a.toNat_lt
  simp only [encode]
  generalize group : a.toNat * 16 = g
  have whole : g / 64 * 64 + g % 64 = g := by omega
  have unused : g % 16 = 0 := by omega
  have first : g / 16 = a.toNat := by omega
  have padded : lastValues offset 2 [padding, padding] = .ok ([], 2) := rfl
  rw [decodeLast, lastValues_symbol _ _ _ (by omega), lastValues_symbol _ _ _ (by omega), padded]
  simp [bind, Except.bind, Except.map, pure, Except.pure, whole, unused, first]

/-! ## All groups -/

theorem encode_eq_nil_iff {bytes : List UInt8} : encode bytes = [] ↔ bytes = [] := by
  rcases bytes with _ | ⟨a, _ | ⟨b, _ | ⟨c, rest⟩⟩⟩ <;> simp [encode]

/-- A group in front of other groups is read by itself. -/
theorem decodeFrom_encode_cons {offset : Nat} {a b c : UInt8} {rest : List UInt8}
    (more : rest ≠ []) (read : decodeFrom (offset + 4) (encode rest) = .ok rest) :
    decodeFrom offset (encode (a :: b :: c :: rest)) = .ok (a :: b :: c :: rest) := by
  obtain ⟨next, others, shape⟩ := List.exists_cons_of_ne_nil (mt encode_eq_nil_iff.mp more)
  simp only [encode]
  rw [shape] at read ⊢
  generalize joined : (a.toNat * 256 + b.toNat) * 256 + c.toNat = group
  obtain ⟨small, whole, first, second, third⟩ := group_three a b c joined
  rw [decodeFrom, valueAt_symbol _ small, valueAt_symbol _ (by omega),
    valueAt_symbol _ (by omega), valueAt_symbol _ (by omega)]
  simp [bind, Except.bind, pure, Except.pure, read, whole, first, second, third]

theorem decodeFrom_encode (offset : Nat) (bytes : List UInt8) :
    decodeFrom offset (encode bytes) = .ok bytes := by
  induction bytes using encode.induct generalizing offset with
  | case1 a b c rest ih =>
      by_cases last : rest = []
      · subst last
        exact decodeLast_three offset a b c
      · exact decodeFrom_encode_cons last (ih (offset + 4))
  | case2 a b => exact decodeLast_two offset a b
  | case3 a => exact decodeLast_one offset a
  | case4 => rfl

/-! ## Characters of the text -/

/-- The text of bytes consists of symbols and padding. -/
theorem mem_encode {bytes : List UInt8} {c : Char} (inside : c ∈ encode bytes) :
    (∃ value, value < 64 ∧ c = symbol value) ∨ c = padding := by
  induction bytes using encode.induct with
  | case1 a b d rest ih =>
      have ha := a.toNat_lt
      have hb := b.toNat_lt
      have hd := d.toNat_lt
      simp only [encode, List.mem_cons] at inside
      rcases inside with rfl | rfl | rfl | rfl | inside
      · exact Or.inl ⟨_, by omega, rfl⟩
      · exact Or.inl ⟨_, by omega, rfl⟩
      · exact Or.inl ⟨_, by omega, rfl⟩
      · exact Or.inl ⟨_, by omega, rfl⟩
      · exact ih inside
  | case2 a b =>
      have ha := a.toNat_lt
      have hb := b.toNat_lt
      simp only [encode, List.mem_cons, List.not_mem_nil, or_false] at inside
      rcases inside with rfl | rfl | rfl | rfl
      · exact Or.inl ⟨_, by omega, rfl⟩
      · exact Or.inl ⟨_, by omega, rfl⟩
      · exact Or.inl ⟨_, by omega, rfl⟩
      · exact Or.inr rfl
  | case3 a =>
      have ha := a.toNat_lt
      simp only [encode, List.mem_cons, List.not_mem_nil, or_false] at inside
      rcases inside with rfl | rfl | rfl | rfl
      · exact Or.inl ⟨_, by omega, rfl⟩
      · exact Or.inl ⟨_, by omega, rfl⟩
      · exact Or.inr rfl
      · exact Or.inr rfl
  | case4 => simp [encode] at inside

theorem toNat_lt_of_mem_encode {bytes : List UInt8} {c : Char} (inside : c ∈ encode bytes) :
    c.toNat < 128 := by
  rcases mem_encode inside with ⟨value, small, rfl⟩ | rfl
  · exact toNat_lt_of_value? (value?_symbol small)
  · decide

theorem four_dvd_length_encode (bytes : List UInt8) : 4 ∣ (encode bytes).length := by
  induction bytes using encode.induct with
  | case1 a b c rest ih =>
      simp only [encode, List.length_cons]
      omega
  | case2 a b => simp [encode]
  | case3 a => simp [encode]
  | case4 => simp [encode]

/-- ASCII characters have one byte each. -/
theorem length_flatMap_utf8EncodeChar {text : List Char} (ascii : ∀ c ∈ text, c.toNat < 128) :
    (text.flatMap String.utf8EncodeChar).length = text.length := by
  induction text with
  | nil => rfl
  | cons c rest ih =>
      have one : c.utf8Size = 1 := by
        rw [Char.utf8Size_eq_one_iff]
        exact Nat.le_of_lt_succ (ascii c List.mem_cons_self)
      rw [List.flatMap_cons, List.length_append, String.length_utf8EncodeChar, one,
        ih fun other inside => ascii other (List.mem_cons_of_mem _ inside), List.length_cons,
        Nat.add_comm]

/-- Reading the text of bytes gives the bytes. -/
theorem decode_encode (bytes : List UInt8) : decode (encode bytes) = .ok bytes := by
  have whole : ((encode bytes).flatMap String.utf8EncodeChar).length % 4 ≠ 1 := by
    rw [length_flatMap_utf8EncodeChar fun _ => toNat_lt_of_mem_encode]
    have groups := four_dvd_length_encode bytes
    omega
  have tidy : strayLast? (encode bytes) = none := by
    unfold strayLast?
    dsimp only
    cases ((encode bytes).flatMap String.utf8EncodeChar).getLast? with
    | none => rfl
    | some last => exact if_neg fun stray => whole stray.1
  rw [decode, tidy]
  exact decodeFrom_encode 0 bytes

end MappedCoverage.Base64
