import MappedCoverage.Proofs.Base64.RoundTrip
import MappedCoverage.Proofs.Text.Pieces
import MappedCoverage.SourceMap.Basic

/-!
# Finding map comments

A line is read as a map comment exactly when it is one, and the last comment of a text counts. So a
comment behind any text is found whatever this text holds, and what it carries is the source map of
the whole.
-/

namespace MappedCoverage.SourceMap

/-! ## Reading a line -/

/-- The lines that are map comments. -/
def IsComment (line payload : List Char) : Prop :=
  ∃ charset blanks : List Char,
    (charset = [] ∨ ∃ name, name ≠ [] ∧ name.all isCharsetChar ∧ charset = charsetMark ++ name) ∧
      payload ≠ [] ∧ payload.all isPayloadChar ∧ blanks.all Text.isSpace ∧
      line = commentOpening ++ charset ++ payloadMark ++ payload ++ blanks

/-- A beginning is taken off exactly when the text has it. -/
theorem after?_eq_some_iff {beginning text rest : List Char} :
    after? beginning text = some rest ↔ text = beginning ++ rest := by
  induction beginning generalizing text with
  | nil => simp [after?]
  | cons expected beginning ih =>
      cases text with
      | nil => simp [after?]
      | cons c text =>
          by_cases same : c = expected
          · simp [after?, same, ih]
          · simp [after?, same]

theorem after?_append (beginning rest : List Char) :
    after? beginning (beginning ++ rest) = some rest :=
  after?_eq_some_iff.mpr rfl

/-- Characters of a kind in front of a text that does not start with this kind. -/
theorem takeWhile_dropWhile_append
    {p : Char → Bool} {start rest : List Char}
    (all : start.all p = true) (stops : ∀ c ∈ rest.head?, p c = false) :
    (start ++ rest).takeWhile p = start ∧ (start ++ rest).dropWhile p = rest := by
  rw [List.all_eq_true] at all
  rw [List.takeWhile_append_of_pos all, List.dropWhile_append_of_pos all]
  cases rest with
  | nil => simp
  | cons c rest =>
      have stop := stops c rfl
      simp [stop]

/-- What may stand between the opening and the mark of the payload: nothing, or a named character
set. -/
def IsCharset (charset : List Char) : Prop :=
  charset = [] ∨ ∃ name, name ≠ [] ∧ name.all isCharsetChar ∧ charset = charsetMark ++ name

theorem not_isCharsetChar_payloadMark : isCharsetChar ';' = false := by decide +kernel

/-- A payload ends in front of blanks. -/
theorem not_isPayloadChar_of_isSpace {c : Char} (blank : Text.isSpace c = true) :
    isPayloadChar c = false := by
  have codes : ∀ code ∈ Text.spaceCodes, isPayloadChar (Char.ofNat code) = false := by
    decide +kernel
  have known := codes c.toNat (List.contains_iff_mem.mp blank)
  rwa [Char.ofNat_toNat] at known

/-- A character set in front of the mark of the payload is passed over. -/
theorem afterCharset?_append {charset rest : List Char} (named : IsCharset charset) :
    afterCharset? (charset ++ (payloadMark ++ rest)) = some (payloadMark ++ rest) := by
  rcases named with rfl | ⟨name, nonempty, all, rfl⟩
  · rfl
  · have stops : ∀ c ∈ (payloadMark ++ rest).head?, isCharsetChar c = false := by
      intro c first
      obtain rfl : ';' = c := Option.some.inj first
      exact not_isCharsetChar_payloadMark
    obtain ⟨taken, dropped⟩ := takeWhile_dropWhile_append all stops
    rw [afterCharset?, List.append_assoc, after?_append]
    dsimp only
    rw [taken, dropped, if_neg (by simpa using nonempty)]

/-- What follows a character set has one in front of it. -/
theorem isCharset_of_afterCharset? {text rest : List Char} (passed : afterCharset? text = some rest) :
    ∃ charset, IsCharset charset ∧ text = charset ++ rest := by
  unfold afterCharset? at passed
  cases marked : after? charsetMark text with
  | none =>
      rw [marked] at passed
      exact ⟨[], Or.inl rfl, Option.some.inj passed⟩
  | some behind =>
      rw [marked] at passed
      dsimp only at passed
      split at passed
      · cases passed
      · next nonempty =>
          obtain rfl := Option.some.inj passed
          refine ⟨charsetMark ++ behind.takeWhile isCharsetChar,
            Or.inr ⟨_, by simpa using nonempty, List.all_takeWhile, rfl⟩, ?_⟩
          rw [List.append_assoc, List.takeWhile_append_dropWhile]
          exact after?_eq_some_iff.mp marked

/-- A line is read as a map comment exactly when it is one. -/
theorem payload?_eq_some_iff {line payload : List Char} :
    payload? line = some payload ↔ IsComment line payload := by
  constructor
  · intro read
    simp only [payload?, Option.bind_eq_bind, Option.bind_eq_some_iff,
      Option.ite_none_right_eq_some, Bool.and_eq_true, Bool.not_eq_true'] at read
    obtain ⟨_, opening, _, passed, rest, mark, ⟨nonempty, blank⟩, found⟩ := read
    obtain rfl := Option.some.inj found
    obtain ⟨charset, named, rfl⟩ := isCharset_of_afterCharset? passed
    refine ⟨charset, rest.dropWhile isPayloadChar, named, by simpa using nonempty,
      List.all_takeWhile, blank, ?_⟩
    rw [List.append_assoc _ _ (rest.dropWhile isPayloadChar), List.takeWhile_append_dropWhile,
      after?_eq_some_iff.mp opening, after?_eq_some_iff.mp mark]
    simp only [List.append_assoc]
  · rintro ⟨charset, blanks, named, nonempty, all, blank, rfl⟩
    have stops : ∀ c ∈ blanks.head?, isPayloadChar c = false := fun c first =>
      not_isPayloadChar_of_isSpace (List.all_eq_true.mp blank c (List.mem_of_mem_head? first))
    obtain ⟨taken, dropped⟩ := takeWhile_dropWhile_append all stops
    simp only [payload?, List.append_assoc, after?_append, Option.bind_eq_bind, Option.bind_some,
      afterCharset?_append named, taken, dropped]
    have filled : payload.isEmpty = false := by simpa using nonempty
    rw [filled, blank]
    rfl

theorem payload?_eq_none_iff {line : List Char} :
    payload? line = none ↔ ∀ payload, ¬ IsComment line payload := by
  simp only [Option.eq_none_iff_forall_ne_some, Ne, payload?_eq_some_iff]

/-! ## The last comment of a text -/

/-- The payloads of the comments of a text, in order. -/
def payloads (text : List Char) : List (List Char) :=
  (Text.split '\n' text).filterMap payload?

theorem findPayload?_ofList (text : List Char) :
    findPayload? (String.ofList text) = (payloads text).getLast?.map String.ofList := by
  rw [findPayload?, Text.lines, String.toList_ofList]
  rfl

/-- No comment is found when no line is one. -/
theorem findPayload?_eq_none_iff {text : String} :
    findPayload? text = none ↔
      ∀ line ∈ Text.lines text, ∀ payload, ¬ IsComment line payload := by
  simp only [findPayload?, Option.map_eq_none_iff, List.getLast?_eq_none_iff,
    List.filterMap_eq_nil_iff, payload?_eq_none_iff]

theorem payloads_append_newline (before after : List Char) :
    payloads (before ++ '\n' :: after) = payloads before ++ payloads after := by
  rw [payloads, Text.split_append_cons, List.filterMap_append]
  rfl

theorem payload?_eq_none_of_blank {line : List Char} (blank : ∀ c ∈ line, Text.isSpace c = true) :
    payload? line = none := by
  rw [payload?_eq_none_iff]
  rintro payload ⟨charset, blanks, _, _, _, _, rfl⟩
  have slash : '/' ∈ commentOpening := by decide
  exact absurd (blank '/' (by simp [slash])) (by decide)

/-- What a comment consists of in front of its blanks. -/
theorem kind_of_mem_comment {charset payload : List Char} (named : IsCharset charset)
    (all : payload.all isPayloadChar = true) {c : Char}
    (inside : c ∈ commentOpening ++ charset ++ payloadMark ++ payload) :
    c ∈ commentOpening ++ charsetMark ++ payloadMark ∨ isCharsetChar c = true ∨
      isPayloadChar c = true := by
  simp only [List.mem_append] at inside ⊢
  rcases inside with ((opening | charsetChar) | mark) | payloadChar
  · exact Or.inl (Or.inl (Or.inl opening))
  · rcases named with rfl | ⟨name, _, letters, rfl⟩
    · cases charsetChar
    · rcases List.mem_append.mp charsetChar with mark | letter
      · exact Or.inl (Or.inl (Or.inr mark))
      · exact Or.inr (Or.inl (List.all_eq_true.mp letters _ letter))
  · exact Or.inl (Or.inr mark)
  · exact Or.inr (Or.inr (List.all_eq_true.mp all _ payloadChar))

theorem not_mem_newline {charset payload : List Char} (named : IsCharset charset)
    (all : payload.all isPayloadChar = true) :
    '\n' ∉ commentOpening ++ charset ++ payloadMark ++ payload := fun inside =>
  absurd (kind_of_mem_comment named all inside) (by decide +kernel)

theorem not_isComment_of_bar {line payload : List Char} (bar : '|' ∈ line) :
    ¬ IsComment line payload := by
  rintro ⟨charset, blanks, named, _, all, blank, rfl⟩
  rcases List.mem_append.mp bar with inside | inside
  · exact absurd (kind_of_mem_comment named all inside) (by decide +kernel)
  · exact absurd (List.all_eq_true.mp blank _ inside) (by decide)

/-- Blanks behind a comment, line breaks among them, neither hide it nor add another. -/
theorem payloads_comment {charset payload blanks : List Char} (named : IsCharset charset)
    (nonempty : payload ≠ []) (all : payload.all isPayloadChar = true)
    (blank : blanks.all Text.isSpace = true) :
    payloads (commentOpening ++ charset ++ payloadMark ++ payload ++ blanks) = [payload] := by
  have pieceBlank : ∀ piece ∈ Text.split '\n' blanks, ∀ c ∈ piece, Text.isSpace c = true :=
    fun _ listed c inside =>
      List.all_eq_true.mp blank c (Text.mem_of_mem_split listed inside).1
  rw [payloads, Text.split_append_of_not_mem (not_mem_newline named all)]
  cases pieces : Text.split '\n' blanks with
  | nil => exact absurd pieces (Text.split_ne_nil _ _)
  | cons first others =>
      rw [pieces] at pieceBlank
      have read : payload? (commentOpening ++ charset ++ payloadMark ++ payload ++ first) =
          some payload :=
        payload?_eq_some_iff.mpr ⟨charset, first, named, nonempty, all,
          List.all_eq_true.mpr (pieceBlank first List.mem_cons_self), rfl⟩
      have nothing : others.filterMap payload? = [] := by
        rw [List.filterMap_eq_nil_iff]
        intro piece listed
        exact payload?_eq_none_of_blank (pieceBlank piece (List.mem_cons_of_mem first listed))
      rw [List.modifyHead_cons, List.filterMap_cons_some read, nothing]

/-! ## Comments that carry a text -/

/-- The map comment that carries a text, with the name of a character set if one is given. -/
def writeComment (charset : Option String) (json : String) : List Char :=
  commentOpening ++ (charset.elim [] fun name => charsetMark ++ name.toList) ++ payloadMark
    ++ Base64.encode json.toUTF8.data.toList

theorem isCharset_elim {charset : Option String}
    (named : ∀ name ∈ charset, name ≠ "" ∧ name.toList.all isCharsetChar = true) :
    IsCharset (charset.elim [] fun name => charsetMark ++ name.toList) := by
  cases charset with
  | none => exact Or.inl rfl
  | some name =>
      obtain ⟨nonempty, letters⟩ := named name rfl
      exact Or.inr ⟨name.toList, by simpa using nonempty, letters, rfl⟩

/-- Written base64 is a payload. -/
theorem all_isPayloadChar_encode (bytes : List UInt8) :
    (Base64.encode bytes).all isPayloadChar = true := by
  have symbols : ∀ value : Fin 64, isPayloadChar (Base64.symbol value) = true := by
    decide +kernel
  rw [List.all_eq_true]
  intro c inside
  rcases Base64.mem_encode inside with ⟨value, small, rfl⟩ | rfl
  · exact symbols ⟨value, small⟩
  · decide

theorem newline_not_mem_writeComment (json : String) : '\n' ∉ writeComment none json :=
  not_mem_newline (Or.inl rfl) (all_isPayloadChar_encode _)

theorem payload?_writeComment {json : String}
    (nonempty : Base64.encode json.toUTF8.data.toList ≠ []) :
    payload? (writeComment none json) = some (Base64.encode json.toUTF8.data.toList) := by
  rw [payload?_eq_some_iff]
  refine ⟨[], [], Or.inl rfl, nonempty, all_isPayloadChar_encode _, rfl, ?_⟩
  rw [List.append_nil]
  rfl

/-- A payload that carries a text gives the source map of this text. -/
theorem ofPayload_encode (json : String) :
    ofPayload (String.ofList (Base64.encode json.toUTF8.data.toList)) = ofJson json := by
  have whole : (⟨json.toUTF8.data.toList.toArray⟩ : ByteArray) = json.toUTF8 := by
    rw [Array.toArray_toList]
  have read : String.fromUTF8? json.toUTF8 = some json := by
    unfold String.fromUTF8?
    rw [String.toUTF8_eq_toByteArray, dif_pos json.isValidUTF8]
    rfl
  have decoded : (Base64.decode (Base64.encode json.toUTF8.data.toList)).mapError Fault.base64 =
      .ok json.toUTF8.data.toList := by
    rw [Base64.decode_encode]
    rfl
  rw [ofPayload, String.toList_ofList, decoded]
  simp only [bind, Except.bind, whole, read]

/-- A text whose last comment carries a text gives the source map of this text. -/
theorem extract?_of_payloads {text : List Char} {found : List (List Char)} {json : String}
    (last : payloads text = found ++ [Base64.encode json.toUTF8.data.toList]) :
    extract? (String.ofList text) = (ofJson json).map some := by
  have payload : findPayload? (String.ofList text) =
      some (String.ofList (Base64.encode json.toUTF8.data.toList)) := by
    rw [findPayload?_ofList, last, List.getLast?_concat]
    rfl
  rw [extract?, payload]
  dsimp only
  rw [ofPayload_encode]

/-- A comment behind a line of code is found and read. -/
theorem extract?_line_writeComment {line : List Char} {json : String} (free : '\n' ∉ line)
    (code : payload? line = none) (nonempty : Base64.encode json.toUTF8.data.toList ≠ []) :
    extract? (Text.ofLines [line, writeComment none json]) = (ofJson json).map some := by
  have lines : Text.lines (Text.ofLines [line, writeComment none json]) =
      [line, writeComment none json] :=
    Text.lines_ofLines (List.cons_ne_nil _ _) (by simp [free, newline_not_mem_writeComment])
  have found : payloads (Text.ofLines [line, writeComment none json]).toList =
      [] ++ [Base64.encode json.toUTF8.data.toList] := by
    rw [payloads, ← Text.lines, lines, List.filterMap_cons_none code,
      List.filterMap_cons_some (payload?_writeComment nonempty)]
    rfl
  rw [← String.ofList_toList (s := Text.ofLines _), extract?_of_payloads found]

/--
The map comment at the end of a text is found and read, whatever stands in front of it and whatever
blanks follow.
-/
theorem extract?_writeComment
    {charset : Option String}
    {json blanks : String}
    (before : String)
    (content : json ≠ "")
    (named : ∀ name ∈ charset, name ≠ "" ∧ name.toList.all isCharsetChar = true)
    (blank : blanks.toList.all Text.isSpace = true) :
    extract? (before ++ "\n" ++ String.ofList (writeComment charset json) ++ blanks) =
        (ofJson json).map some ∧
      extract? (String.ofList (writeComment charset json) ++ blanks) = (ofJson json).map some := by
  have bytes : json.toUTF8.data.toList ≠ [] := by
    intro empty
    apply content
    rw [← String.toByteArray_eq_empty_iff, ← String.toUTF8_eq_toByteArray]
    exact ByteArray.ext (Array.toList_eq_nil_iff.mp empty)
  have found : payloads (writeComment charset json ++ blanks.toList) =
      [Base64.encode json.toUTF8.data.toList] :=
    payloads_comment (isCharset_elim named) (mt Base64.encode_eq_nil_iff.mp bytes)
      (all_isPayloadChar_encode _) blank
  constructor
  · have text : before ++ "\n" ++ String.ofList (writeComment charset json) ++ blanks =
        String.ofList
          (before.toList ++ '\n' :: (writeComment charset json ++ blanks.toList)) := by
      apply String.toList_injective
      simp
    rw [text]
    exact extract?_of_payloads (by rw [payloads_append_newline, found])
  · have text : String.ofList (writeComment charset json) ++ blanks =
        String.ofList (writeComment charset json ++ blanks.toList) := by
      apply String.toList_injective
      simp
    have alone : payloads (writeComment charset json ++ blanks.toList) =
        [] ++ [Base64.encode json.toUTF8.data.toList] := found
    rw [text]
    exact extract?_of_payloads alone

/-- A comment behind another one, with a character set, and with blank lines behind it. -/
theorem extract?_writeComment_second :
    "\x7b\x7d" ≠ "" ∧ (∀ name ∈ some "utf-8", name ≠ "" ∧ name.toList.all isCharsetChar = true) ∧
      "\r\n \n".toList.all Text.isSpace = true ∧
      extract? ("x\n" ++ String.ofList (writeComment none "[]") ++ "\n"
          ++ String.ofList (writeComment (some "utf-8") "\x7b\x7d") ++ "\r\n \n") =
        (ofJson "\x7b\x7d").map some ∧
      extract? (String.ofList (writeComment (some "utf-8") "\x7b\x7d") ++ "\r\n \n") =
        (ofJson "\x7b\x7d").map some := by
  have content : "\x7b\x7d" ≠ "" := by decide
  have named : ∀ name ∈ some "utf-8", name ≠ "" ∧ name.toList.all isCharsetChar = true := by
    intro name same
    obtain rfl := Option.some.inj same
    decide
  have blank : "\r\n \n".toList.all Text.isSpace = true := by decide
  exact ⟨content, named, blank,
    extract?_writeComment ("x\n" ++ String.ofList (writeComment none "[]")) content named blank⟩

end MappedCoverage.SourceMap
