import Mathlib.Data.List.Nodup
import MappedCoverage.Config.Resolve

/-!
# Records without repeated keys

In a record that names no key twice, taking keys out leaves the entries of the other keys, though
perhaps in another order, and its entries decide the value under each key. The sections of a
document without repeated keys are such records.
-/

namespace MappedCoverage

namespace Entries

variable {α : Type} {entries : Entries α}

theorem closeGap_perm (rest : Entries α) : (closeGap rest).Perm rest := by
  unfold closeGap
  cases found : rest.getLast? with
  | none => rw [List.getLast?_eq_none_iff.mp found]
  | some last =>
      obtain ⟨start, rfl⟩ := List.getLast?_eq_some_iff.mp found
      rw [List.dropLast_concat]
      exact (List.perm_append_singleton last start).symm

/-- Of two selections, only the narrower one counts. -/
theorem filter_filter_of_imp {wide narrow : String × α → Prop} [DecidablePred wide]
    [DecidablePred narrow] (implies : ∀ entry, narrow entry → wide entry) (entries : Entries α) :
    (entries.filter (wide ·)).filter (narrow ·) = entries.filter (narrow ·) := by
  rw [List.filter_filter]
  apply List.filter_congr
  intro entry _
  by_cases kept : narrow entry
  · simp [kept, implies entry kept]
  · simp [kept]

/-- Taking a key out leaves the entries of all other keys. -/
theorem remove_perm (distinct : (keys entries).Nodup) (key : String) :
    (remove key entries).Perm (entries.filter (·.1 ≠ key)) := by
  induction entries with
  | nil => exact List.Perm.refl _
  | cons entry rest ih =>
      rw [keys_cons, List.nodup_cons] at distinct
      obtain ⟨new, later⟩ := distinct
      rw [remove]
      by_cases own : entry.1 = key
      · have others : rest.filter (·.1 ≠ key) = rest := by
          rw [List.filter_eq_self]
          intro other inside
          refine decide_eq_true fun same => new ?_
          rw [own, ← same]
          exact List.mem_map_of_mem inside
        rw [if_pos own, List.filter_cons_of_neg (by simpa using own), others]
        exact closeGap_perm rest
      · rw [if_neg own, List.filter_cons_of_pos (by simpa using own)]
        exact (ih later).cons entry

theorem nodup_keys_filter (distinct : (keys entries).Nodup) (keep : String × α → Bool) :
    (keys (entries.filter keep)).Nodup :=
  distinct.sublist (List.filter_sublist.map _)

/-- Taking keys out, one after another, leaves the entries of all other keys. -/
theorem removeAll_perm (distinct : (keys entries).Nodup) (removed : List String) :
    (removeAll removed entries).Perm (entries.filter (·.1 ∉ removed)) := by
  induction removed generalizing entries with
  | nil =>
      have all : (entries.filter fun entry => entry.1 ∉ []) = entries :=
        List.filter_eq_self.mpr fun _ _ => rfl
      rw [all]
      exact List.Perm.refl entries
  | cons key others ih =>
      have first := remove_perm distinct key
      have left : (keys (remove key entries)).Nodup :=
        (first.map _).nodup_iff.mpr (nodup_keys_filter distinct _)
      have both : (entries.filter (·.1 ≠ key)).filter (·.1 ∉ others) =
          entries.filter (·.1 ∉ key :: others) := by
        rw [List.filter_filter]
        apply List.filter_congr
        intro entry _
        simp [Bool.and_comm]
      rw [← both]
      exact (ih left).trans (first.filter _)

/-- Keys that are taken out are gone, and no other key comes to stand twice. -/
theorem keys_removeAll (distinct : (keys entries).Nodup) (removed : List String) :
    (keys (removeAll removed entries)).Nodup ∧
      ∀ key ∈ removed, key ∉ keys (removeAll removed entries) := by
  have left := removeAll_perm distinct removed
  constructor
  · exact (left.map _).nodup_iff.mpr (nodup_keys_filter distinct _)
  · intro key reserved inside
    obtain ⟨entry, listed, rfl⟩ := List.mem_map.mp inside
    exact of_decide_eq_true (List.mem_filter.mp (left.mem_iff.mp listed)).2 reserved

theorem get?_eq_none_iff {key : String} : get? key entries = none ↔ key ∉ keys entries := by
  induction entries with
  | nil => simp
  | cons entry rest ih =>
      rw [get?, keys_cons, List.mem_cons, not_or, ← ih]
      by_cases own : entry.1 = key
      · simp [own]
      · simp [own, Ne.symm own]

/-- Where no key stands twice, the value under a key is that of the only entry with this key. -/
theorem get?_eq_some_iff (distinct : (keys entries).Nodup) {key : String} {value : α} :
    get? key entries = some value ↔ (key, value) ∈ entries := by
  induction entries with
  | nil => simp
  | cons entry rest ih =>
      obtain ⟨name, own⟩ := entry
      rw [keys_cons, List.nodup_cons] at distinct
      obtain ⟨new, later⟩ := distinct
      rw [get?, List.mem_cons, ← ih later, Prod.mk.injEq]
      by_cases same : name = key
      · subst same
        simp [get?_eq_none_iff.mpr new, eq_comm]
      · simp [same, Ne.symm same]

theorem mem_of_get? {name : String} {value : α} (found : get? name entries = some value) :
    (name, value) ∈ entries := by
  induction entries with
  | nil => cases found
  | cons entry rest ih =>
      rw [get?] at found
      split at found
      case isTrue own =>
        obtain rfl := Option.some.inj found
        rw [← own]
        exact List.mem_cons_self
      case isFalse => exact List.mem_cons_of_mem entry (ih found)

theorem mem_keys_of_get? {name : String} {value : α} (found : get? name entries = some value) :
    name ∈ keys entries :=
  List.mem_map_of_mem (mem_of_get? found)

/-- Records of the same entries have the same value under each key. -/
theorem get?_perm {others : Entries α} (same : entries.Perm others)
    (distinct : (keys entries).Nodup) (key : String) : get? key entries = get? key others := by
  have also : (keys others).Nodup := (same.map _).nodup_iff.mp distinct
  ext value
  rw [get?_eq_some_iff distinct, get?_eq_some_iff also, same.mem_iff]

theorem get?_filter_ne (key other : String) (entries : Entries α) :
    get? other (entries.filter (·.1 ≠ key)) = if key = other then none else get? other entries := by
  induction entries with
  | nil => simp
  | cons entry rest ih =>
      by_cases own : entry.1 = key
      · rw [List.filter_cons_of_neg (by simpa using own), ih, get?, own]
        split <;> rfl
      · rw [List.filter_cons_of_pos (by simpa using own), get?, ih, get?]
        by_cases same : key = other
        · simp [same, same ▸ own]
        · simp [same]

/-- Writing under a key changes no other entry. -/
theorem filter_insert {key : String} {removed : List String} (inside : key ∈ removed) (value : α)
    (entries : Entries α) :
    (insert key value entries).filter (·.1 ∉ removed) = entries.filter (·.1 ∉ removed) := by
  induction entries with
  | nil => simp [insert, inside]
  | cons entry rest ih =>
      rw [insert]
      by_cases own : entry.1 = key
      · rw [if_pos own, List.filter_cons_of_neg (by simpa using inside),
          List.filter_cons_of_neg (by simpa [own] using inside)]
      · rw [if_neg own, List.filter_cons, List.filter_cons, ih]

theorem mem_keys_insert {key other : String} {value : α} :
    other ∈ keys (insert key value entries) ↔ other = key ∨ other ∈ keys entries := by
  rw [← not_iff_not, ← get?_eq_none_iff, get?_insert, not_or, ← get?_eq_none_iff]
  by_cases own : key = other
  · simp [own]
  · simp [own, Ne.symm own]

theorem mem_of_mem_insert {key : String} {value : α} {entry : String × α}
    (inside : entry ∈ insert key value entries) : entry = (key, value) ∨ entry ∈ entries := by
  induction entries with
  | nil => exact Or.inl (List.mem_singleton.mp inside)
  | cons first rest ih =>
      rw [insert] at inside
      by_cases own : first.1 = key
      · rw [if_pos own] at inside
        exact (List.mem_cons.mp inside).imp_right (List.mem_cons_of_mem first)
      · rw [if_neg own] at inside
        rcases List.mem_cons.mp inside with rfl | later
        · exact Or.inr List.mem_cons_self
        · exact (ih later).imp_right (List.mem_cons_of_mem first)

theorem nodup_keys_insert (distinct : (keys entries).Nodup) (key : String) (value : α) :
    (keys (insert key value entries)).Nodup := by
  induction entries with
  | nil => exact List.nodup_singleton key
  | cons entry rest ih =>
      rw [keys_cons, List.nodup_cons] at distinct
      obtain ⟨new, later⟩ := distinct
      rw [insert]
      by_cases own : entry.1 = key
      · rw [if_pos own, keys_cons, List.nodup_cons, ← own]
        exact ⟨new, later⟩
      · rw [if_neg own, keys_cons, List.nodup_cons, mem_keys_insert, not_or]
        exact ⟨⟨own, new⟩, ih later⟩

/-- Writing the same value twice is writing it once. -/
theorem insert_insert (key : String) (value : α) (entries : Entries α) :
    insert key value (insert key value entries) = insert key value entries := by
  induction entries with
  | nil => simp [insert]
  | cons entry rest ih =>
      by_cases own : entry.1 = key
      · simp [insert, own]
      · simp [insert, own, ih]

end Entries

namespace Document

mutual

/-- No record in the document names a key twice. -/
def KeysDistinct : Document → Prop
  | .sequence items => ItemsDistinct items
  | .record entries => (Entries.keys entries).Nodup ∧ EntriesDistinct entries
  | _ => True

/-- No record in any item names a key twice. -/
def ItemsDistinct : List Document → Prop
  | [] => True
  | item :: rest => item.KeysDistinct ∧ ItemsDistinct rest

/-- No record in any entry's value names a key twice. -/
def EntriesDistinct : List (String × Document) → Prop
  | [] => True
  | (_, value) :: rest => value.KeysDistinct ∧ EntriesDistinct rest

end

theorem itemsDistinct_iff {items : List Document} :
    ItemsDistinct items ↔ ∀ item ∈ items, item.KeysDistinct := by
  induction items with
  | nil => simp [ItemsDistinct]
  | cons item rest ih => rw [ItemsDistinct, ih, List.forall_mem_cons]

theorem entriesDistinct_iff {entries : Entries Document} :
    EntriesDistinct entries ↔ ∀ entry ∈ entries, entry.2.KeysDistinct := by
  induction entries with
  | nil => simp [EntriesDistinct]
  | cons entry rest ih => rw [EntriesDistinct, ih, List.forall_mem_cons]

theorem EntriesDistinct.of_mem {entries : Entries Document} (distinct : EntriesDistinct entries)
    {name : String} {value : Document} (inside : (name, value) ∈ entries) :
    value.KeysDistinct :=
  entriesDistinct_iff.mp distinct (name, value) inside

theorem keysDistinct_record_iff {entries : Entries Document} :
    (record entries).KeysDistinct ↔
      (Entries.keys entries).Nodup ∧ ∀ entry ∈ entries, entry.2.KeysDistinct := by
  rw [KeysDistinct, entriesDistinct_iff]

theorem get?_asRecord? (name : String) (document : Document) :
    Entries.get? name (document.asRecord?.getD []) = document.field? name := by
  cases document <;> rfl

namespace KeysDistinct

variable {document : Document}

theorem asRecord? (distinct : document.KeysDistinct) :
    (record (document.asRecord?.getD [])).KeysDistinct := by
  cases document with
  | record entries => exact distinct
  | _ => exact ⟨List.nodup_nil, trivial⟩

theorem field? (distinct : document.KeysDistinct) {name : String} {value : Document}
    (found : document.field? name = some value) : value.KeysDistinct := by
  cases document with
  | record entries => exact distinct.2.of_mem (Entries.mem_of_get? found)
  | _ => cases found

/-- The section of a document without repeated keys has no repeated keys. -/
theorem sectionNamed (distinct : document.KeysDistinct) (names : List String) :
    (record (Config.sectionNamed names document)).KeysDistinct := by
  rw [Config.sectionNamed]
  cases found : names.findSome? fun name => (document.field? name).bind Document.asRecord? with
  | none => exact ⟨List.nodup_nil, trivial⟩
  | some entries =>
      obtain ⟨name, _, named⟩ := List.exists_of_findSome?_eq_some found
      obtain ⟨value, inside, isRecord⟩ := Option.bind_eq_some_iff.mp named
      have own := (distinct.field? inside).asRecord?
      rwa [isRecord] at own

theorem entryRecord {entries : Entries Document} (distinct : (record entries).KeysDistinct)
    (name : String) : (record (Config.entryRecord name entries)).KeysDistinct := by
  rw [Config.entryRecord]
  cases found : Entries.get? name entries with
  | none => exact ⟨List.nodup_nil, trivial⟩
  | some value => exact KeysDistinct.asRecord? (distinct.field? found)

theorem perm {entries others : Entries Document} (distinct : (record entries).KeysDistinct)
    (same : entries.Perm others) : (record others).KeysDistinct := by
  rw [keysDistinct_record_iff] at distinct ⊢
  exact ⟨(same.map _).nodup_iff.mp distinct.1, fun entry inside =>
    distinct.2 entry (same.mem_iff.mpr inside)⟩

theorem filter {entries : Entries Document} (distinct : (record entries).KeysDistinct)
    (keep : String × Document → Bool) : (record (entries.filter keep)).KeysDistinct := by
  rw [keysDistinct_record_iff] at distinct ⊢
  exact ⟨Entries.nodup_keys_filter distinct.1 keep, fun entry inside =>
    distinct.2 entry (List.mem_of_mem_filter inside)⟩

theorem cons {entries : Entries Document} {key : String} {value : Document}
    (distinct : (record entries).KeysDistinct) (valid : value.KeysDistinct)
    (new : key ∉ Entries.keys entries) : (record ((key, value) :: entries)).KeysDistinct := by
  rw [keysDistinct_record_iff] at distinct ⊢
  rw [Entries.keys_cons, List.nodup_cons, List.forall_mem_cons]
  exact ⟨⟨new, distinct.1⟩, valid, distinct.2⟩

theorem insert {entries : Entries Document} {value : Document}
    (distinct : (record entries).KeysDistinct) (key : String) (valid : value.KeysDistinct) :
    (record (Entries.insert key value entries)).KeysDistinct := by
  rw [keysDistinct_record_iff] at distinct ⊢
  refine ⟨Entries.nodup_keys_insert distinct.1 key value, fun entry inside => ?_⟩
  rcases Entries.mem_of_mem_insert inside with rfl | old
  · exact valid
  · exact distinct.2 entry old

end KeysDistinct

theorem get?_entryRecord (key name : String) (entries : Entries Document) :
    Entries.get? key (Config.entryRecord name entries) =
      (Entries.get? name entries).bind (·.field? key) := by
  rw [Config.entryRecord]
  cases Entries.get? name entries with
  | none => rfl
  | some value => exact get?_asRecord? key value

theorem sameEntries_eq_all (entries others : Entries Document) :
    sameEntries entries others =
      entries.all fun entry => (Entries.get? entry.1 others).any fun other =>
        entry.2.same other := by
  induction entries with
  | nil => rw [sameEntries, List.all_nil]
  | cons entry rest ih =>
      rw [sameEntries, ih, List.all_cons]
      cases Entries.get? entry.1 others <;> rfl

/-- No comparison tells records of the same entries apart. -/
theorem sameRecord_perm {first second : Entries Document} (same : first.Perm second)
    (distinct : (Entries.keys first).Nodup) (others : Entries Document) :
    sameRecord first others = sameRecord second others ∧
      sameRecord others first = sameRecord others second := by
  simp only [sameRecord, Document.same, sameEntries_eq_all, same.length_eq, same.all_eq,
    Entries.get?_perm same distinct, and_self]

end Document

end MappedCoverage
