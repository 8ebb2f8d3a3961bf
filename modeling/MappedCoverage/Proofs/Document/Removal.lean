import Mathlib.Data.List.NodupEquivFin
import MappedCoverage.Proofs.Document.Records

/-!
# Where the entries lie that are left

Each removal fills its gap with the last entry. In a record that names no key twice, this decides
for every place which entry it has in the end, and with that whether the entries that are left are
still in their order.
-/

namespace MappedCoverage.Entries

variable {α : Type} {entries : Entries α}

/-! ## One removal -/

theorem getElem?_closeGap (first : String × α) (rest : Entries α) (place : Nat) :
    (closeGap rest)[place]? =
      if place < rest.length then (first :: rest)[if place = 0 then rest.length else place]?
      else none := by
  unfold closeGap
  cases found : rest.getLast? with
  | none => simp [List.getLast?_eq_none_iff.mp found]
  | some last =>
      obtain ⟨start, rfl⟩ := List.getLast?_eq_some_iff.mp found
      rw [List.dropLast_concat, List.length_append, List.length_singleton]
      cases place with
      | zero => simp
      | succ before =>
          rw [List.getElem?_cons_succ, if_neg (Nat.succ_ne_zero before), List.getElem?_cons_succ]
          by_cases inside : before < start.length
          · rw [if_pos (by omega), List.getElem?_append_left inside]
          · rw [if_neg (by omega), List.getElem?_eq_none (by omega)]

/-- A record loses its last place; the last entry is now where the removed one was. -/
theorem getElem?_remove (distinct : (keys entries).Nodup) {key : String} {gap : Nat}
    (found : (keys entries)[gap]? = some key) (place : Nat) :
    (remove key entries)[place]? =
      if place + 1 < entries.length then
        entries[if place = gap then entries.length - 1 else place]?
      else none := by
  induction entries generalizing gap place with
  | nil => cases found
  | cons entry rest ih =>
      rw [keys_cons, List.nodup_cons] at distinct
      obtain ⟨new, later⟩ := distinct
      rw [remove, List.length_cons, Nat.add_sub_cancel]
      cases gap with
      | zero =>
          have own : entry.1 = key := Option.some.inj found
          simp only [if_pos own, Nat.add_lt_add_iff_right]
          exact getElem?_closeGap entry rest place
      | succ gap =>
          rw [keys_cons, List.getElem?_cons_succ] at found
          have inside : key ∈ keys rest := List.mem_of_getElem? found
          have other : entry.1 ≠ key := fun own => new (own ▸ inside)
          have filled : 0 < rest.length := by
            rw [← List.length_map]
            exact List.length_pos_of_mem inside
          rw [if_neg other]
          cases place with
          | zero => simp [filled]
          | succ place =>
              rw [List.getElem?_cons_succ, ih later found place]
              by_cases same : place = gap
              · obtain ⟨last, isLast⟩ := Nat.exists_eq_succ_of_ne_zero filled.ne'
                simp [same, isLast]
              · simp [same]

/-- Only a key that is there is taken out. -/
theorem remove_of_notMem {key : String} (missing : key ∉ keys entries) :
    remove key entries = entries := by
  induction entries with
  | nil => rfl
  | cons entry rest ih =>
      rw [keys_cons, List.mem_cons, not_or] at missing
      rw [remove, if_neg (Ne.symm missing.1), ih missing.2]

theorem mem_keys_remove (distinct : (keys entries).Nodup) {key other : String} :
    other ∈ keys (remove key entries) ↔ other ∈ keys entries ∧ other ≠ key := by
  have same : other ∈ keys (remove key entries) ↔ other ∈ keys (entries.filter (·.1 ≠ key)) :=
    ((remove_perm distinct key).map (·.1)).mem_iff
  rw [same, ← not_iff_not, ← get?_eq_none_iff, get?_filter_ne, not_and_or, ← get?_eq_none_iff]
  by_cases own : key = other
  · simp [own]
  · simp [own, Ne.symm own]

theorem length_remove {key : String} (inside : key ∈ keys entries) :
    (remove key entries).length + 1 = entries.length := by
  induction entries with
  | nil => cases inside
  | cons entry rest ih =>
      rw [remove]
      by_cases own : entry.1 = key
      · rw [if_pos own, (closeGap_perm rest).length_eq, List.length_cons]
      · rw [keys_cons, List.mem_cons] at inside
        rw [if_neg own, List.length_cons, ih (inside.resolve_left (Ne.symm own)), List.length_cons]

theorem length_keys (entries : Entries α) : (keys entries).length = entries.length :=
  List.length_map ..

theorem getElem?_keys (entries : Entries α) (place : Nat) :
    (keys entries)[place]? = entries[place]?.map (·.1) :=
  List.getElem?_map ..

/-- A key that is left is where it was, or came from the last place into the gap. -/
theorem keys_getElem?_of_remove (distinct : (keys entries).Nodup) {key name : String}
    {gap place : Nat} (found : (keys entries)[gap]? = some key)
    (here : (keys (remove key entries))[place]? = some name) :
    name ≠ key ∧
      (keys entries)[if place = gap then (keys entries).length - 1 else place]? = some name := by
  constructor
  · rintro rfl
    have gone := (keys_removeAll distinct [name]).2 name (List.mem_singleton_self name)
    exact gone (List.mem_of_getElem? here)
  · rw [getElem?_keys, getElem?_remove distinct found] at here
    by_cases inside : place + 1 < entries.length
    · rwa [if_pos inside, ← getElem?_keys, ← length_keys] at here
    · rw [if_neg inside] at here
      cases here

/-! ## Several removals -/

theorem lt_length_of_getElem?_eq {β : Type} {first second : List β} {place source : Nat}
    (same : first[place]? = second[source]?) (filled : place < first.length) :
    source < second.length := by
  rw [List.getElem?_eq_getElem filled] at same
  exact (List.getElem?_eq_some_iff.mp same.symm).1

/-- Keys `taken` are taken out in turn of a record with keys `names`. In the end, a place keeps its
entry, or is handed the entry that comes to the last place at the turn of its key. -/
inductive ComesFrom (taken names : List String) : Nat → Nat → Prop where
  | kept {place : Nat} {name : String}
      (here : names[place]? = some name)
      (stays : name ∉ taken) :
      ComesFrom taken names place place
  | handed {place turn source : Nat} {name : String}
      (here : names[place]? = some name)
      (goes : taken[turn]? = some name)
      (last : ComesFrom taken names (names.length - 1 - turn) source) :
      ComesFrom taken names place source

namespace ComesFrom

variable {removed names : List String} {place source other : Nat}

/-- Only what is taken out is replaced. -/
theorem source_eq {name : String} (comes : ComesFrom removed names place source)
    (here : names[place]? = some name) (stays : name ∉ removed) : source = place := by
  cases comes with
  | kept => rfl
  | handed also goes =>
      obtain rfl := Option.some.inj (here.symm.trans also)
      exact absurd (List.mem_of_getElem? goes) stays

theorem unique (first : ComesFrom removed names place source)
    (distinct : removed.Nodup) (second : ComesFrom removed names place other) :
    source = other := by
  induction first with
  | kept here stays => exact (second.source_eq here stays).symm
  | handed here goes last ih =>
      cases second with
      | kept also stays => exact (ComesFrom.handed here goes last).source_eq also stays
      | handed also goesAlso lastAlso =>
          obtain rfl := Option.some.inj (here.symm.trans also)
          have inside := (List.getElem?_eq_some_iff.mp goes).1
          obtain rfl := (List.getElem?_inj inside distinct).mp (goes.trans goesAlso.symm)
          exact ih lastAlso

theorem eq_or_last (comes : ComesFrom removed names place source) :
    source = place ∨ names.length - removed.length ≤ source := by
  induction comes with
  | kept => exact Or.inl rfl
  | handed here goes last ih =>
      have inside := (List.getElem?_eq_some_iff.mp goes).1
      exact Or.inr (by omega)

/-- What comes to the place of a key that goes comes from a place that the record loses. -/
theorem last_of_taken {name : String} (comes : ComesFrom removed names place source)
    (here : names[place]? = some name) (goes : name ∈ removed) :
    names.length - removed.length ≤ source := by
  cases comes with
  | kept also stays =>
      obtain rfl := Option.some.inj (here.symm.trans also)
      exact absurd goes stays
  | handed _ turn last =>
      have inside := (List.getElem?_eq_some_iff.mp turn).1
      rcases last.eq_or_last with rfl | later <;> omega

/-- The first key to go hands its place to the last one. -/
theorem fill_gap {key : String} {gap : Nat} (found : names[gap]? = some key)
    (filled : ComesFrom (key :: removed) names (if place = gap then names.length - 1 else place)
      source) :
    ComesFrom (key :: removed) names place source := by
  by_cases same : place = gap
  · rw [if_pos same] at filled
    subst same
    exact .handed found (List.getElem?_cons_zero ..) filled
  · rwa [if_neg same] at filled

/-- What comes from a place after a removal came from that place before it, or from the last place
if the removed key was there. -/
theorem of_remove {key : String} {gap : Nat} (distinct : (keys entries).Nodup)
    (found : (keys entries)[gap]? = some key)
    (later : ComesFrom removed (keys (remove key entries)) place source) :
    ComesFrom (key :: removed) (keys entries) place
      (if source = gap then (keys entries).length - 1 else source) := by
  have shorter : (keys (remove key entries)).length + 1 = (keys entries).length := by
    rw [length_keys, length_keys]
    exact length_remove (List.mem_of_getElem? found)
  induction later with
  | kept here stays =>
      obtain ⟨other, before⟩ := keys_getElem?_of_remove distinct found here
      exact fill_gap found (.kept before (List.not_mem_cons_of_ne_of_not_mem other stays))
  | @handed place turn source name here goes last ih =>
      obtain ⟨-, before⟩ := keys_getElem?_of_remove distinct found here
      have sameLast : (keys (remove key entries)).length - 1 - turn =
          (keys entries).length - 1 - (turn + 1) := by omega
      rw [sameLast] at ih
      exact fill_gap found (.handed before (List.getElem?_cons_succ.trans goes) ih)

end ComesFrom

theorem removeAll_cons (key : String) (others : List String) (entries : Entries α) :
    removeAll (key :: others) entries = removeAll others (remove key entries) := rfl

/-- Where each entry comes from that is left when keys of the record are taken out. -/
theorem comesFrom_removeAll (distinct : (keys entries).Nodup) {removed : List String}
    (different : removed.Nodup) (inside : ∀ key ∈ removed, key ∈ keys entries) :
    (removeAll removed entries).length + removed.length = entries.length ∧
      ∀ place < (removeAll removed entries).length, ∃ source,
        ComesFrom removed (keys entries) place source ∧
          (removeAll removed entries)[place]? = entries[source]? := by
  induction removed generalizing entries with
  | nil =>
      refine ⟨rfl, fun place filled => ⟨place, ?_, rfl⟩⟩
      have named : place < (keys entries).length := by rwa [length_keys]
      exact .kept (List.getElem?_eq_getElem named) List.not_mem_nil
  | cons key others ih =>
      rw [List.nodup_cons] at different
      rw [List.forall_mem_cons] at inside
      obtain ⟨gap, found⟩ := List.mem_iff_getElem?.mp inside.1
      have shorter := length_remove inside.1
      have left : (keys (remove key entries)).Nodup := (keys_removeAll distinct [key]).1
      have still (other : String) (reserved : other ∈ others) :
          other ∈ keys (remove key entries) :=
        (mem_keys_remove distinct).mpr
          ⟨inside.2 other reserved, fun own => different.1 (own ▸ reserved)⟩
      obtain ⟨length, places⟩ := ih left different.2 still
      rw [removeAll_cons, List.length_cons]
      refine ⟨by omega, fun place filled => ?_⟩
      obtain ⟨source, comes, same⟩ := places place filled
      refine ⟨_, comes.of_remove distinct found, ?_⟩
      have old := lt_length_of_getElem?_eq same filled
      rw [same, getElem?_remove distinct found, if_pos (by omega), length_keys]

/-- The keys that are taken out in turn: those among `removed` that the record has. -/
def taken (removed : List String) (entries : Entries α) : List String :=
  removed.filter (· ∈ keys entries)

/-- The order in which a record is left when keys are taken out. -/
structure Settled (removed : List String) (entries left : Entries α) : Prop where
  length : left.length + (taken removed entries).length = entries.length
  /-- Each place has the entry that comes there. -/
  comes : ∀ place < left.length, ∃ source,
    ComesFrom (taken removed entries) (keys entries) place source ∧
      left[place]? = entries[source]?
  /-- The order is kept exactly if no entry comes to stand before one that it stood behind. -/
  inOrder_iff : (keys left).Sublist (keys entries) ↔
    ∀ place < left.length, ∀ before < place, ∀ source earlier,
      ComesFrom (taken removed entries) (keys entries) place source →
      ComesFrom (taken removed entries) (keys entries) before earlier → earlier < source
  /-- Nothing moves if all keys stay that stand in the places that remain. -/
  unmoved : (∀ name ∈ (keys entries).take left.length, name ∉ removed) →
    left = entries.take left.length
  /-- The order is lost if of those keys one goes and a later one stays. -/
  reordered : ∀ gap place name other, gap < place → place < left.length →
    (keys entries)[gap]? = some name → name ∈ removed →
    (keys entries)[place]? = some other → other ∉ removed →
    ¬ (keys left).Sublist (keys entries)

theorem removeAll_taken (distinct : (keys entries).Nodup) {removed : List String}
    (different : removed.Nodup) :
    removeAll (taken removed entries) entries = removeAll removed entries := by
  induction removed generalizing entries with
  | nil => rfl
  | cons key others ih =>
      rw [List.nodup_cons] at different
      rw [removeAll_cons, taken]
      by_cases inside : key ∈ keys entries
      · have left : (keys (remove key entries)).Nodup := (keys_removeAll distinct [key]).1
        have same : taken others (remove key entries) = taken others entries := by
          apply List.filter_congr
          intro other reserved
          have another : other ≠ key := fun own => different.1 (own ▸ reserved)
          simp [mem_keys_remove distinct, another]
        rw [List.filter_cons_of_pos (by simpa using inside), removeAll_cons, ← ih left different.2,
          same, taken]
      · rw [List.filter_cons_of_neg (by simpa using inside), remove_of_notMem inside,
          ← ih distinct different.2, taken]

/-- Of distinct names, those that come from given places are in order exactly if these ascend. -/
theorem sublist_iff_ascending {names others : List String} (distinct : names.Nodup)
    {Comes : Nat → Nat → Prop}
    (unique : ∀ {place first second}, Comes place first → Comes place second → first = second)
    (comes : ∀ place < others.length, ∃ source,
      Comes place source ∧ others[place]? = names[source]?) :
    others.Sublist names ↔ ∀ place < others.length, ∀ before < place, ∀ source earlier,
      Comes place source → Comes before earlier → earlier < source := by
  constructor
  · intro inOrder
    obtain ⟨old, same⟩ := List.sublist_iff_exists_orderEmbedding_getElem?_eq.mp inOrder
    -- No name stands twice, so the place that the order gives a name is the one that it comes from.
    have isSource {place source : Nat} (filled : place < others.length)
        (known : Comes place source) : old place = source := by
      obtain ⟨own, alsoKnown, sameOwn⟩ := comes place filled
      obtain rfl := unique alsoKnown known
      rw [same] at sameOwn
      have inside := lt_length_of_getElem?_eq (same place) filled
      exact (List.getElem?_inj inside distinct).mp sameOwn
    intro place filled before sooner source earlier known knownBefore
    rw [← isSource filled known, ← isSource (sooner.trans filled) knownBefore]
    exact old.lt_iff_lt.mpr sooner
  · intro ascending
    choose source known same using fun place : Fin others.length => comes place place.2
    have inside (place : Fin others.length) : source place < names.length :=
      lt_length_of_getElem?_eq (same place) place.2
    have strict : StrictMono fun place => (⟨source place, inside place⟩ : Fin names.length) :=
      fun before place sooner =>
        ascending place place.2 before sooner _ _ (known place) (known before)
    refine List.sublist_iff_exists_fin_orderEmbedding_get_eq.mpr
      ⟨OrderEmbedding.ofStrictMono _ strict, fun place => ?_⟩
    have same := same place
    rw [List.getElem?_eq_getElem place.2, List.getElem?_eq_getElem (inside place)] at same
    exact Option.some.inj same

theorem mem_taken {removed : List String} {key : String} :
    key ∈ taken removed entries ↔ key ∈ removed ∧ key ∈ keys entries := by
  rw [taken, List.mem_filter, decide_eq_true_iff]

theorem eq_take_of_comes {removed : List String} {left : Entries α}
    (shorter : left.length ≤ entries.length)
    (comes : ∀ place < left.length, ∃ source,
      ComesFrom removed (keys entries) place source ∧ left[place]? = entries[source]?)
    (stay : ∀ name ∈ (keys entries).take left.length, name ∉ removed) :
    left = entries.take left.length := by
  apply List.ext_getElem?
  intro place
  by_cases filled : place < left.length
  · obtain ⟨source, known, same⟩ := comes place filled
    have named : place < (keys entries).length := by
      rw [length_keys]
      omega
    have inside := stay _ (List.mem_take_iff_getElem.mpr ⟨place, by omega, rfl⟩)
    obtain rfl := known.source_eq (List.getElem?_eq_getElem named) inside
    rw [same, List.getElem?_take_of_lt filled]
  · rw [List.getElem?_eq_none (by omega), List.getElem?_eq_none]
    rw [List.length_take]
    omega

/-- Taking keys out of a record leaves it settled. -/
theorem settled_removeAll (distinct : (keys entries).Nodup) {removed : List String}
    (different : removed.Nodup) : Settled removed entries (removeAll removed entries) := by
  have differentTaken : (taken removed entries).Nodup := different.filter _
  obtain ⟨length, comes⟩ := comesFrom_removeAll distinct differentTaken
    fun key reserved => (mem_taken.mp reserved).2
  rw [removeAll_taken distinct different] at length comes
  have inOrder : (keys (removeAll removed entries)).Sublist (keys entries) ↔
      ∀ place < (removeAll removed entries).length, ∀ before < place, ∀ source earlier,
        ComesFrom (taken removed entries) (keys entries) place source →
        ComesFrom (taken removed entries) (keys entries) before earlier → earlier < source := by
    rw [← length_keys]
    apply sublist_iff_ascending distinct
    · exact fun first second => first.unique differentTaken second
    · intro place filled
      rw [length_keys] at filled
      obtain ⟨source, known, same⟩ := comes place filled
      exact ⟨source, known, by rw [getElem?_keys, getElem?_keys, same]⟩
  constructor
  case length => exact length
  case comes => exact comes
  case inOrder_iff => exact inOrder
  case unmoved =>
    exact fun stay => eq_take_of_comes (by omega) comes fun name inside goes =>
      stay name inside (mem_taken.mp goes).1
  case reordered =>
    intro gap place name other sooner filled gone goes here stays kept
    have isTaken : name ∈ taken removed entries :=
      mem_taken.mpr ⟨goes, List.mem_of_getElem? gone⟩
    have own : ComesFrom (taken removed entries) (keys entries) place place :=
      .kept here fun goes => stays (mem_taken.mp goes).1
    -- The gap is filled from behind all places that remain, so from behind the key that stays.
    obtain ⟨source, known, -⟩ := comes gap (sooner.trans filled)
    have behind := known.last_of_taken gone isTaken
    have ascending := inOrder.mp kept place filled gap sooner place source own known
    rw [length_keys] at behind
    omega

end MappedCoverage.Entries
