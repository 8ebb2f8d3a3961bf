import MappedCoverage.Proofs.Shared.Handles
import MappedCoverage.Proofs.Store.Writes

/-!
# Stores behind handles

A program creates stores, clones their handles and writes through any of them. The handles that were
cloned from one another share a founder, the handle that their store was created with. Through each
of them the store shows what was written through any of them, and nothing that was written through
others.
-/

namespace MappedCoverage

/-- What a program does with stores; handles are numbered as they come. -/
inductive StoreUse where
  | create
  | clone (other : Nat)
  | set (handle : Nat) (file text : String)

namespace StoreUse

/-- The founders of the handles after a use. -/
def rebind (founders : List Nat) : StoreUse → List Nat
  | .create => founders ++ [founders.length]
  | .clone other => founders ++ (founders[other]?).toList
  | .set _ _ _ => founders

/-- What a use writes through the handles of a founder. -/
def writesOf (founders : List Nat) (founder : Nat) : StoreUse → List (String × String)
  | .set handle file text => if founders[handle]? = some founder then [(file, text)] else []
  | _ => []

end StoreUse

/-- The founders of the handles of a program, by the numbers of the handles. -/
def foundersOf (uses : List StoreUse) : List Nat :=
  uses.foldl StoreUse.rebind []

/-- What uses write through the handles of a founder, when handles have founders already. -/
def writesThrough (founder : Nat) : List Nat → List StoreUse → List (String × String)
  | _, [] => []
  | founders, use :: rest =>
      use.writesOf founders founder ++ writesThrough founder (use.rebind founders) rest

namespace Stores

/-- The stores after a use. -/
def use (stores : Stores) : StoreUse → Stores
  | .create => stores.create stores.next .empty
  | .clone other => stores.clone stores.next other
  | .set handle file text => (stores.replaceText handle file text).2

/-- The stores of a program. -/
def ofUses (uses : List StoreUse) : Stores :=
  uses.foldl use .empty

/-- Handles lead to places of their founders, where the stores hold what was written. -/
structure Tracks (stores : Stores) (founders : List Nat) (place : Nat → Nat)
    (written : Nat → List (String × String)) : Prop where
  grounded : stores.Grounded
  count : stores.next = founders.length
  founded : ∀ founder ∈ founders, founder < founders.length
  cell : ∀ handle, stores.cell? handle = (founders[handle]?).map place
  apart : ∀ first ∈ founders, ∀ second ∈ founders, place first = place second → first = second
  holds : ∀ founder ∈ founders,
    ∃ store : Store, stores.cells[place founder]? = some store ∧ store.Holds (written founder)
  unwritten : ∀ founder, founders.length ≤ founder → written founder = []

variable {stores : Stores} {founders : List Nat} {place : Nat → Nat}
  {written : Nat → List (String × String)}

theorem tracks_empty : Tracks .empty [] id fun _ => [] where
  grounded := Shared.grounded_empty
  count := rfl
  founded := nofun
  cell := fun _ => rfl
  apart := nofun
  holds := nofun
  unwritten := fun _ _ => rfl

theorem Tracks.leads (tracks : Tracks stores founders place written) {handle founder : Nat}
    (found : founders[handle]? = some founder) : stores.cell? handle = some (place founder) := by
  rw [tracks.cell, found, Option.map_some]

theorem Tracks.nowhere (tracks : Tracks stores founders place written) {handle : Nat}
    (missing : founders[handle]? = none) : stores.cell? handle = none := by
  rw [tracks.cell, missing, Option.map_none]

theorem Tracks.store_holds (tracks : Tracks stores founders place written) {handle founder : Nat}
    (found : founders[handle]? = some founder) : (stores.store handle).Holds (written founder) := by
  obtain ⟨kept, placed, holds⟩ := tracks.holds founder (List.mem_of_getElem? found)
  rw [Stores.store, Shared.get?_of_cell? (tracks.leads found), placed, Option.getD_some]
  exact holds

theorem Tracks.place_lt (tracks : Tracks stores founders place written) {founder : Nat}
    (inside : founder ∈ founders) : place founder < stores.cells.length := by
  obtain ⟨_, placed, _⟩ := tracks.holds founder inside
  exact (List.getElem?_eq_some_iff.mp placed).1

/-- A created handle is its own founder, at a place where no other founder is. -/
theorem Tracks.create (tracks : Tracks stores founders place written) :
    Tracks (stores.use .create) (StoreUse.create.rebind founders)
      (fun founder => if founder = founders.length then stores.cells.length else place founder)
      written where
  grounded := tracks.grounded.create _ _
  count := congrArg (· + 1) tracks.count |>.trans (by simp [StoreUse.rebind])
  founded := by
    intro founder inside
    rw [StoreUse.rebind, List.length_append, List.length_singleton]
    rcases List.mem_append.mp inside with old | new
    · exact Nat.lt_succ_of_lt (tracks.founded founder old)
    · rw [List.mem_singleton.mp new]
      exact Nat.lt_succ_self _
  cell := by
    intro handle
    rw [use, Shared.cell?_create, tracks.cell, tracks.count, StoreUse.rebind]
    by_cases new : founders.length = handle
    · simp [← new]
    · rw [if_neg new]
      cases found : founders[handle]? with
      | none =>
          have outside : founders.length ≤ handle := List.getElem?_eq_none_iff.mp found
          rw [List.getElem?_eq_none (by rw [List.length_append, List.length_singleton]; omega)]
          rfl
      | some founder =>
          have within := (List.getElem?_eq_some_iff.mp found).1
          have old := tracks.founded founder (List.mem_of_getElem? found)
          rw [List.getElem?_append_left within, found, Option.map_some, Option.map_some,
            if_neg (Nat.ne_of_lt old)]
  apart := by
    have away {founder : Nat} (inside : founder ∈ founders) :
        founder ≠ founders.length ∧ place founder ≠ stores.cells.length :=
      ⟨Nat.ne_of_lt (tracks.founded founder inside), Nat.ne_of_lt (tracks.place_lt inside)⟩
    intro first firstInside second secondInside same
    rcases List.mem_append.mp firstInside with firstOld | firstNew
    · rw [if_neg (away firstOld).1] at same
      rcases List.mem_append.mp secondInside with secondOld | secondNew
      · rw [if_neg (away secondOld).1] at same
        exact tracks.apart first firstOld second secondOld same
      · rw [if_pos (List.mem_singleton.mp secondNew)] at same
        exact absurd same (away firstOld).2
    · rw [if_pos (List.mem_singleton.mp firstNew)] at same
      rcases List.mem_append.mp secondInside with secondOld | secondNew
      · rw [if_neg (away secondOld).1] at same
        exact absurd same.symm (away secondOld).2
      · rw [List.mem_singleton.mp firstNew, List.mem_singleton.mp secondNew]
  holds := by
    intro founder inside
    rw [use, Shared.getElem?_cells_create]
    rcases List.mem_append.mp inside with old | new
    · rw [if_neg (Nat.ne_of_lt (tracks.founded founder old)),
        if_neg (Nat.ne_of_lt (tracks.place_lt old))]
      exact tracks.holds founder old
    · rw [if_pos (List.mem_singleton.mp new), if_pos rfl, List.mem_singleton.mp new,
        tracks.unwritten _ (Nat.le_refl _)]
      exact ⟨_, rfl, Store.holds_empty⟩
  unwritten := by
    intro founder outside
    rw [StoreUse.rebind, List.length_append, List.length_singleton] at outside
    exact tracks.unwritten founder (Nat.le_of_succ_le outside)

/-- A clone has the founder of the handle that it was cloned from. -/
theorem Tracks.clone (tracks : Tracks stores founders place written) (other : Nat) :
    Tracks (stores.use (.clone other)) ((StoreUse.clone other).rebind founders) place written := by
  rw [use, StoreUse.rebind]
  cases found : founders[other]? with
  | none =>
      rw [Shared.clone, tracks.nowhere found, Option.toList_none, List.append_nil]
      exact tracks
  | some shared =>
      have leads := tracks.leads found
      have known : ∀ founder ∈ founders ++ [shared], founder ∈ founders := by
        intro founder inside
        rcases List.mem_append.mp inside with old | new
        · exact old
        · rw [List.mem_singleton.mp new]
          exact List.mem_of_getElem? found
      rw [Option.toList_some]
      constructor
      case grounded => exact tracks.grounded.clone _ _
      case count =>
        rw [next, Shared.clone, leads, List.length_cons, List.length_append, ← tracks.count]
        rfl
      case founded =>
        intro founder inside
        rw [List.length_append]
        exact Nat.lt_succ_of_lt (tracks.founded founder (known founder inside))
      case cell =>
        intro handle
        rw [Shared.cell?_clone leads, tracks.cell, tracks.count]
        by_cases new : founders.length = handle
        · simp [← new]
        · rw [if_neg new, List.getElem?_append]
          split
          · rfl
          · next outside =>
              rw [List.getElem?_eq_none (by omega),
                List.getElem?_eq_none (by rw [List.length_singleton]; omega)]
      case apart =>
        intro first firstInside second secondInside
        exact tracks.apart first (known first firstInside) second (known second secondInside)
      case holds =>
        intro founder inside
        rw [Shared.cells_clone]
        exact tracks.holds founder (known founder inside)
      case unwritten =>
        intro founder outside
        rw [List.length_append] at outside
        exact tracks.unwritten founder (Nat.le_of_succ_le outside)

/-- A write goes to the store of its founder and to no other. -/
theorem Tracks.set (tracks : Tracks stores founders place written) (handle : Nat)
    (file text : String) :
    Tracks (stores.use (.set handle file text)) ((StoreUse.set handle file text).rebind founders)
      place
      (fun founder => written founder ++ (StoreUse.set handle file text).writesOf founders founder)
    := by
  have same : Shared.SameHandles (stores.use (.set handle file text)) stores :=
    Shared.sameHandles_set _ _ _
  constructor
  case grounded => exact tracks.grounded.of_sameHandles same
  case count =>
    rw [next, same.handles]
    exact tracks.count
  case founded => exact tracks.founded
  case cell =>
    intro other
    rw [same.cell?_eq]
    exact tracks.cell other
  case apart => exact tracks.apart
  case holds =>
    intro founder inside
    obtain ⟨kept, placed, holds⟩ := tracks.holds founder inside
    rw [StoreUse.writesOf]
    cases found : founders[handle]? with
    | none =>
        rw [if_neg nofun, List.append_nil, use, replaceText, setText, Shared.set,
          tracks.nowhere found]
        exact ⟨kept, placed, holds⟩
    | some own =>
        rw [use, replaceText, setText, tracks.grounded.getElem?_cells_set (tracks.leads found)]
        by_cases here : own = founder
        · subst here
          rw [if_pos rfl, if_pos rfl]
          exact ⟨_, rfl, (tracks.store_holds found).set file text⟩
        · have elsewhere : place own ≠ place founder := fun equal =>
            here (tracks.apart own (List.mem_of_getElem? found) founder inside equal)
          rw [if_neg elsewhere, if_neg (by simpa using here), List.append_nil]
          exact ⟨kept, placed, holds⟩
  case unwritten =>
    intro founder outside
    have missing : founders[handle]? ≠ some founder := fun found =>
      absurd (tracks.founded founder (List.mem_of_getElem? found)) (Nat.not_lt_of_le outside)
    rw [StoreUse.writesOf, if_neg missing, List.append_nil]
    exact tracks.unwritten founder outside

/-- A use writes through the handles of each founder what it says. -/
theorem Tracks.use (tracks : Tracks stores founders place written) (use : StoreUse) :
    ∃ place, Tracks (stores.use use) (use.rebind founders) place
      (fun founder => written founder ++ use.writesOf founders founder) := by
  cases use with
  | create =>
      simp only [StoreUse.writesOf, List.append_nil]
      exact ⟨_, tracks.create⟩
  | clone other =>
      simp only [StoreUse.writesOf, List.append_nil]
      exact ⟨_, tracks.clone other⟩
  | set handle file text => exact ⟨_, tracks.set handle file text⟩

theorem Tracks.uses (tracks : Tracks stores founders place written) (uses : List StoreUse) :
    ∃ place, Tracks (uses.foldl Stores.use stores) (uses.foldl StoreUse.rebind founders) place
      (fun founder => written founder ++ writesThrough founder founders uses) := by
  induction uses generalizing stores founders place written with
  | nil =>
      simp only [writesThrough, List.append_nil]
      exact ⟨place, tracks⟩
  | cons use rest ih =>
      obtain ⟨_, next⟩ := tracks.use use
      simp only [writesThrough, ← List.append_assoc]
      exact ih next

/-- A use that writes nothing through the handles of a founder leaves their store alone. -/
theorem Tracks.store_use (tracks : Tracks stores founders place written) {handle founder : Nat}
    (found : founders[handle]? = some founder) {use : StoreUse}
    (silent : use.writesOf founders founder = []) :
    (stores.use use).store handle = stores.store handle := by
  have leads := tracks.leads found
  have old : stores.next ≠ handle := by
    rw [tracks.count]
    exact Nat.ne_of_gt (List.getElem?_eq_some_iff.mp found).1
  have placed := tracks.place_lt (List.mem_of_getElem? found)
  -- The handle still leads to its place, so it is enough that the store there is the same.
  suffices kept : (stores.use use).cell? handle = some (place founder) ∧
      (stores.use use).cells[place founder]? = stores.cells[place founder]? by
    rw [Stores.store, Stores.store, Shared.get?_of_cell? kept.1, Shared.get?_of_cell? leads, kept.2]
  cases use with
  | create =>
      rw [Stores.use, Shared.cell?_create, if_neg old, Shared.getElem?_cells_create,
        if_neg (Nat.ne_of_lt placed)]
      exact ⟨leads, rfl⟩
  | clone other =>
      rw [Stores.use, Shared.cells_clone]
      refine ⟨?_, rfl⟩
      cases leadsOther : stores.cell? other with
      | none =>
          rw [Shared.clone, leadsOther]
          exact leads
      | some own => rw [Shared.cell?_clone leadsOther, if_neg old, leads]
  | set other file text =>
      have same : Shared.SameHandles (stores.use (.set other file text)) stores :=
        Shared.sameHandles_set _ _ _
      rw [same.cell?_eq]
      refine ⟨leads, ?_⟩
      rw [Stores.use, replaceText, setText]
      cases foundOther : founders[other]? with
      | none =>
          rw [Shared.set, tracks.nowhere foundOther]
      | some own =>
          have elsewhere : place own ≠ place founder := by
            intro equal
            have shared := tracks.apart own (List.mem_of_getElem? foundOther) founder
              (List.mem_of_getElem? found) equal
            rw [StoreUse.writesOf, foundOther, shared, if_pos rfl] at silent
            cases silent
          rw [tracks.grounded.getElem?_cells_set (tracks.leads foundOther), if_neg elsewhere]

/--
Through a handle a store shows for every path the text that was written last for it through any
handle with the same founder: as what a write replaces, as what is found, and as what is there. The
files are listed once each, as they were spelled first and in the order of paths. Nothing that is
done with other stores changes this. Paths are the same when they are spelled from one another.
-/
theorem ofUses_shows_last_writes {uses : List StoreUse} {handle founder : Nat}
    (founded : (foundersOf uses)[handle]? = some founder) :
    let stores := ofUses uses
    let writes := writesThrough founder [] uses
    (∀ file text, (stores.replaceText handle file text).1 = Store.lastText? writes file) ∧
      (∀ path, (stores.store handle).get? path = Store.lastText? writes path) ∧
      (∀ path, (stores.store handle).contains path =
        writes.any fun write => Path.same path write.1) ∧
      (stores.store handle).files.Perm (Path.distinct (writes.map (·.1))) ∧
      (stores.store handle).files.Pairwise (fun first second => Store.order first second = .lt) ∧
      (stores.store handle).size = (Path.distinct (writes.map (·.1))).length ∧
      (∀ use : StoreUse, use.writesOf (foundersOf uses) founder = [] →
        (stores.use use).store handle = stores.store handle) ∧
      ∀ path other, Path.same path other = true ↔ Path.Respelled path other := by
  intro stores writes
  obtain ⟨_, tracks⟩ := tracks_empty.uses uses
  have holds : (stores.store handle).Holds writes := tracks.store_holds founded
  refine ⟨fun file _ => holds.texts file, holds.texts, holds.contains_eq, holds.spellings,
    holds.files_ordered, holds.size_eq, ?_, fun _ _ => Path.same_iff_respelled⟩
  exact fun _ silent => tracks.store_use founded silent

/-- One store behind three handles and another store beside it. -/
def sharedUses : List StoreUse :=
  [.create, .clone 0, .create, .clone 1, .set 0 "/a//b" "one", .set 2 "/a/b" "other",
    .set 3 "./a" "two", .set 1 "/a/./b/" "three", .set 3 "a" "four", .set 2 "a/../b" "more"]

/-- Spellings of one path share an entry, and a leading component `.` makes another path. -/
theorem ofUses_shows_last_writes_shared :
    (foundersOf sharedUses)[3]? = some 0 ∧
      ((ofUses sharedUses).replaceText 3 "/a/b" "five").1 = some "three" ∧
      ((ofUses sharedUses).store 3).files = ["/a//b", "./a", "a"] ∧
      ((ofUses sharedUses).store 3).size = 3 ∧
      Path.Respelled "/a//b" "/a/./b/" ∧ ¬ Path.Respelled "./a" "a" ∧
      ¬ Path.Respelled "a/../b" "b" := by
  have founded : (foundersOf sharedUses)[3]? = some 0 := rfl
  obtain ⟨replaced, _, _, _, _, size, _, same⟩ := ofUses_shows_last_writes founded
  refine ⟨founded, ?_, by decide, ?_, ?_, ?_, ?_⟩
  · rw [replaced]
    decide
  · rw [size]
    decide
  · rw [← same]
    decide
  · rw [← same]
    decide
  · rw [← same]
    decide

end Stores

end MappedCoverage
