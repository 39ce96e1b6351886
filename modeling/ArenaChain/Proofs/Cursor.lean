import ArenaChain.Proofs.Path
import Mathlib.Data.List.Perm.Subperm

/-!
# What a cursor passes

A chain that ends is known by its items: the slots that a cursor passes, with their
values, however far it is moved (`Yields`).  If the link at which the cursor then
stops is the end marker, the chain closes (`Closes`); otherwise that link names a
vacant slot.

The items of a chain that ends are those of its path (`Path.exists_yields`), and
there are no more of them than slots are occupied (`Path.length_le_entries_of_vacant`).
-/

namespace ArenaChain.Chain

variable {σ α : Type} {width : Nat} [Store σ width α] [Linked α width]
variable {store : σ} {head target : Handle width} {passed : List (Handle width)}
variable {item : Handle width × α} {items : List (Handle width × α)}

/-- A cursor from `head` passes exactly these items, however far it is moved. -/
def Yields (store : σ) (head : Handle width) (items : List (Handle width × α)) : Prop :=
  ∀ limit, (traverse store limit head).items = items.take limit

/-- The link at which a cursor from `head` stops that has passed these items: the link
of the last one, or `head` itself if there is none. -/
def stopLink (head : Handle width) (items : List (Handle width × α)) : Handle width :=
  (items.getLast?.map fun item => Linked.next item.2).getD head

/-- A cursor from `head` passes exactly these items and stops at the end marker. -/
structure Closes (store : σ) (head : Handle width) (items : List (Handle width × α)) :
    Prop where
  yields : Yields store head items
  stops : stopLink head items = .nil

theorem yields_nil_iff : Yields store head [] ↔ Store.get? store head = none := by
  constructor
  · intro yields
    have first := yields 1
    cases found : Store.get? store head with
    | none => rfl
    | some value => simp [traverse_of_occupied 0 found] at first
  · intro vacant limit
    cases limit with
    | zero => rfl
    | succ limit => rw [traverse_of_vacant limit vacant, List.take_nil]

theorem yields_cons_iff :
    Yields store head (item :: items) ↔
      item.1 = head ∧ Store.get? store head = some item.2 ∧
        Yields store (Linked.next item.2) items := by
  constructor
  · intro yields
    have first := yields 1
    cases found : Store.get? store head with
    | none => simp [traverse_of_vacant 0 found] at first
    | some value =>
        rw [traverse_of_occupied 0 found] at first
        obtain rfl : (head, value) = item := by simpa using first
        refine ⟨rfl, rfl, fun limit => ?_⟩
        have onward := yields (limit + 1)
        rw [traverse_of_occupied limit found] at onward
        simpa using onward
  · rintro ⟨rfl, found, onward⟩ limit
    cases limit with
    | zero => rfl
    | succ limit => rw [traverse_of_occupied limit found, onward limit, List.take_succ_cons]

@[simp]
theorem stopLink_cons :
    stopLink head (item :: items) = stopLink (Linked.next item.2) items := by
  cases items with
  | nil => rfl
  | cons second others => simp [stopLink, List.getLast?_cons]

theorem closes_cons_iff :
    Closes store head (item :: items) ↔
      item.1 = head ∧ Store.get? store head = some item.2 ∧
        Closes store (Linked.next item.2) items := by
  constructor
  · rintro ⟨yields, stops⟩
    obtain ⟨same, found, onward⟩ := yields_cons_iff.mp yields
    exact ⟨same, found, onward, by rwa [stopLink_cons] at stops⟩
  · rintro ⟨same, found, onward, stops⟩
    exact ⟨yields_cons_iff.mpr ⟨same, found, onward⟩, by rwa [stopLink_cons]⟩

theorem Yields.path (yields : Yields store head items) :
    Path store head (items.map Prod.fst) (stopLink head items) ∧
      Store.get? store (stopLink head items) = none := by
  induction items generalizing head with
  | nil => exact ⟨.stay head, yields_nil_iff.mp yields⟩
  | cons item items ih =>
      obtain ⟨rfl, found, onward⟩ := yields_cons_iff.mp yields
      rw [stopLink_cons]
      exact ⟨.follow found (ih onward).1, (ih onward).2⟩

theorem Yields.get?_of_mem (yields : Yields store head items) (member : item ∈ items) :
    Store.get? store item.1 = some item.2 := by
  induction items generalizing head with
  | nil => cases member
  | cons first others ih =>
      obtain ⟨rfl, found, onward⟩ := yields_cons_iff.mp yields
      rcases List.mem_cons.mp member with rfl | member
      · exact found
      · exact ih onward member

theorem Closes.path (closes : Closes store head items) :
    Path store head (items.map Prod.fst) .nil :=
  closes.stops ▸ closes.yields.path.1

namespace Path

theorem exists_yields (path : Path store head passed target)
    (vacant : Store.get? store target = none) :
    ∃ items : List (Handle width × α), items.map Prod.fst = passed ∧
      Yields store head items ∧ stopLink head items = target := by
  induction path with
  | stay handle => exact ⟨[], rfl, yields_nil_iff.mpr vacant, rfl⟩
  | @follow handle target passed value found onward ih =>
      obtain ⟨items, rfl, yields, stops⟩ := ih vacant
      exact ⟨(handle, value) :: items, rfl, yields_cons_iff.mpr ⟨rfl, found, yields⟩,
        by rw [stopLink_cons, stops]⟩

theorem exists_closes (path : Path store head passed .nil) :
    ∃ items : List (Handle width × α), items.map Prod.fst = passed ∧
      Closes store head items := by
  obtain ⟨items, handles, yields, stops⟩ := path.exists_yields (Store.get?_nil store)
  exact ⟨items, handles, yields, stops⟩

theorem length_le_entries (path : Path store head passed target) (nodup : passed.Nodup) :
    passed.length ≤ (Store.entries store).length := by
  have listed : passed ⊆ (Store.entries store).map Prod.fst := by
    intro handle member
    obtain ⟨value, found⟩ := path.occupied_of_mem member
    exact List.mem_map.mpr ⟨(handle, value), Store.mem_entries.mpr found, rfl⟩
  simpa using (nodup.subperm listed).length_le

theorem length_le_entries_of_vacant (path : Path store head passed target)
    (vacant : Store.get? store target = none) : passed.length ≤ (Store.entries store).length :=
  path.length_le_entries (path.nodup_of_vacant vacant)

theorem exists_few_yields (path : Path store head passed target)
    (vacant : Store.get? store target = none) :
    ∃ items : List (Handle width × α), Yields store head items ∧
      items.length ≤ (Store.entries store).length ∧ (items.map Prod.fst).Nodup := by
  obtain ⟨items, rfl, yields, -⟩ := path.exists_yields vacant
  have bound := path.length_le_entries_of_vacant vacant
  rw [List.length_map] at bound
  exact ⟨items, yields, bound, path.nodup_of_vacant vacant⟩

/-- A chain that closes is listed in full. -/
theorem map_fst_toList (path : Path store head passed .nil) :
    (toList store head).map Prod.fst = passed := by
  have ends := Store.get?_nil store
  have listed := path.length_le_entries_of_vacant ends
  exact items_traverse_of_path path ends (Nat.le_trans listed (Store.length_entries_le store))

end Path

theorem exists_closes_iff {count : Nat} :
    (∃ items : List (Handle width × α), Closes store head items ∧ items.length = count) ↔
      ∃ passed, Path store head passed .nil ∧ passed.length = count := by
  constructor
  · rintro ⟨items, closes, rfl⟩
    exact ⟨_, closes.path, List.length_map _⟩
  · rintro ⟨passed, path, rfl⟩
    obtain ⟨items, rfl, closes⟩ := path.exists_closes
    exact ⟨items, closes, (List.length_map _).symm⟩

end ArenaChain.Chain
