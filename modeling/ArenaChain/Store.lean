import ArenaChain.Linked

/-!
# Stores

A store keeps values in slots and hands out a handle for each value that it
takes in.  A handle stays good until its slot is given up.

`Store` is the interface.  Its laws describe every operation by its effect on
look-up alone, so a fact proved from them holds of each kind of store.  From
look-up and a bound on the slots in use, `entries` lists the contents; the main
statement about it is `mem_entries`.
-/

namespace ArenaChain

/-- A full container hands back the value that did not fit. -/
structure Overflow (α : Type) where
  rejected : α
  deriving DecidableEq

/-- What is reported of an overflow, whatever the value. -/
def Overflow.message {α : Type} (_ : Overflow α) : String := "storage is full"

/-- Containers of type `σ` that keep values of type `α` under stable handles. -/
class Store (σ : Type) (width : outParam Nat) (α : outParam Type) where
  /-- The value in a slot, if the slot is occupied. -/
  get? : σ → Handle width → Option α
  /-- Change the value in a slot; a vacant slot is left alone. -/
  modify : (α → α) → Handle width → σ → σ
  /-- Put a value into a vacant slot and name that slot. -/
  insert : α → σ → Except (Overflow α) (Handle width × σ)
  clear : σ → σ
  /-- A number that exceeds every occupied slot. -/
  extent : σ → Nat
  get?_nil : ∀ store, get? store .nil = none
  toNat_lt_extent : ∀ store handle value,
    get? store handle = some value → handle.toNat < extent store
  get?_modify : ∀ change target store handle,
    get? (modify change target store) handle =
      if handle = target then (get? store handle).map change else get? store handle
  get?_clear : ∀ store handle, get? (clear store) handle = none
  vacant_of_insert : ∀ value store handle grown,
    insert value store = .ok (handle, grown) → get? store handle = none
  get?_insert : ∀ value store handle grown,
    insert value store = .ok (handle, grown) →
      ∀ other, get? grown other = if other = handle then some value else get? store other
  rejected_insert : ∀ value store overflow,
    insert value store = .error overflow → overflow.rejected = value

attribute [simp] Store.get?_nil Store.get?_clear

namespace Store

variable {σ α : Type} {width : Nat} [Store σ width α]

/-- Whether a handle names an occupied slot. -/
def contains (store : σ) (handle : Handle width) : Bool :=
  (get? store handle).isSome

def writeLink [Linked α width] (handle target : Handle width) (store : σ) : σ :=
  modify (Linked.withNext target) handle store

/-- The occupied slots with their values, in ascending order of the slots. -/
def entries (store : σ) : List (Handle width × α) :=
  (List.range (extent store)).filterMap fun slot =>
    (Handle.ofSlot? slot).bind fun handle => (get? store handle).map (handle, ·)

theorem contains_iff {store : σ} {handle : Handle width} :
    contains store handle = true ↔ ∃ value, get? store handle = some value := by
  simp [contains, Option.isSome_iff_exists]

@[simp]
theorem contains_nil (store : σ) : contains store .nil = false := by
  simp [contains]

theorem ne_nil_of_get? {store : σ} {handle : Handle width} {value : α}
    (found : get? store handle = some value) : handle ≠ .nil := by
  rintro rfl
  simp at found

theorem get?_writeLink [Linked α width] (handle target : Handle width) (store : σ)
    (other : Handle width) :
    get? (writeLink handle target store) other =
      if other = handle then (get? store other).map (Linked.withNext target)
      else get? store other :=
  get?_modify _ _ _ _

@[simp]
theorem contains_writeLink [Linked α width] (handle target : Handle width) (store : σ)
    (other : Handle width) :
    contains (writeLink handle target store) other = contains store other := by
  unfold contains
  rw [get?_writeLink]
  split <;> simp

/-- The entries are what look-up finds. -/
theorem mem_entries {store : σ} {handle : Handle width} {value : α} :
    (handle, value) ∈ entries store ↔ get? store handle = some value := by
  simp only [entries, List.mem_filterMap, List.mem_range, Option.bind_eq_some_iff,
    Option.map_eq_some_iff, Prod.mk.injEq]
  constructor
  · rintro ⟨slot, -, named, -, value, found, rfl, rfl⟩
    exact found
  · intro found
    exact ⟨handle.toNat, toNat_lt_extent _ _ _ found, handle,
      Handle.ofSlot?_toNat (ne_nil_of_get? found), value, found, rfl, rfl⟩

theorem length_entries_le (store : σ) : (entries store).length ≤ extent store :=
  Nat.le_trans (List.length_filterMap_le _ _) (Nat.le_of_eq List.length_range)

/-- Each occupied slot is listed once, after the slots below it. -/
theorem entries_pairwise_lt (store : σ) :
    (entries store).Pairwise fun first second => first.1.toNat < second.1.toNat := by
  refine List.Pairwise.filterMap _ ?_ List.pairwise_lt_range
  intro slot later ascending first firstFound second secondFound
  simp only [Option.bind_eq_some_iff, Option.map_eq_some_iff] at firstFound secondFound
  obtain ⟨handle, slotOf, -, -, rfl⟩ := firstFound
  obtain ⟨laterHandle, laterSlotOf, -, -, rfl⟩ := secondFound
  rw [Handle.ofSlot?_eq_some_iff] at slotOf laterSlotOf
  dsimp only
  omega

end Store

end ArenaChain
