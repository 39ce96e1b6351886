import ArenaChain.Store

/-!
# Arenas

An arena has a capacity fixed for good and fills its slots in order, from 0
upward.  Slots are given up all at once or not at all, so a handle is good for
as long as its number lies below the size.

Main statements: `ofCapacity_eq_ok_iff` (the capacities that an arena can have)
and `insert_eq_ok_iff` (insertion succeeds exactly while there is room, and
then names the slot after the last one in use).
-/

namespace ArenaChain

/-- Slots filled in order, up to a fixed capacity whose every slot has a handle. -/
@[ext]
structure Arena (width : Nat) (α : Type) where
  /-- The values in use, in the order of their slots. -/
  slots : Array α
  capacity : Nat
  capacity_pos : 0 < capacity
  capacity_le : capacity ≤ Handle.slotLimit width
  size_le : slots.size ≤ capacity

/-- Why a number cannot be the capacity of an arena. -/
inductive CapacityError where
  | zero
  /-- The last slot would have no handle. -/
  | beyondHandles
  deriving DecidableEq

def CapacityError.message : CapacityError → String
  | .zero => "capacity must be > 0"
  | .beyondHandles => "capacity exceeds index type maximum"

namespace Arena

variable {width : Nat} {α : Type}

/-- An arena of this capacity with nothing in it.  Its last slot must have a handle. -/
def ofCapacity (capacity : Nat) : Except CapacityError (Arena width α) :=
  if zero : capacity = 0 then .error .zero
  else
    match named : (Handle.ofSlot? (capacity - 1) : Option (Handle width)) with
    | none => .error .beyondHandles
    | some last =>
      .ok
        { slots := #[]
          capacity
          capacity_pos := Nat.pos_of_ne_zero zero
          capacity_le := by
            obtain ⟨notNil, atEnd⟩ := Handle.ofSlot?_eq_some_iff.mp named
            have below := Handle.ne_nil_iff.mp notNil
            omega
          size_le := Nat.zero_le capacity }

def size (arena : Arena width α) : Nat := arena.slots.size

def isEmpty (arena : Arena width α) : Bool := arena.slots.isEmpty

def isFull (arena : Arena width α) : Bool := arena.size == arena.capacity

theorem isFull_iff {arena : Arena width α} :
    arena.isFull = true ↔ arena.size = arena.capacity :=
  beq_iff_eq

/-- The value in a slot; the end marker names none. -/
def get? (arena : Arena width α) (handle : Handle width) : Option α :=
  if handle = .nil then none else arena.slots[handle.toNat]?

/-- Change the value in a slot; the end marker names none. -/
def modify (change : α → α) (handle : Handle width) (arena : Arena width α) : Arena width α :=
  if handle = .nil then arena
  else
    { arena with
      slots := arena.slots.modify handle.toNat change
      size_le := by simpa using arena.size_le }

/-- The value in a slot in use, found by its number without a look at anything else. -/
def getUnchecked (arena : Arena width α) (handle : Handle width)
    (inUse : handle.toNat < arena.slots.size) : α :=
  arena.slots[handle.toNat]

/-- Change the value in a slot in use, found by its number without a look at anything else. -/
def modifyUnchecked (change : α → α) (handle : Handle width) (arena : Arena width α)
    (inUse : handle.toNat < arena.slots.size) : Arena width α :=
  { arena with
    slots := arena.slots.set handle.toNat (change (arena.getUnchecked handle inUse))
    size_le := by simpa using arena.size_le }

/-- Put a value after the last slot in use. -/
def insert (value : α) (arena : Arena width α) :
    Except (Overflow α) (Handle width × Arena width α) :=
  if full : arena.isFull then .error ⟨value⟩
  else
    match Handle.ofSlot? arena.size with
    | none => .error ⟨value⟩
    | some handle =>
      .ok (handle,
        { arena with
          slots := arena.slots.push value
          size_le := by
            have room := arena.size_le
            have notFull : arena.slots.size ≠ arena.capacity := mt isFull_iff.mpr full
            rw [Array.size_push]
            omega })

/-- Give up every slot; the capacity stays. -/
def clear (arena : Arena width α) : Arena width α :=
  { arena with slots := #[], size_le := Nat.zero_le _ }

/-- An arena can have as many slots as there are handles for them, and no fewer than one. -/
theorem ofCapacity_eq_ok_iff {capacity : Nat} :
    (∃ arena : Arena width α, ofCapacity capacity = .ok arena) ↔
      0 < capacity ∧ capacity ≤ Handle.slotLimit width := by
  unfold ofCapacity
  split
  case isTrue zero => simp [zero]
  case isFalse positive =>
    split
    case h_1 unnamed =>
      rw [Handle.ofSlot?_eq_none_iff] at unnamed
      simp only [reduceCtorEq, exists_false, false_iff, not_and]
      omega
    case h_2 last named =>
      obtain ⟨notNil, atEnd⟩ := Handle.ofSlot?_eq_some_iff.mp named
      have below := Handle.ne_nil_iff.mp notNil
      simp only [Except.ok.injEq, exists_eq', true_iff]
      omega

theorem of_ofCapacity {capacity : Nat} {arena : Arena width α}
    (made : ofCapacity capacity = .ok arena) :
    arena.slots = #[] ∧ arena.capacity = capacity := by
  unfold ofCapacity at made
  split at made
  case isTrue => cases made
  case isFalse =>
    split at made
    case h_1 => cases made
    case h_2 =>
      cases made
      exact ⟨rfl, rfl⟩

theorem size_le_slotLimit (arena : Arena width α) : arena.size ≤ Handle.slotLimit width :=
  Nat.le_trans arena.size_le arena.capacity_le

/-- The end marker needs no case of its own: no slot has its number. -/
theorem get?_eq (arena : Arena width α) (handle : Handle width) :
    arena.get? handle = arena.slots[handle.toNat]? := by
  unfold get?
  split
  case isTrue isNil =>
    subst isNil
    exact (Array.getElem?_eq_none arena.size_le_slotLimit).symm
  case isFalse => rfl

theorem slots_modify (change : α → α) (handle : Handle width) (arena : Arena width α) :
    (arena.modify change handle).slots = arena.slots.modify handle.toNat change := by
  unfold modify
  split
  case isTrue isNil =>
    -- The number of the end marker is beyond every slot, so there is nothing to change.
    have outside : ¬handle.toNat < arena.slots.size := by
      rw [isNil]
      exact Nat.not_lt.mpr arena.size_le_slotLimit
    simp [Array.modify, Array.modifyM, outside]
  case isFalse => rfl

@[simp]
theorem size_modify (change : α → α) (handle : Handle width) (arena : Arena width α) :
    (arena.modify change handle).size = arena.size := by
  rw [size, slots_modify, Array.size_modify, size]

theorem capacity_modify (change : α → α) (handle : Handle width) (arena : Arena width α) :
    (arena.modify change handle).capacity = arena.capacity := by
  unfold modify
  split <;> rfl

theorem get?_modify (change : α → α) (target : Handle width) (arena : Arena width α)
    (handle : Handle width) :
    (arena.modify change target).get? handle =
      if handle = target then (arena.get? handle).map change else arena.get? handle := by
  simp only [get?_eq, slots_modify, Array.getElem?_modify, Handle.toNat_inj, eq_comm]

theorem get?_eq_getUnchecked {arena : Arena width α} {handle : Handle width}
    (inUse : handle.toNat < arena.slots.size) :
    arena.get? handle = some (arena.getUnchecked handle inUse) := by
  rw [get?_eq, Array.getElem?_eq_getElem inUse, getUnchecked]

theorem modify_eq_modifyUnchecked {arena : Arena width α} {handle : Handle width}
    (inUse : handle.toNat < arena.slots.size) (change : α → α) :
    arena.modify change handle = arena.modifyUnchecked change handle inUse := by
  refine Arena.ext (Array.ext_getElem? fun slot => ?_) (arena.capacity_modify change handle)
  rw [slots_modify, Array.getElem?_modify, modifyUnchecked, Array.getElem?_set]
  split
  case isTrue same =>
    subst same
    rw [Array.getElem?_eq_getElem inUse, getUnchecked]
    rfl
  case isFalse => rfl

theorem modify_of_vacant {arena : Arena width α} {handle : Handle width}
    (vacant : arena.size ≤ handle.toNat) (change : α → α) :
    arena.modify change handle = arena := by
  refine Arena.ext (Array.ext_getElem? fun slot => ?_) (arena.capacity_modify change handle)
  rw [slots_modify, Array.getElem?_modify]
  split
  case isTrue same =>
    subst same
    rw [Array.getElem?_eq_none vacant]
    rfl
  case isFalse => rfl

theorem insert_eq_ok_iff {value : α} {arena grown : Arena width α} {handle : Handle width} :
    arena.insert value = .ok (handle, grown) ↔
      arena.size < arena.capacity ∧ handle.toNat = arena.size ∧
        grown.slots = arena.slots.push value ∧ grown.capacity = arena.capacity := by
  have room : arena.size ≤ arena.capacity := arena.size_le
  have reach := arena.capacity_le
  unfold insert
  split
  case isTrue full =>
    rw [isFull_iff] at full
    simp [full]
  case isFalse notFull =>
    rw [isFull_iff] at notFull
    split
    case h_1 outside =>
      rw [Handle.ofSlot?_eq_none_iff] at outside
      omega
    case h_2 slot named =>
      rw [Handle.ofSlot?_eq_some_iff] at named
      simp only [Except.ok.injEq, Prod.mk.injEq, ← Handle.toNat_inj, named.2, Arena.ext_iff]
      constructor
      · rintro ⟨atEnd, slots, capacity⟩
        exact ⟨by omega, atEnd.symm, slots.symm, capacity.symm⟩
      · rintro ⟨-, atEnd, slots, capacity⟩
        exact ⟨atEnd.symm, slots.symm, capacity.symm⟩

theorem insert_eq_error_iff {value : α} {arena : Arena width α} {overflow : Overflow α} :
    arena.insert value = .error overflow ↔
      arena.size = arena.capacity ∧ overflow = ⟨value⟩ := by
  have room : arena.size ≤ arena.capacity := arena.size_le
  have reach := arena.capacity_le
  unfold insert
  split
  case isTrue full =>
    rw [isFull_iff] at full
    simp [full, eq_comm]
  case isFalse notFull =>
    rw [isFull_iff] at notFull
    split
    case h_1 outside =>
      rw [Handle.ofSlot?_eq_none_iff] at outside
      omega
    case h_2 => simp [notFull]

instance : Store (Arena width α) width α where
  get? := get?
  modify := modify
  insert := insert
  clear := clear
  extent := size
  get?_nil arena := by simp [get?]
  toNat_lt_extent arena handle value found := by
    rw [get?_eq] at found
    exact (Array.getElem?_eq_some_iff.mp found).1
  get?_modify := get?_modify
  get?_clear arena handle := by simp [get?_eq, clear]
  vacant_of_insert value arena handle grown inserted := by
    obtain ⟨-, atEnd, -, -⟩ := insert_eq_ok_iff.mp inserted
    rw [get?_eq, atEnd]
    exact Array.getElem?_eq_none (Nat.le_refl _)
  get?_insert value arena handle grown inserted other := by
    obtain ⟨-, atEnd, slots, -⟩ := insert_eq_ok_iff.mp inserted
    simp only [get?_eq, slots, Array.getElem?_push, ← Handle.toNat_inj, atEnd, size]
  rejected_insert value arena overflow failed := by
    rw [(insert_eq_error_iff.mp failed).2]

/-- An arena begins with nothing in it. -/
theorem vacant_of_ofCapacity {capacity : Nat} {arena : Arena width α}
    (made : ofCapacity capacity = .ok arena) (handle : Handle width) :
    Store.get? arena handle = none := by
  change arena.get? handle = none
  simp [get?_eq, (of_ofCapacity made).1]

end Arena

end ArenaChain
