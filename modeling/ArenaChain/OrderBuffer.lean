import ArenaChain.RecordText
import ArenaChain.Store

/-!
# Order buffers

An order buffer is room for a fixed number of handles, filled from the front.
It records the order in which a chain runs, or an order that a chain shall have.
Slots that are not filled hold the end marker.

Everything observable follows from the capacity and the list `filled`
(`ext_of_filled`); each operation has one lemma about that list.
-/

namespace ArenaChain

/-- A fixed number of handle slots, filled from the front and blank behind. -/
structure OrderBuffer (width : Nat) where
  slots : Array (Handle width)
  /-- How many slots are filled. -/
  length : Nat
  length_le : length ≤ slots.size
  eq_nil_of_unfilled : ∀ position handle,
    length ≤ position → slots[position]? = some handle → handle = .nil

namespace OrderBuffer

variable {width : Nat}

/-- A buffer with this many slots, all blank. -/
def empty (capacity : Nat) : OrderBuffer width where
  slots := Array.replicate capacity .nil
  length := 0
  length_le := Nat.zero_le _
  eq_nil_of_unfilled position handle _ found := by
    obtain ⟨_, rfl⟩ := Array.getElem?_eq_some_iff.mp found
    simp

def capacity (buffer : OrderBuffer width) : Nat := buffer.slots.size

/-- The handles in the filled slots. -/
def filled (buffer : OrderBuffer width) : List (Handle width) :=
  buffer.slots.toList.take buffer.length

def isEmpty (buffer : OrderBuffer width) : Bool := buffer.length == 0

def isFull (buffer : OrderBuffer width) : Bool := buffer.length == buffer.capacity

def get? (buffer : OrderBuffer width) (position : Nat) : Option (Handle width) :=
  if position < buffer.length then buffer.slots[position]? else none

/-- Fill the next slot; a full buffer hands the handle back. -/
def push (handle : Handle width) (buffer : OrderBuffer width) :
    Except (Overflow (Handle width)) (OrderBuffer width) :=
  if room : buffer.length < buffer.slots.size then
    .ok
      { slots := buffer.slots.set buffer.length handle room
        length := buffer.length + 1
        length_le := by rwa [Array.size_set]
        eq_nil_of_unfilled := by
          intro position other behind found
          rw [Array.getElem?_set_ne room (by omega)] at found
          exact buffer.eq_nil_of_unfilled position other (by omega) found }
  else .error ⟨handle⟩

def clear (buffer : OrderBuffer width) : OrderBuffer width where
  slots := buffer.slots.mapIdx fun position handle =>
    if position < buffer.length then .nil else handle
  length := 0
  length_le := Nat.zero_le _
  eq_nil_of_unfilled := by
    intro position handle _ found
    rw [Array.getElem?_mapIdx, Option.map_eq_some_iff] at found
    obtain ⟨previous, held, rfl⟩ := found
    split
    case isTrue => rfl
    case isFalse behind =>
      exact buffer.eq_nil_of_unfilled position previous (Nat.le_of_not_lt behind) held

/-- Change the order in the filled slots, with as many handles as before. -/
def rearrange (change : List (Handle width) → List (Handle width))
    (keepsLength : ∀ order, (change order).length = order.length)
    (buffer : OrderBuffer width) : OrderBuffer width where
  slots := (change buffer.filled ++ buffer.slots.toList.drop buffer.length).toArray
  length := buffer.length
  length_le := by
    have within := buffer.length_le
    simp [keepsLength, filled]
    omega
  eq_nil_of_unfilled := by
    have within := buffer.length_le
    intro position handle behind found
    have front : (change buffer.filled).length = buffer.length := by
      simp [keepsLength, filled, Nat.min_eq_left within]
    rw [List.getElem?_toArray, List.getElem?_append_right (by omega), front,
      List.getElem?_drop, Nat.add_sub_cancel' behind, Array.getElem?_toList] at found
    exact buffer.eq_nil_of_unfilled position handle behind found

/-- Put other handles into the filled slots, one into each; an order that is too short or
too long for that is not put in. -/
def overwrite (order : List (Handle width)) : OrderBuffer width → OrderBuffer width :=
  rearrange (fun filled => if order.length = filled.length then order else filled)
    fun filled => by
      split
      · assumption
      · rfl

/-- Put a handle into a filled slot; a slot that is not filled is left alone. -/
def set (position : Nat) (handle : Handle width) : OrderBuffer width → OrderBuffer width :=
  rearrange (·.set position handle) fun _ => List.length_set

def reverse : OrderBuffer width → OrderBuffer width :=
  rearrange List.reverse fun _ => List.length_reverse

/-- Move the filled slots towards the front, those that fall off to the back. -/
def rotateLeft (distance : Nat) : OrderBuffer width → OrderBuffer width :=
  rearrange (·.rotateLeft distance) fun order => by
    simp only [List.rotateLeft]
    split
    · rfl
    · simp only [List.length_append, List.length_drop, List.length_take]
      omega

/-- Every slot, and how many of them are filled. -/
def describe (buffer : OrderBuffer width) : String :=
  recordText "Buffer"
    [("slots", listText (buffer.slots.toList.map toString)),
      ("len", toString buffer.length)]

@[simp]
theorem length_filled (buffer : OrderBuffer width) : buffer.filled.length = buffer.length := by
  have within := buffer.length_le
  simp [filled, Nat.min_eq_left within]

theorem length_le_capacity (buffer : OrderBuffer width) : buffer.length ≤ buffer.capacity :=
  buffer.length_le

/-- The slots are the filled ones, then blank ones up to the capacity. -/
theorem toList_slots (buffer : OrderBuffer width) :
    buffer.slots.toList =
      buffer.filled ++ List.replicate (buffer.capacity - buffer.length) .nil := by
  have blank : buffer.slots.toList.drop buffer.length =
      List.replicate (buffer.capacity - buffer.length) .nil := by
    rw [List.eq_replicate_iff]
    refine ⟨by simp [capacity], ?_⟩
    intro handle member
    obtain ⟨position, found⟩ := List.mem_iff_getElem?.mp member
    rw [List.getElem?_drop, Array.getElem?_toList] at found
    exact buffer.eq_nil_of_unfilled _ handle (Nat.le_add_right _ _) found
  rw [← blank, filled, List.take_append_drop]

/-- A buffer is determined by its capacity and its filled slots. -/
theorem ext_of_filled {first second : OrderBuffer width}
    (sameCapacity : first.capacity = second.capacity)
    (sameOrder : first.filled = second.filled) : first = second := by
  have sameLength : first.length = second.length := by
    rw [← length_filled, sameOrder, length_filled]
  have sameSlots : first.slots = second.slots := by
    apply Array.toList_inj.mp
    rw [toList_slots, toList_slots, sameOrder, sameCapacity, sameLength]
  cases first
  cases second
  simp_all

@[simp]
theorem filled_empty (capacity : Nat) : (empty capacity : OrderBuffer width).filled = [] := by
  simp [empty, filled]

@[simp]
theorem capacity_empty (size : Nat) : (empty size : OrderBuffer width).capacity = size := by
  simp [empty, capacity]

theorem get?_eq (buffer : OrderBuffer width) (position : Nat) :
    buffer.get? position = buffer.filled[position]? := by
  simp [get?, filled, List.getElem?_take]

theorem push_eq_ok_iff {handle : Handle width} {buffer longer : OrderBuffer width} :
    buffer.push handle = .ok longer ↔
      buffer.length < buffer.capacity ∧ longer.capacity = buffer.capacity ∧
        longer.filled = buffer.filled ++ [handle] := by
  unfold push
  split
  case isFalse noRoom => simp [capacity, noRoom]
  case isTrue room =>
    rw [Except.ok.injEq]
    constructor
    · rintro rfl
      refine ⟨room, by simp [capacity], ?_⟩
      simp [filled, List.take_add_one, room, List.take_set_of_le]
    · rintro ⟨-, sameCapacity, appended⟩
      apply ext_of_filled
      · simp [capacity] at sameCapacity ⊢
        omega
      · rw [appended]
        simp [filled, List.take_add_one, room, List.take_set_of_le]

theorem exists_push_eq_ok {buffer : OrderBuffer width} (handle : Handle width)
    (room : buffer.length < buffer.capacity) : ∃ longer, buffer.push handle = .ok longer := by
  unfold push
  exact ⟨_, dif_pos room⟩

theorem length_of_push {handle : Handle width} {buffer longer : OrderBuffer width}
    (pushed : buffer.push handle = .ok longer) : longer.length = buffer.length + 1 := by
  obtain ⟨-, -, appended⟩ := push_eq_ok_iff.mp pushed
  rw [← longer.length_filled, appended]
  simp

theorem push_eq_error_iff {handle : Handle width} {buffer : OrderBuffer width}
    {overflow : Overflow (Handle width)} :
    buffer.push handle = .error overflow ↔
      buffer.length = buffer.capacity ∧ overflow = ⟨handle⟩ := by
  have within := buffer.length_le_capacity
  unfold push
  unfold capacity at *
  split
  case isTrue => simp; omega
  case isFalse => simp [eq_comm]; omega

@[simp]
theorem length_clear (buffer : OrderBuffer width) : buffer.clear.length = 0 := rfl

@[simp]
theorem filled_clear (buffer : OrderBuffer width) : buffer.clear.filled = [] := by
  simp [clear, filled]

@[simp]
theorem capacity_clear (buffer : OrderBuffer width) :
    buffer.clear.capacity = buffer.capacity := by
  simp [clear, capacity]

@[simp]
theorem filled_rearrange (change : List (Handle width) → List (Handle width))
    (keepsLength : ∀ order, (change order).length = order.length)
    (buffer : OrderBuffer width) :
    (buffer.rearrange change keepsLength).filled = change buffer.filled := by
  have front : (change buffer.filled).length = buffer.length := by
    simp [keepsLength]
  simp [filled, rearrange]
  exact List.take_left' front

@[simp]
theorem capacity_rearrange (change : List (Handle width) → List (Handle width))
    (keepsLength : ∀ order, (change order).length = order.length)
    (buffer : OrderBuffer width) :
    (buffer.rearrange change keepsLength).capacity = buffer.capacity := by
  have within := buffer.length_le
  simp [rearrange, capacity, keepsLength]
  omega

theorem filled_overwrite {order : List (Handle width)} {buffer : OrderBuffer width}
    (same : order.length = buffer.length) : (buffer.overwrite order).filled = order := by
  rw [overwrite, filled_rearrange, length_filled, if_pos same]

end OrderBuffer

end ArenaChain
