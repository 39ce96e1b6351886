import ArenaChain.Proofs.Transcript

/-!
# A buffer as a bounded list

All that can be seen of an order buffer is what a list of at most `capacity` handles shows
(`Holds`).  Each operation does to the buffer what it does to that list, and so does every run
of operations that starts with a blank buffer (`run_holds`).  This includes rebuilding a
chain, with which the buffer is emptied first and then filled as far as the chain goes, and
which may fail on the way.

Behind the list every slot is blank in all states: nothing that the buffer held before can be
seen again.
-/

namespace ArenaChain.OrderBuffer

open Chain

variable {width : Nat}

/-- What is done with a buffer.  A chain may be rebuilt or connected in any store of any kind,
another one each time. -/
inductive Operation (width : Nat) : Type 1 where
  | push (handle : Handle width)
  | clear
  | rearrange (change : List (Handle width) → List (Handle width))
      (keepsLength : ∀ order, (change order).length = order.length)
  | rebuild {σ α : Type} [Store σ width α] [Linked α width] (store : σ) (head : Handle width)
      (count : Nat)
  | connectBuffer {σ α : Type} [Store σ width α] [Linked α width] (store : σ)

namespace Operation

/-- The buffer after an operation, be it carried out or refused. -/
def perform : Operation width → OrderBuffer width → OrderBuffer width
  | push handle, buffer =>
    match buffer.push handle with
    | .error _ => buffer
    | .ok longer => longer
  | clear, buffer => buffer.clear
  | rearrange change keepsLength, buffer => buffer.rearrange change keepsLength
  | rebuild store head count, buffer => (Chain.rebuild head count buffer store).buffer
  | connectBuffer store, buffer => (Chain.connectBuffer buffer store).buffer

/-- What an operation does to a list of at most `capacity` handles. -/
def onList (capacity : Nat) : Operation width → List (Handle width) → List (Handle width)
  | push handle, order => if order.length < capacity then order ++ [handle] else order
  | clear, _ => []
  | rearrange change _, order => change order
  | rebuild store head count, order =>
    if capacity < count then order else (traverse store count head).items.map Prod.fst
  | connectBuffer _, order => order

theorem capacity_perform (operation : Operation width) (buffer : OrderBuffer width) :
    (operation.perform buffer).capacity = buffer.capacity := by
  cases operation with
  | push handle =>
      rw [perform]
      split
      case h_1 => rfl
      case h_2 longer pushed => exact (push_eq_ok_iff.mp pushed).2.1
  | clear => exact capacity_clear buffer
  | rearrange change keepsLength => exact capacity_rearrange change keepsLength buffer
  | rebuild store head count => exact capacity_rebuild head count buffer store
  | connectBuffer store => rw [perform, buffer_connectBuffer]

theorem filled_perform (operation : Operation width) (buffer : OrderBuffer width) :
    (operation.perform buffer).filled = operation.onList buffer.capacity buffer.filled := by
  cases operation with
  | push handle =>
      rw [perform, onList, length_filled]
      split
      case h_1 overflow refused =>
        have full := (push_eq_error_iff.mp refused).1
        rw [if_neg (by omega)]
      case h_2 longer pushed =>
        obtain ⟨room, -, appended⟩ := push_eq_ok_iff.mp pushed
        rw [if_pos room, appended]
  | clear => exact filled_clear buffer
  | rearrange change keepsLength => exact filled_rearrange change keepsLength buffer
  | rebuild store head count =>
      rw [perform, onList]
      split
      case isTrue beyond => rw [rebuild_of_capacity_lt beyond]
      case isFalse notBeyond =>
        exact (transcribes_rebuild (Nat.le_of_not_lt notBeyond)).filled_eq
  | connectBuffer store => rw [perform, buffer_connectBuffer, onList]

end Operation

def run (operations : List (Operation width)) (buffer : OrderBuffer width) : OrderBuffer width :=
  operations.foldl (fun buffer operation => operation.perform buffer) buffer

def runOnList (capacity : Nat) (operations : List (Operation width))
    (order : List (Handle width)) : List (Handle width) :=
  operations.foldl (fun order operation => operation.onList capacity order) order

/-- A buffer of this capacity that shows this list, and no more than that. -/
structure Holds (buffer : OrderBuffer width) (capacity : Nat) (order : List (Handle width)) :
    Prop where
  capacity_eq : buffer.capacity = capacity
  filled_eq : buffer.filled = order
  length_eq : buffer.length = order.length
  length_le : order.length ≤ capacity
  isEmpty_iff : buffer.isEmpty = true ↔ order = []
  isFull_iff : buffer.isFull = true ↔ order.length = capacity
  get?_eq : ∀ position, buffer.get? position = order[position]?
  /-- A handle is taken in behind the others as long as there is room. -/
  push_of_room : ∀ handle, order.length < capacity → ∃ longer,
    buffer.push handle = .ok longer ∧ longer.capacity = capacity ∧
      longer.filled = order ++ [handle] ∧ longer.length = buffer.length + 1
  push_of_full : ∀ handle, order.length = capacity → buffer.push handle = .error ⟨handle⟩
  slots_eq : buffer.slots.toList = order ++ List.replicate (capacity - order.length) .nil

theorem holds_filled (buffer : OrderBuffer width) : buffer.Holds buffer.capacity buffer.filled where
  capacity_eq := rfl
  filled_eq := rfl
  length_eq := buffer.length_filled.symm
  length_le := by
    rw [length_filled]
    exact buffer.length_le_capacity
  isEmpty_iff := by
    rw [← List.length_eq_zero_iff, length_filled, isEmpty, beq_iff_eq]
  isFull_iff := by rw [length_filled, isFull, beq_iff_eq]
  get?_eq := buffer.get?_eq
  push_of_room := by
    intro handle room
    rw [length_filled] at room
    obtain ⟨longer, pushed⟩ := exists_push_eq_ok handle room
    obtain ⟨-, sameCapacity, appended⟩ := push_eq_ok_iff.mp pushed
    exact ⟨longer, pushed, sameCapacity, appended, length_of_push pushed⟩
  push_of_full := by
    intro handle full
    rw [length_filled] at full
    exact push_eq_error_iff.mpr ⟨full, rfl⟩
  slots_eq := by
    rw [length_filled]
    exact buffer.toList_slots

theorem capacity_run (operations : List (Operation width)) (buffer : OrderBuffer width) :
    (run operations buffer).capacity = buffer.capacity := by
  induction operations generalizing buffer with
  | nil => rfl
  | cons operation operations ih => exact (ih _).trans (operation.capacity_perform buffer)

theorem filled_run (operations : List (Operation width)) (buffer : OrderBuffer width) :
    (run operations buffer).filled = runOnList buffer.capacity operations buffer.filled := by
  induction operations generalizing buffer with
  | nil => rfl
  | cons operation operations ih =>
      have onward := ih (operation.perform buffer)
      rwa [operation.capacity_perform, operation.filled_perform] at onward

/-- Whatever is done with a buffer that was blank at first, it shows what has become of the
empty list. -/
theorem run_holds (capacity : Nat) (operations : List (Operation width)) :
    (run operations (empty capacity)).Holds capacity (runOnList capacity operations []) := by
  have holds := (run operations (empty capacity : OrderBuffer width)).holds_filled
  rwa [capacity_run, filled_run, capacity_empty, filled_empty] at holds

-- A full buffer refuses a handle; then a chain that breaks off takes the place of what it held.
example :
    (run [.push ⟨6⟩, .push .nil, .push ⟨1⟩, .push ⟨2⟩, .rebuild tangle ⟨5⟩ 3]
      (empty 3)).slots.toList = [⟨5⟩, ⟨6⟩, .nil] := by decide

end ArenaChain.OrderBuffer
