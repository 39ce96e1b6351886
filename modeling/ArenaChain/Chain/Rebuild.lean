import ArenaChain.Chain.Connection
import ArenaChain.Chain.Event
import ArenaChain.OrderBuffer

/-!
# Rebuilding a chain through a buffer

`rebuild` records the order of a chain in a buffer and then writes every link of
the chain anew from that record.  The caller declares the number of nodes: it
bounds the recording, so that a cyclic chain is reported and not followed for
ever, and a chain that ends elsewhere is reported too.

`connectBuffer` is the second half alone: it takes the order that the caller has
put into the buffer, which must name occupied slots, each once.

In both cases every fault is found before the first link is written.
-/

namespace ArenaChain.Chain

variable {σ α : Type} {width : Nat} [Store σ width α] [Linked α width]

/-- What became of an attempt to record a chain. -/
structure Recording (width : Nat) where
  /-- Why the chain is not one of the declared number of nodes. -/
  fault? : Option (ChainError width)
  buffer : OrderBuffer width
  events : List (Event width)

/-- Record the chain from a cursor on into a buffer, where `remaining` nodes are
still expected of those that were declared.  Only when another node is expected
is the slot under the cursor looked up. -/
def recordOnward (store : σ) (declared : Nat) :
    (remaining : Nat) → Handle width → OrderBuffer width → Recording width
  | 0, cursor, buffer =>
    if cursor = .nil then ⟨none, buffer, []⟩
    else ⟨some (.runsOn declared), buffer, []⟩
  | remaining + 1, cursor, buffer =>
    if cursor = .nil then ⟨some (.endsEarly declared buffer.length), buffer, []⟩
    else
      match Store.get? store cursor with
      | none => ⟨some (.absent cursor), buffer, []⟩
      | some value =>
        let event := Event.recorded cursor buffer.length
        match buffer.push cursor with
        | .error _ => ⟨some (.overCapacity buffer.capacity declared), buffer, [event]⟩
        | .ok longer =>
          let onward := recordOnward store declared remaining (Linked.next value) longer
          { onward with events := event :: onward.events }

/-- Record a chain, which shall have the declared number of nodes, into a buffer. -/
def record (store : σ) (head : Handle width) (declared : Nat) (buffer : OrderBuffer width) :
    Recording width :=
  recordOnward store declared declared head buffer.clear

/-- What became of an attempt to make a chain by way of a buffer. -/
structure Rebuild (σ : Type) (width : Nat) where
  /-- The head of the chain. -/
  result : Except (ChainError width) (Handle width)
  store : σ
  buffer : OrderBuffer width
  events : List (Event width)

/-- Record the chain from `head`, which shall have `count` nodes, in the buffer and
write its links anew from there. -/
def rebuild (head : Handle width) (count : Nat) (buffer : OrderBuffer width) (store : σ) :
    Rebuild σ width :=
  if buffer.capacity < count then
    let error := ChainError.overCapacity buffer.capacity count
    { result := .error error
      store
      buffer
      events := [.started head count, .rejected error] }
  else
    let recording := record store head count buffer
    match recording.fault? with
    | some error =>
      { result := .error error
        store
        buffer := recording.buffer
        events := .started head count :: recording.events ++ [.rejected error] }
    | none =>
      let order := recording.buffer.filled
      let newHead := order.headD .nil
      { result := .ok newHead
        store := writeLinks order store
        buffer := recording.buffer
        events := .started head count :: recording.events ++ [.finished newHead count] }

/-- Make a chain of the order in the buffer. -/
def connectBuffer (buffer : OrderBuffer width) (store : σ) : Rebuild σ width :=
  match connect buffer.filled store with
  | (.error error, store) => ⟨.error error, store, buffer, []⟩
  | (.ok head, store) => ⟨.ok head, store, buffer, [.connected head buffer.length]⟩

theorem capacity_recordOnward (store : σ) (declared remaining : Nat) (cursor : Handle width)
    (buffer : OrderBuffer width) :
    (recordOnward store declared remaining cursor buffer).buffer.capacity =
      buffer.capacity := by
  induction remaining generalizing cursor buffer with
  | zero =>
      unfold recordOnward
      split <;> rfl
  | succ remaining ih =>
      unfold recordOnward
      split
      · rfl
      · split
        · rfl
        · split
          case h_1 => rfl
          case h_2 longer pushed =>
            exact (ih _ longer).trans (OrderBuffer.push_eq_ok_iff.mp pushed).2.1

@[simp]
theorem capacity_record (store : σ) (head : Handle width) (declared : Nat)
    (buffer : OrderBuffer width) :
    (record store head declared buffer).buffer.capacity = buffer.capacity :=
  (capacity_recordOnward store declared declared head buffer.clear).trans
    (OrderBuffer.capacity_clear buffer)

/-- Too small a buffer is noticed before anything else. -/
theorem rebuild_of_capacity_lt {count : Nat} {buffer : OrderBuffer width}
    (beyond : buffer.capacity < count) (head : Handle width) (store : σ) :
    rebuild head count buffer store =
      ⟨.error (.overCapacity buffer.capacity count), store, buffer,
        [.started head count, .rejected (.overCapacity buffer.capacity count)]⟩ := by
  simp [rebuild, beyond]

theorem rebuild_of_fault {head : Handle width} {count : Nat} {buffer : OrderBuffer width}
    {store : σ} {error : ChainError width} (within : count ≤ buffer.capacity)
    (fault : (record store head count buffer).fault? = some error) :
    rebuild head count buffer store =
      ⟨.error error, store, (record store head count buffer).buffer,
        .started head count :: (record store head count buffer).events ++
          [.rejected error]⟩ := by
  simp [rebuild, Nat.not_lt.mpr within, fault]

theorem rebuild_of_no_fault {head : Handle width} {count : Nat} {buffer : OrderBuffer width}
    {store : σ} (within : count ≤ buffer.capacity)
    (sound : (record store head count buffer).fault? = none) :
    rebuild head count buffer store =
      ⟨.ok ((record store head count buffer).buffer.filled.headD .nil),
        writeLinks (record store head count buffer).buffer.filled store,
        (record store head count buffer).buffer,
        .started head count :: (record store head count buffer).events ++
          [.finished ((record store head count buffer).buffer.filled.headD .nil) count]⟩ := by
  simp [rebuild, Nat.not_lt.mpr within, sound]

theorem buffer_rebuild {count : Nat} {buffer : OrderBuffer width}
    (within : count ≤ buffer.capacity) (head : Handle width) (store : σ) :
    (rebuild head count buffer store).buffer = (record store head count buffer).buffer := by
  cases fault : (record store head count buffer).fault? with
  | some error => rw [rebuild_of_fault within fault]
  | none => rw [rebuild_of_no_fault within fault]

theorem capacity_rebuild (head : Handle width) (count : Nat) (buffer : OrderBuffer width)
    (store : σ) : (rebuild head count buffer store).buffer.capacity = buffer.capacity := by
  rcases Nat.lt_or_ge buffer.capacity count with beyond | within
  · rw [rebuild_of_capacity_lt beyond]
  · rw [buffer_rebuild within, capacity_record]

/-- A chain that cannot be rebuilt is left as it was. -/
theorem store_rebuild_of_error {head : Handle width} {count : Nat}
    {buffer : OrderBuffer width} {store : σ} {error : ChainError width}
    (rejected : (rebuild head count buffer store).result = .error error) :
    (rebuild head count buffer store).store = store := by
  rcases Nat.lt_or_ge buffer.capacity count with beyond | within
  · rw [rebuild_of_capacity_lt beyond]
  · cases fault : (record store head count buffer).fault? with
    | some found => rw [rebuild_of_fault within fault]
    | none =>
        rw [rebuild_of_no_fault within fault] at rejected
        cases rejected

theorem result_connectBuffer (buffer : OrderBuffer width) (store : σ) :
    (connectBuffer buffer store).result = (connect buffer.filled store).1 := by
  unfold connectBuffer
  split
  case h_1 linked => rw [linked]
  case h_2 linked => rw [linked]

theorem store_connectBuffer (buffer : OrderBuffer width) (store : σ) :
    (connectBuffer buffer store).store = (connect buffer.filled store).2 := by
  unfold connectBuffer
  split
  case h_1 linked => rw [linked]
  case h_2 linked => rw [linked]

@[simp]
theorem buffer_connectBuffer (buffer : OrderBuffer width) (store : σ) :
    (connectBuffer buffer store).buffer = buffer := by
  unfold connectBuffer
  split <;> rfl

end ArenaChain.Chain
