import ArenaChain.Proofs.Agreement
import ArenaChain.Proofs.SessionCorrespondence
import ArenaChain.Store.Arena
import ArenaChain.Store.Pool

/-!
# A recycling store in the place of an arena

An arena follows rules of its own.  It compares a handle with the end marker before it looks
anything up, and counts its slots against its capacity before it takes anything in.  A store
that takes slots again need not do either.

While a session gives up slots only all at once, and the arena has room for all that comes in,
no slot of such a store is ever taken again.  So both fill the same slots with the same values
(`Beside`), and the session cannot tell which of them it works on.
-/

namespace ArenaChain

open Session

variable {α : Type} {width : Nat}

namespace Session

/-- The number of slots in use after a command for which there is room. -/
def Command.inUse (used : Nat) : Command width α → Nat
  | .insert _ => used + 1
  | .assemble values => used + values.length
  | .clear => 0
  | _ => used

/-- No command brings in more values than there is room for. -/
def Fits (capacity : Nat) : (used : Nat) → List (Command width α) → Prop
  | _, [] => True
  | used, command :: commands =>
    command.inUse used ≤ capacity ∧ Fits capacity (command.inUse used) commands

instance Fits.decidable (capacity : Nat) :
    (used : Nat) → (commands : List (Command width α)) → Decidable (Fits capacity used commands)
  | _, [] => inferInstanceAs (Decidable True)
  | used, command :: commands =>
    have := decidable capacity (command.inUse used) commands
    inferInstanceAs (Decidable (_ ∧ _))

end Session

/-! ## Stores -/

variable {σ : Type} [RecyclingStore σ width α]

/-- The slots of a store are those that an arena of this capacity has in use, this many, and
since the store was blank none was given up. -/
structure Beside (capacity used : Nat) (arena : Arena width α) (store : σ) : Prop where
  capacity_eq : arena.capacity = capacity
  size_eq : arena.size = used
  since : Since Blank store ⟨[], used⟩
  agree : Store.Agree arena store

namespace Beside

variable {capacity used : Nat} {arena : Arena width α} {store : σ}

theorem of_blank (made : Arena.ofCapacity capacity = .ok arena)
    (blank : Blank store) : Beside capacity 0 arena store := by
  obtain ⟨noSlots, capacity_eq⟩ := Arena.of_ofCapacity made
  refine ⟨capacity_eq, ?_, .outset blank, fun handle => ?_⟩
  · rw [Arena.size, noSlots, Array.size_empty]
  · rw [blank.get?_eq_none, Arena.vacant_of_ofCapacity made]

theorem writeLink [Linked α width] (beside : Beside capacity used arena store)
    (handle target : Handle width) :
    Beside capacity used (Store.writeLink handle target arena)
      (Store.writeLink handle target store) where
  capacity_eq := (Arena.capacity_modify _ handle arena).trans beside.capacity_eq
  size_eq := (Arena.size_modify _ handle arena).trans beside.size_eq
  since := beside.since.modify _ handle
  agree other := by rw [Store.get?_writeLink, Store.get?_writeLink, beside.agree other]

theorem clear (beside : Beside capacity used arena store) :
    Beside capacity 0 (Store.clear arena) (Store.clear store) where
  capacity_eq := beside.capacity_eq
  size_eq := rfl
  since := .outset (.cleared store)
  agree other := by rw [Store.get?_clear, Store.get?_clear]

/-- While the arena has room, both put a value into the same slot. -/
theorem insert (beside : Beside capacity used arena store) (room : used < capacity) (value : α) :
    ∃ handle grown otherGrown, Store.insert value arena = .ok (handle, grown) ∧
      Store.insert value store = .ok (handle, otherGrown) ∧
        Beside capacity (used + 1) grown otherGrown := by
  have sameCapacity := beside.capacity_eq
  have sameSize := beside.size_eq
  cases inserted : arena.insert value with
  | error overflow =>
      have full := (Arena.insert_eq_error_iff.mp inserted).1
      omega
  | ok made =>
      obtain ⟨handle, grown⟩ := made
      obtain ⟨-, atEnd, slots, capacityKept⟩ := Arena.insert_eq_ok_iff.mp inserted
      have named : handle ≠ .nil := by
        have reach := arena.capacity_le
        rw [Handle.ne_nil_iff]
        omega
      have next : handle.toNat = used := atEnd.trans sameSize
      obtain ⟨otherGrown, otherInserted⟩ :=
        RecyclingStore.insert_of_reach value beside.since rfl named next
      refine ⟨handle, grown, otherGrown, inserted, otherInserted,
        capacityKept.trans sameCapacity, ?_, ?_, fun other => ?_⟩
      · rw [Arena.size, slots, Array.size_push]
        exact congrArg (· + 1) sameSize
      · have taken := beside.since.insert otherInserted
        rwa [History.take_of_reach rfl next] at taken
      · rw [Store.get?_insert _ _ _ _ inserted, Store.get?_insert _ _ _ _ otherInserted,
          beside.agree other]

theorem insertAll (beside : Beside capacity used arena store) (values : List α)
    (room : used + values.length ≤ capacity) :
    ∃ order grown otherGrown, Store.insertAll values arena = (.ok order, grown) ∧
      Store.insertAll values store = (.ok order, otherGrown) ∧
        Beside capacity (used + values.length) grown otherGrown := by
  induction values generalizing arena store used with
  | nil => exact ⟨[], arena, store, rfl, rfl, beside⟩
  | cons value values ih =>
      rw [List.length_cons] at room
      obtain ⟨handle, longer, otherLonger, inserted, otherInserted, longerBeside⟩ :=
        beside.insert (by omega) value
      obtain ⟨order, grown, otherGrown, all, otherAll, grownBeside⟩ :=
        ih longerBeside (by omega)
      refine ⟨handle :: order, grown, otherGrown, ?_, ?_, ?_⟩
      · simp only [Store.insertAll, inserted, all]
      · simp only [Store.insertAll, otherInserted, otherAll]
      · rwa [List.length_cons, Nat.add_comm values.length 1, ← Nat.add_assoc]

end Beside

/-! ## Sessions -/

namespace Correspondence

variable [Linked α width]

namespace identical

theorem eq_of_replies {reply other : Reply width α}
    (replies : identical.Replies reply other) : reply = other := by
  have same : reply.map id id = other :=
    translates.reply (fun _ _ sameValue => sameValue) replies
  rwa [Reply.map_id] at same

theorem commands (command : Command width α) : identical.Commands command command := by
  cases command with
  | insert value => exact .insert rfl
  | assemble values => exact .assemble (List.forall₂_same.mpr fun _ _ => rfl)
  | clear => exact .clear
  | lookUp handle => exact .lookUp rfl
  | contains handle => exact .contains rfl
  | writeLink handle target => exact .writeLink rfl rfl
  | traverse head limit => exact .traverse rfl limit
  | connect order => exact .connect (orders order)
  | rebuild head count => exact .rebuild rfl count
  | connectBuffer => exact .connectBuffer
  | newBuffer capacity => exact .newBuffer capacity
  | push handle => exact .push rfl
  | clearBuffer => exact .clearBuffer
  | bufferAt position => exact .bufferAt position
  | setBufferAt position handle => exact .setBufferAt position rfl
  | reverseBuffer => exact .reverseBuffer
  | rotateBuffer distance => exact .rotateBuffer distance

end identical

end Correspondence

namespace Session

open Correspondence

variable [Linked α width] {capacity used : Nat}

/-- What a step on an arena and a step on another store have in common. -/
structure SameStep (onArena : Step (Arena width α) width α) (onStore : Step σ width α) : Prop where
  reply_eq : onStore.reply = onArena.reply
  events_eq : onStore.events = onArena.events
  buffer_eq : onStore.session.buffer = onArena.session.buffer
  head_eq : onStore.session.head = onArena.session.head
  /-- The same slots are occupied, with the same values. -/
  agree : Store.Agree onArena.session.store onStore.session.store

theorem simulation_beside :
    (identical (α := α)).Simulation
      (Beside capacity used : Arena width α → σ → Prop) where
  lookUp beside := Store.agree_iff_stores.mp beside.agree
  writeLink := by
    rintro arena store handle target _ _ beside rfl rfl
    exact beside.writeLink handle target

theorem supplies_insertAll {arena : Arena width α} {store : σ}
    (beside : Beside capacity used arena store) (values : List α)
    (room : used + values.length ≤ capacity) :
    identical.Supplies (Beside capacity (used + values.length)) (Store.insertAll values arena)
      (Store.insertAll values store) := by
  obtain ⟨order, grown, otherGrown, inserted, otherInserted, grownBeside⟩ :=
    beside.insertAll values room
  rw [inserted, otherInserted]
  exact ⟨.ok (identical.orders order), grownBeside⟩

/-- Every command for which there is room puts its values into the same slots. -/
theorem supplies_supply {arena : Arena width α} {store : σ}
    (beside : Beside capacity used arena store) (command : Command width α)
    (room : command.inUse used ≤ capacity) :
    identical.Supplies (Beside capacity (command.inUse used)) (command.supply arena)
      (command.supply store) := by
  cases command with
  | insert value => exact supplies_insertAll beside [value] room
  | assemble values => exact supplies_insertAll beside values room
  | clear => exact ⟨.ok .nil, beside.clear⟩
  | _ => exact ⟨.ok .nil, beside⟩

theorem sameStep_of_steps {onArena : Step (Arena width α) width α} {onStore : Step σ width α}
    (steps : identical.Steps (Beside capacity used) onArena onStore) :
    SameStep onArena onStore where
  reply_eq := (identical.eq_of_replies steps.reply).symm
  events_eq := (identical.eq_of_events steps.events).symm
  buffer_eq := (identical.eq_of_buffers steps.session.buffer).symm
  head_eq := Eq.symm steps.session.head
  agree := steps.session.store.agree

theorem sameSteps_trace {commands : List (Command width α)}
    {onArena : Session (Arena width α) width} {onStore : Session σ width}
    (fits : Fits capacity used commands)
    (sessions : (identical (α := α)).Sessions (Beside capacity used) onArena onStore) :
    List.Forall₂ SameStep (trace commands onArena) (trace commands onStore) := by
  induction commands generalizing used onArena onStore with
  | nil => exact .nil
  | cons command commands ih =>
      obtain ⟨room, onward⟩ := fits
      have steps := simulation_beside.step sessions (identical.commands command)
        (supplies_supply sessions.store command room)
      exact .cons (sameStep_of_steps steps) (ih onward steps.session)

/-- A session that never brings in more values than an arena has room for goes the same way on
any store that takes slots again, if that was empty at first. -/
theorem store_replaces_arena {arena : Arena width α}
    (made : Arena.ofCapacity capacity = .ok arena) (bufferCapacity : Nat)
    {commands : List (Command width α)} (fits : Fits capacity 0 commands) :
    List.Forall₂ SameStep (trace commands (start arena bufferCapacity))
      (trace commands (start (RemovalStore.empty : σ) bufferCapacity)) :=
  sameSteps_trace fits ⟨.of_blank made .empty, .empty bufferCapacity, rfl⟩

/-- Three slots are filled, given up and filled again, in an arena and in a pool. -/
theorem store_replaces_arena_small :
    let arena : Arena 64 (Node 64) := ⟨#[], 3, by decide, by decide, by decide⟩
    let commands : List (Command 64 (Node 64)) :=
      [.assemble [.ofName "a", .ofName "b"], .insert ⟨"c", ⟨0⟩⟩, .writeLink ⟨1⟩ ⟨2⟩,
        .traverse ⟨0⟩ 5, .rebuild ⟨2⟩ 3, .rebuild ⟨0⟩ 2, .lookUp .nil, .contains ⟨3⟩, .clear,
        .traverse ⟨0⟩ 5, .assemble [.ofName "d", .ofName "e", .ofName "f"], .rebuild ⟨0⟩ 3,
        .reverseBuffer, .connectBuffer, .connect [⟨1⟩, .nil], .connect [⟨1⟩, ⟨2⟩, ⟨1⟩]]
    (Arena.ofCapacity 3 = .ok arena ∧ Fits 3 0 commands) ∧
      List.Forall₂ SameStep (trace commands (start arena 4))
        (trace commands (start (Pool.empty : Pool 64 (Node 64)) 4)) := by
  intro arena commands
  have made : Arena.ofCapacity 3 = .ok arena := rfl
  have fits : Fits 3 0 commands := by decide
  exact ⟨⟨made, fits⟩, store_replaces_arena made 4 fits⟩

end Session

end ArenaChain
