import ArenaChain.Proofs.Agreement
import ArenaChain.Store.Arena
import ArenaChain.Store.Pool

/-!
# What look-up does not tell of a store

Look-up tells which slots of a store are occupied and by what.  It does not tell the
capacity of an arena, nor which vacant slot of a pool is the next one to be taken.  This
rest is the frame of a store.  Writing a link touches no frame, so stores that came of one
store by writing links and that agree are equal (`Framed.eq_of_agree`).
-/

namespace ArenaChain

/-- Stores that are made up of what look-up finds and of a frame, which stays as it is when
a value is changed. -/
class Framed (σ : Type) {width : outParam Nat} {α : outParam Type} [Store σ width α] where
  Frame : Type
  frame : σ → Frame
  frame_modify : ∀ (change : α → α) (handle : Handle width) (store : σ),
    frame (Store.modify change handle store) = frame store
  eq_of_agree : ∀ first second : σ, frame first = frame second →
    Store.Agree first second → first = second

variable {α : Type} {width : Nat}

/-- The frame of an arena is its capacity. -/
instance : Framed (Arena width α) where
  Frame := Nat
  frame := Arena.capacity
  frame_modify := Arena.capacity_modify
  eq_of_agree first second sameFrame agree := by
    refine Arena.ext (Array.ext_getElem? fun slot => ?_) sameFrame
    rcases Nat.lt_or_ge (Handle.slotLimit width) slot with beyond | within
    · have firstSize := first.size_le_slotLimit
      have secondSize := second.size_le_slotLimit
      unfold Arena.size at firstSize secondSize
      rw [Array.getElem?_eq_none (by omega), Array.getElem?_eq_none (by omega)]
    · obtain ⟨handle, rfl⟩ := Handle.exists_toNat_eq within
      rw [← Arena.get?_eq, ← Arena.get?_eq]
      exact agree handle

/-- The frame of a pool is the number of its slots, with the line of the vacant ones. -/
instance : Framed (Pool width α) where
  Frame := Nat × List (Handle width)
  frame pool := (pool.slots.size, pool.vacant)
  frame_modify change handle pool := by
    change ((pool.modify change handle).slots.size, pool.vacant) = (pool.slots.size, pool.vacant)
    simp [Pool.modify]
  eq_of_agree first second sameFrame agree := by
    obtain ⟨sameSize, sameLine⟩ := Prod.mk.inj sameFrame
    refine Pool.ext (Array.ext sameSize fun slot firstBound secondBound => ?_) sameLine
    have within : slot ≤ Handle.slotLimit width :=
      Nat.le_trans (Nat.le_of_lt firstBound) first.size_le
    obtain ⟨handle, rfl⟩ := Handle.exists_toNat_eq within
    have same : first.get? handle = second.get? handle := agree handle
    unfold Pool.get? at same
    rwa [Array.getElem?_eq_getElem firstBound, Array.getElem?_eq_getElem secondBound] at same

namespace Framed

open Chain

variable {σ : Type} [Store σ width α] [Framed σ] [Linked α width]

theorem frame_writeLinks (order : List (Handle width)) (store : σ) :
    frame (writeLinks order store) = frame store :=
  view_writeLinks frame (fun handle _ target => frame_modify (Linked.withNext target) handle) store

theorem frame_rebuild (head : Handle width) (count : Nat) (buffer : OrderBuffer width)
    (store : σ) : frame (rebuild head count buffer store).store = frame store := by
  rcases Nat.lt_or_ge buffer.capacity count with beyond | within
  · rw [rebuild_of_capacity_lt beyond]
  · cases fault : (record store head count buffer).fault? with
    | some error => rw [rebuild_of_fault within fault]
    | none =>
        rw [rebuild_of_no_fault within fault]
        exact frame_writeLinks _ store

end Framed

theorem Arena.size_writeLinks [Linked α width] (order : List (Handle width))
    (arena : Arena width α) : (Chain.writeLinks order arena).size = arena.size :=
  Chain.view_writeLinks size
    (fun handle _ target => size_modify (Linked.withNext target) handle) arena

end ArenaChain
