import ArenaChain.Proofs.Watched

/-!
# Failed attempts at linking

Every fault is found before the first link is written.  An attempt that fails
therefore leaves the store as it was, and not even a link that would have got the
target that it had was written: no slot was handed out for writing at all.

What is left of the buffer depends on the fault: too small a buffer is left alone,
and otherwise it holds the nodes that were reached.
-/

namespace ArenaChain.Chain

variable {σ α : Type} {width : Nat} [Store σ width α] [Linked α width]
variable {store : σ} {head : Handle width} {count : Nat} {buffer : OrderBuffer width}

theorem store_connect_of_error {order : List (Handle width)} {error : ChainError width}
    (rejected : (connect order store).1 = .error error) : (connect order store).2 = store := by
  cases fault : orderFault? store [] order with
  | some found => rw [connect_of_fault fault]
  | none =>
      rw [connect_of_no_fault fault] at rejected
      cases rejected

/-- What may be left of a buffer in which a chain of so many nodes was to be
recorded. -/
structure Leftover (store : σ) (count : Nat) (before after : OrderBuffer width) : Prop where
  capacity_eq : after.capacity = before.capacity
  length_le : after.length ≤ count
  occupied : ∀ handle ∈ after.filled, Store.contains store handle = true
  blank : ∀ position, after.length ≤ position → position < after.capacity →
    after.slots[position]? = some .nil

theorem leftover_record (within : count ≤ buffer.capacity) :
    Leftover store count buffer (record store head count buffer).buffer := by
  obtain ⟨passed, target, stretch⟩ := exists_stretch store count head
  obtain ⟨-, filled, -⟩ := record_of_stretch stretch within
  refine ⟨capacity_record store head count buffer, ?_, ?_, ?_⟩
  · rw [← OrderBuffer.length_filled, filled]
    exact stretch.length_le
  · intro handle member
    rw [filled] at member
    exact Store.contains_iff.mpr (stretch.path.occupied_of_mem member)
  · intro position unfilled inBounds
    have present := Array.getElem?_eq_getElem inBounds
    rw [present, OrderBuffer.eq_nil_of_unfilled _ position _ unfilled present]

/-- An attempt that fails writes no link, and of the buffer only a chain that was to
be rebuilt leaves a trace. -/
theorem failure_changes_nothing (head : Handle width) (count : Nat)
    (buffer : OrderBuffer width) (order : List (Handle width)) (store : σ) :
    (∀ error, (rebuild head count buffer store).result = .error error →
        (rebuild head count buffer store).store = store ∧
          (rebuild head count buffer (Watched.start store)).store = Watched.start store) ∧
      (∀ error, (connectBuffer buffer store).result = .error error →
        (connectBuffer buffer store).store = store ∧
          (connectBuffer buffer (Watched.start store)).store = Watched.start store) ∧
      (∀ error, (connect order store).1 = .error error →
        (connect order store).2 = store ∧
          (connect order (Watched.start store)).2 = Watched.start store) ∧
      (connectBuffer buffer store).buffer = buffer ∧
      (∀ capacity required,
        (rebuild head count buffer store).result = .error (.overCapacity capacity required) →
          (rebuild head count buffer store).buffer = buffer) ∧
      (∀ error, (rebuild head count buffer store).result = .error error →
        (∀ capacity required, error ≠ .overCapacity capacity required) →
          Leftover store count buffer (rebuild head count buffer store).buffer) := by
  -- The watched attempt fails as well, so `Watched.start store` is left alone as any
  -- other store is, and its account with it.
  have watching : Store.Agree (Watched.start store) store := Watched.agree_store _
  refine ⟨?_, ?_, ?_, buffer_connectBuffer buffer store, ?_, ?_⟩
  · intro error rejected
    have watched := (rebuild_of_agree watching head count buffer).1.trans rejected
    exact ⟨store_rebuild_of_error rejected, store_rebuild_of_error watched⟩
  · intro error rejected
    rw [result_connectBuffer] at rejected
    have watched := (connect_fst_eq_of_agree watching buffer.filled).trans rejected
    rw [store_connectBuffer, store_connectBuffer]
    exact ⟨store_connect_of_error rejected, store_connect_of_error watched⟩
  · intro error rejected
    have watched := (connect_fst_eq_of_agree watching order).trans rejected
    exact ⟨store_connect_of_error rejected, store_connect_of_error watched⟩
  · intro capacity required rejected
    rw [rebuild_of_capacity_lt (capacity_lt_of_overCapacity rejected)]
  · intro error rejected other
    rcases Nat.lt_or_ge buffer.capacity count with beyond | within
    · rw [rebuild_of_capacity_lt beyond, Except.error.injEq] at rejected
      exact absurd rejected.symm (other _ _)
    · cases fault : (record store head count buffer).fault? with
      | some found =>
          rw [rebuild_of_fault within fault]
          exact leftover_record within
      | none =>
          rw [rebuild_of_no_fault within fault] at rejected
          cases rejected

theorem failure_changes_nothing_tangle :
    let buffer := (rebuild ⟨4⟩ 3 (.empty 4) tangle).buffer
    ((rebuild ⟨5⟩ 3 buffer tangle).result = .error (.absent ⟨9⟩) ∧
        (rebuild ⟨5⟩ 3 buffer tangle).store = tangle ∧
        Leftover tangle 3 buffer (rebuild ⟨5⟩ 3 buffer tangle).buffer) ∧
      ((connectBuffer buffer tangle).result = .error (.repeated ⟨4⟩) ∧
        (connectBuffer buffer tangle).store = tangle) ∧
      ((connect [⟨6⟩, ⟨9⟩] tangle).1 = .error (.absent ⟨9⟩) ∧
        (connect [⟨6⟩, ⟨9⟩] tangle).2 = tangle) ∧
      (rebuild ⟨5⟩ 5 buffer tangle).result = .error (.overCapacity 4 5) ∧
        (rebuild ⟨5⟩ 5 buffer tangle).buffer = buffer := by
  intro buffer
  have short := failure_changes_nothing ⟨5⟩ 3 buffer [⟨6⟩, ⟨9⟩] tangle
  have long := failure_changes_nothing ⟨5⟩ 5 buffer [⟨6⟩, ⟨9⟩] tangle
  refine ⟨⟨rfl, ?_, ?_⟩, ⟨rfl, ?_⟩, ⟨rfl, ?_⟩, rfl, ?_⟩
  · exact (short.1 _ rfl).1
  · exact short.2.2.2.2.2 (.absent ⟨9⟩) rfl (by simp)
  · exact (short.2.1 _ rfl).1
  · exact (short.2.2.1 _ rfl).1
  · exact long.2.2.2.2.1 4 5 rfl

end ArenaChain.Chain
