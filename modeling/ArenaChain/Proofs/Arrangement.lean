import ArenaChain.Proofs.Connectable
import ArenaChain.Proofs.Cursor

/-!
# Arranging slots into a chain

Whatever links its slots had before, an order that names occupied slots, each once,
becomes a chain in exactly that order when its links are written (`path_writeLinks`).
A cursor and a rebuild then read the order back, so that connecting and traversing
are inverse to each other.
-/

namespace ArenaChain.Chain

section Links

variable {σ α : Type} {width : Nat} [Store σ width α] [Linked α width]
variable {store : σ} {order : List (Handle width)}

/-- Of the values only what writing a link leaves alone is sure to stay. -/
theorem map_get?_writeLinks {β : Type} {payload : α → β}
    (kept : ∀ target value, payload (Linked.withNext target value) = payload value)
    (order : List (Handle width)) (store : σ) (handle : Handle width) :
    (Store.get? (writeLinks order store) handle).map payload =
      (Store.get? store handle).map payload := by
  apply view_writeLinks fun store => (Store.get? store handle).map payload
  intro written _ target store
  rw [Store.get?_writeLink]
  split
  · simp [Function.comp_def, kept]
  · rfl

theorem path_writeLinks (sound : Connectable store order) :
    Path (writeLinks order store) (order.headD .nil) order .nil := by
  induction order generalizing store with
  | nil => exact .stay .nil
  | cons handle others ih =>
      obtain ⟨value, found⟩ := Store.contains_iff.mp (sound.occupied handle List.mem_cons_self)
      -- The first link is written before the others, and stays: its slot is not named again.
      have outside := (List.nodup_cons.mp sound.nodup).1
      have written : Store.get? (writeLinks (handle :: others) store) handle =
          some (Linked.withNext (others.headD .nil) value) := by
        rw [writeLinks_cons, get?_writeLinks_of_not_mem outside, Store.get?_writeLink, if_pos rfl,
          found]
        rfl
      refine .follow written ?_
      rw [Linked.next_withNext, writeLinks_cons]
      exact ih (sound.tail.of_contains_eq fun other => by simp)

/-- From each of its slots on, the rest of an order is a chain as well. -/
theorem path_writeLinks_of_append {front back : List (Handle width)}
    (sound : Connectable store (front ++ back)) :
    Path (writeLinks (front ++ back) store) (back.headD .nil) back .nil := by
  obtain ⟨middle, -, onward⟩ := Path.append_iff.mp (path_writeLinks sound)
  rwa [onward.headD_eq]

end Links

section Nodes

variable {σ : Type} {width : Nat} [Store σ width (Node width)]
variable {store : σ} {order : List (Handle width)}

/-- A store in which the slots of an order were made a chain, and the head of that
chain. -/
structure Arranges (before : σ) (order : List (Handle width))
    (result : Except (ChainError width) (Handle width)) (after : σ) : Prop where
  result_eq : result = .ok (order.headD .nil)
  /-- The items of the chain, with the names that they had before. -/
  inOrder : ∃ items, items.map Prod.fst = order ∧
    (∀ item ∈ items, (Store.get? before item.1).map Node.name = some item.2.name) ∧
      Closes after (order.headD .nil) items
  outside : ∀ handle ∉ order, Store.get? after handle = Store.get? before handle
  names : ∀ handle : Handle width,
    (Store.get? after handle).map Node.name = (Store.get? before handle).map Node.name
  rebuilds : ∀ buffer : OrderBuffer width, order.length ≤ buffer.capacity →
    (rebuild (order.headD .nil) order.length buffer after).result = .ok (order.headD .nil) ∧
      (rebuild (order.headD .nil) order.length buffer after).buffer.filled = order

theorem name_writeLinks (order : List (Handle width)) (store : σ) (handle : Handle width) :
    (Store.get? (writeLinks order store) handle).map Node.name =
      (Store.get? store handle).map Node.name :=
  map_get?_writeLinks Node.name_withNext order store handle

theorem arranges_writeLinks (sound : Connectable store order) :
    Arranges store order (.ok (order.headD .nil)) (writeLinks order store) := by
  have path := path_writeLinks sound
  obtain ⟨items, handles, closes⟩ := path.exists_closes
  refine
    { result_eq := rfl
      inOrder := ⟨items, handles, ?_, closes⟩
      outside := fun handle outside => get?_writeLinks_of_not_mem outside store
      names := name_writeLinks order store
      rebuilds := fun buffer within => rebuild_of_path path within }
  intro item member
  rw [← name_writeLinks order, closes.yields.get?_of_mem member, Option.map_some]

/-- Connecting and traversing are inverse: an order that names occupied slots, each
once, is what a cursor passes and what a rebuild records from the head on that
connecting the order returns.  Nothing else about the store changes. -/
theorem connect_arranges (sound : Connectable store order) :
    Arranges store order (connect order store).1 (connect order store).2 ∧
      ∀ buffer : OrderBuffer width, buffer.filled = order →
        Arranges store order (connectBuffer buffer store).result
          (connectBuffer buffer store).store := by
  have arranges : Arranges store order (connect order store).1 (connect order store).2 := by
    rw [sound.connect_eq]
    exact arranges_writeLinks sound
  refine ⟨arranges, ?_⟩
  rintro buffer rfl
  rwa [result_connectBuffer, store_connectBuffer]

/-- The chains of `tangle` are taken apart: what was a circle, a chain that breaks off
and the middle of a chain becomes one chain. -/
theorem connect_arranges_tangle :
    (Connectable tangle [⟨6⟩, ⟨4⟩, ⟨1⟩] ∧
      Arranges tangle [⟨6⟩, ⟨4⟩, ⟨1⟩] (.ok ⟨6⟩) (connect [⟨6⟩, ⟨4⟩, ⟨1⟩] tangle).2) ∧
      ∃ buffer : OrderBuffer 8, buffer.filled = [⟨3⟩, ⟨1⟩, ⟨2⟩] ∧
        Arranges tangle [⟨3⟩, ⟨1⟩, ⟨2⟩] (connectBuffer buffer tangle).result
          (connectBuffer buffer tangle).store := by
  have sound : Connectable tangle [⟨6⟩, ⟨4⟩, ⟨1⟩] := connectable_iff.mpr rfl
  have recorded : Connectable tangle [⟨3⟩, ⟨1⟩, ⟨2⟩] := connectable_iff.mpr rfl
  exact ⟨⟨sound, (connect_arranges sound).1⟩,
    (record tangle ⟨3⟩ 3 (.empty 4)).buffer, rfl, (connect_arranges recorded).2 _ rfl⟩

end Nodes

end ArenaChain.Chain
