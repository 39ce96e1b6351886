import ArenaChain.Proofs.Agreement
import ArenaChain.Proofs.Outcome

/-!
# Rebuilding an intact chain

Rebuilding writes every link of a chain anew, and each gets the target that it had:
the buffer holds the chain in order, so behind each slot stands the one to which its
link already leads, and the last link already leads to the end marker.  A rebuilt
chain of named nodes is therefore the chain that it was, in a store in which
nothing else has changed either.
-/

namespace ArenaChain.Chain

variable {σ : Type} {width : Nat} [Store σ width (Node width)] {store : σ}

/-- What a rebuild leaves behind that succeeded and changed nothing. -/
structure Restores (store : σ) (head : Handle width) (count : Nat)
    (rebuilt : Rebuild σ width) : Prop where
  result : rebuilt.result = .ok head
  unchanged : ∀ handle : Handle width,
    Store.get? rebuilt.store handle = Store.get? store handle
  inOrder : ∀ limit, count ≤ limit →
    (traverse store limit head).items.map Prod.fst = rebuilt.buffer.filled
  closes : Path store head rebuilt.buffer.filled .nil
  length_eq : rebuilt.buffer.length = count
  nodup : rebuilt.buffer.filled.Nodup

theorem agree_writeLink_next {handle : Handle width} {node : Node width}
    (found : Store.get? store handle = some node) :
    Store.Agree (Store.writeLink handle (Linked.next node) store) store := by
  intro other
  rw [Store.get?_writeLink]
  split
  case isTrue same =>
    rw [same, found, Option.map_some, Node.withNext_next]
  case isFalse => rfl

theorem agree_writeLinks_of_path {head : Handle width} {order : List (Handle width)}
    (path : Path store head order .nil) : Store.Agree (writeLinks order store) store := by
  -- A path stays a path in the store with the first link written, since the stores
  -- agree; so the links behind it can be written in turn.
  induction order generalizing store head with
  | nil => exact .refl store
  | cons handle others ih =>
      obtain ⟨rfl, node, found, onward⟩ := Path.cons_iff.mp path
      have unchanged := agree_writeLink_next found
      rw [writeLinks_cons, onward.headD_eq]
      exact (ih (onward.of_agree unchanged.symm)).trans unchanged

theorem restores_of_no_fault {head : Handle width} {count : Nat} {buffer : OrderBuffer width}
    (within : count ≤ buffer.capacity)
    (sound : (record store head count buffer).fault? = none) :
    Restores store head count (rebuild head count buffer store) := by
  obtain ⟨path, length⟩ := path_of_no_fault within sound
  have ends : Store.get? store .nil = none := Store.get?_nil store
  rw [rebuild_of_no_fault within sound]
  refine
    { result := by rw [path.headD_eq]
      unchanged := agree_writeLinks_of_path path
      inOrder := ?_
      closes := path
      length_eq := length
      nodup := path.nodup_of_vacant ends }
  intro limit enough
  apply items_traverse_of_path path ends
  rwa [OrderBuffer.length_filled, length]

/-- Whether a chain of nodes can be rebuilt or not, look-up finds the same afterwards. -/
theorem agree_rebuild (head : Handle width) (count : Nat) (buffer : OrderBuffer width)
    (store : σ) : Store.Agree (rebuild head count buffer store).store store := by
  cases result : (rebuild head count buffer store).result with
  | error error =>
      rw [store_rebuild_of_error result]
      exact .refl store
  | ok newHead =>
      obtain ⟨within, sound, -⟩ := rebuild_of_ok result
      exact (restores_of_no_fault within sound).unchanged

theorem Restores.of_same {head : Handle width} {count : Nat} {first second : Rebuild σ width}
    (restored : Restores store head count first) (result : second.result = first.result)
    (buffer : second.buffer = first.buffer)
    (stores : Store.Agree second.store first.store) : Restores store head count second where
  result := result.trans restored.result
  unchanged handle := (stores handle).trans (restored.unchanged handle)
  inOrder := buffer ▸ restored.inOrder
  closes := buffer ▸ restored.closes
  length_eq := buffer ▸ restored.length_eq
  nodup := buffer ▸ restored.nodup

/-- A chain that was rebuilt keeps its head, its order and its nodes, and so does
everything else in the store, also when it is rebuilt once more. -/
theorem rebuild_restores {head newHead : Handle width} {count : Nat}
    {buffer : OrderBuffer width}
    (made : (rebuild head count buffer store).result = .ok newHead) :
    newHead = head ∧
      Restores store head count (rebuild head count buffer store) ∧
      Restores store head count
        (rebuild newHead count (rebuild head count buffer store).buffer
          (rebuild head count buffer store).store) ∧
      (rebuild newHead count (rebuild head count buffer store).buffer
          (rebuild head count buffer store).store).buffer =
        (rebuild head count buffer store).buffer := by
  obtain ⟨within, sound, rfl⟩ := rebuild_of_ok made
  have restored := restores_of_no_fault within sound
  have capacity : buffer.capacity = (rebuild newHead count buffer store).buffer.capacity := by
    rw [rebuild_of_no_fault within sound, capacity_record]
  have sameRun := rebuild_eq_of_capacity_eq newHead store within capacity
  obtain ⟨result, recorded, -, stores⟩ :=
    rebuild_of_agree restored.unchanged newHead count
      (rebuild newHead count buffer store).buffer
  rw [← sameRun] at result recorded stores
  exact ⟨rfl, restored, restored.of_same result recorded stores, recorded⟩

theorem rebuild_restores_tangle :
    (rebuild ⟨3⟩ 3 (.empty 4) tangle).result = .ok ⟨3⟩ ∧
      Restores tangle ⟨3⟩ 3 (rebuild ⟨3⟩ 3 (.empty 4) tangle) ∧
      Restores tangle ⟨3⟩ 3
        (rebuild ⟨3⟩ 3 (rebuild ⟨3⟩ 3 (.empty 4) tangle).buffer
          (rebuild ⟨3⟩ 3 (.empty 4) tangle).store) := by
  have made : (rebuild ⟨3⟩ 3 (.empty 4) tangle).result = .ok ⟨3⟩ := rfl
  have restored := rebuild_restores made
  exact ⟨made, restored.2.1, restored.2.2.1⟩

end ArenaChain.Chain
