import ArenaChain.Proofs.Arrangement
import ArenaChain.Proofs.Frame
import ArenaChain.Proofs.Identity
import ArenaChain.Proofs.Successor

/-!
# Putting a chain into another order

A chain is put into another order by way of the buffer: it is rebuilt, the handles in the
buffer change places, and the buffer is connected.  A chain that closes passes occupied
slots, each once, and so does every order that its handles can be put into; hence connecting
succeeds, and no node is lost or visited twice.

Connecting the old order again restores every link, that of the last node included: the old
chain closed there, and so does the new one.
-/

namespace ArenaChain.Chain

variable {σ : Type} {width : Nat} [Store σ width (Node width)]
variable {store : σ} {head : Handle width} {passed order : List (Handle width)}

theorem Connectable.of_perm (sound : Connectable store passed) (permuted : order.Perm passed) :
    Connectable store order where
  occupied handle member := sound.occupied handle (permuted.mem_iff.mp member)
  nodup := permuted.nodup_iff.mpr sound.nodup

/-- What is told of an item without its link: its slot and its name. -/
def labelled (item : Handle width × Node width) : Handle width × String :=
  (item.1, item.2.name)

theorem Closes.map_labelled {items : List (Handle width × Node width)}
    (closes : Closes store head items) :
    items.map labelled = (items.map Prod.fst).map fun handle =>
      (handle, ((Store.get? store handle).map Node.name).getD "") := by
  rw [List.map_map]
  apply List.map_congr_left
  intro item member
  have found := closes.yields.get?_of_mem member
  simp [labelled, found]

/-- Writing the links of a chain over those of another order of its slots restores the
chain, and no other link was changed. -/
theorem agree_writeLinks_of_perm (path : Path store head passed .nil)
    (permuted : order.Perm passed) :
    Store.Agree (writeLinks passed (writeLinks order store)) store := by
  have nodup := path.nodup_of_vacant (Store.get?_nil store)
  have nodupToo := permuted.nodup_iff.mpr nodup
  intro handle
  rw [get?_writeLinks nodup, get?_writeLinks nodupToo]
  by_cases member : handle ∈ passed
  · obtain ⟨node, found⟩ := path.occupied_of_mem member
    have link := path.next_eq_successor member found
    rw [if_pos member, if_pos (permuted.mem_iff.mpr member), found, ← link]
    rfl
  · rw [if_neg member, if_neg fun listed => member (permuted.mem_iff.mp listed)]

theorem inOrder_of_path (path : Path store head passed .nil) (permuted : order.Perm passed) :
    ∃ items others : List (Handle width × Node width),
      Closes store head items ∧ Closes (writeLinks order store) (order.headD .nil) others ∧
        others.map Prod.fst = order ∧ (others.map labelled).Perm (items.map labelled) := by
  have sound := (path.connectable (Store.get?_nil store)).of_perm permuted
  obtain ⟨items, rfl, closes⟩ := path.exists_closes
  obtain ⟨others, rfl, closesToo⟩ := (path_writeLinks sound).exists_closes
  refine ⟨items, others, closes, closesToo, rfl, ?_⟩
  rw [closes.map_labelled, closesToo.map_labelled]
  simp only [name_writeLinks]
  exact permuted.map _

variable [Framed σ] {count : Nat} {buffer : OrderBuffer width}

theorem store_rebuild (head : Handle width) (count : Nat) (buffer : OrderBuffer width)
    (store : σ) : (rebuild head count buffer store).store = store :=
  Framed.eq_of_agree _ _ (Framed.frame_rebuild head count buffer store)
    (agree_rebuild head count buffer store)

/-- What comes of a chain of so many nodes that was rebuilt, if its handles are written into
the buffer in another order and the buffer is connected. -/
structure Reorders (store : σ) (head : Handle width) (count : Nat)
    (rebuilt : Rebuild σ width) (order : List (Handle width)) (arranged : Rebuild σ width) :
    Prop where
  result_eq : arranged.result = .ok (order.headD .nil)
  filled_eq : arranged.buffer.filled = order
  length_eq : order.length = count
  nodup : order.Nodup
  /-- The nodes are those that the chain had, with their names. -/
  inOrder : ∃ items others : List (Handle width × Node width),
    Closes store head items ∧ Closes arranged.store (order.headD .nil) others ∧
      others.map Prod.fst = order ∧ (others.map labelled).Perm (items.map labelled)
  outside : ∀ handle ∉ rebuilt.buffer.filled,
    Store.get? arranged.store handle = Store.get? store handle
  /-- The new chain can be rebuilt in its turn. -/
  rebuilds : ∀ spare : OrderBuffer width, count ≤ spare.capacity →
    let again := rebuild (order.headD .nil) count spare arranged.store
    again.result = .ok (order.headD .nil) ∧ again.buffer.filled = order ∧
      again.store = arranged.store
  /-- Writing the old order back and connecting it makes everything as it was. -/
  undone : ∀ spare : OrderBuffer width, spare.length = count →
    let undone := connectBuffer (spare.overwrite rebuilt.buffer.filled) arranged.store
    undone.result = .ok head ∧ undone.store = store

theorem reorders_of_path (path : Path store head passed .nil) (permuted : order.Perm passed)
    {rebuilt : Rebuild σ width} (recorded : rebuilt.buffer.filled = passed)
    {arranging : OrderBuffer width} (filled : arranging.filled = order) :
    Reorders store head passed.length rebuilt order (connectBuffer arranging store) := by
  subst filled
  have intact : Connectable store passed := path.connectable (Store.get?_nil store)
  have sound := intact.of_perm permuted
  have arranged := path_writeLinks sound
  have sameLength := permuted.length_eq
  rw [sound.connectBuffer_eq]
  refine
    { result_eq := rfl
      filled_eq := rfl
      length_eq := sameLength
      nodup := sound.nodup
      inOrder := inOrder_of_path path permuted
      outside := ?_
      rebuilds := ?_
      undone := ?_ }
  · intro handle outside
    rw [recorded, ← permuted.mem_iff] at outside
    exact get?_writeLinks_of_not_mem outside store
  · intro spare within
    rw [← sameLength]
    obtain ⟨again, filledAgain⟩ := rebuild_of_path arranged (sameLength ▸ within)
    exact ⟨again, filledAgain, store_rebuild _ _ spare _⟩
  · intro spare length
    have restoring : (spare.overwrite rebuilt.buffer.filled).filled = passed := by
      rw [recorded, OrderBuffer.filled_overwrite length.symm]
    have soundAgain : Connectable (writeLinks arranging.filled store) passed :=
      intact.of_contains_eq (contains_writeLinks _ store)
    rw [← restoring] at soundAgain
    dsimp only
    rw [soundAgain.connectBuffer_eq, restoring, path.headD_eq]
    refine ⟨rfl, Framed.eq_of_agree _ _ ?_ (agree_writeLinks_of_perm path permuted)⟩
    rw [Framed.frame_writeLinks, Framed.frame_writeLinks]

/-- However the handles of a rebuilt chain change places in the buffer, connecting the buffer
makes one chain of all its nodes in that order, which can be rebuilt like any other; and
connecting the old order undoes it. -/
theorem rebuilt_chain_reorders {newHead : Handle width}
    (made : (rebuild head count buffer store).result = .ok newHead)
    (permuted : order.Perm (rebuild head count buffer store).buffer.filled) :
    let rebuilt := rebuild head count buffer store
    Reorders store head count rebuilt order
      (connectBuffer (rebuilt.buffer.overwrite order) rebuilt.store) := by
  intro rebuilt
  obtain ⟨within, sound, -⟩ := rebuild_of_ok made
  obtain ⟨path, length⟩ := path_of_no_fault within sound
  rw [← buffer_rebuild within] at path length
  have filled : (rebuilt.buffer.overwrite order).filled = order := by
    apply OrderBuffer.filled_overwrite
    rw [permuted.length_eq, OrderBuffer.length_filled]
  have sameStore : rebuilt.store = store := store_rebuild head count buffer store
  rw [sameStore, ← length, ← OrderBuffer.length_filled]
  exact reorders_of_path path permuted rfl filled

/-- The chain 3, 1, 2 of `tangle` becomes 2, 3, 1; the chain from 0, which shared its tail,
is cut. -/
theorem rebuilt_chain_reorders_tangle :
    let rebuilt := rebuild ⟨3⟩ 3 (.empty 4) tangle
    let order : List (Handle 8) := [⟨2⟩, ⟨3⟩, ⟨1⟩]
    rebuilt.result = .ok ⟨3⟩ ∧ order.Perm rebuilt.buffer.filled ∧
      Reorders tangle ⟨3⟩ 3 rebuilt order
        (connectBuffer (rebuilt.buffer.overwrite order) rebuilt.store) := by
  intro rebuilt order
  have made : rebuilt.result = .ok ⟨3⟩ := rfl
  have permuted : order.Perm rebuilt.buffer.filled := by decide
  exact ⟨made, permuted, rebuilt_chain_reorders made permuted⟩

end ArenaChain.Chain
