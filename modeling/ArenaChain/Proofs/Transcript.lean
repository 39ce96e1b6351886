import ArenaChain.Proofs.Arrangement

/-!
# Recording and traversing

A rebuild records a chain on its own, with stop rules of its own: a cursor that comes to
a vacant slot just stops, where recording finds a fault, and recording stops at the
declared number of nodes before it looks any further.  All the same the record is what a
cursor passes in that many moves, whatever comes of the rebuild; and the rebuild succeeds
exactly if the cursor passes that many slots in all and stops at the end marker.
-/

namespace ArenaChain.Chain

variable {σ α : Type} {width : Nat} [Store σ width α] [Linked α width]
variable {store : σ} {head : Handle width} {count : Nat} {buffer : OrderBuffer width}

/-- What a rebuild came to is what a cursor finds in this store. -/
structure Transcribes (seen : σ) (head : Handle width) (count capacity : Nat)
    (rebuilt : Rebuild σ width) : Prop where
  filled_eq : rebuilt.buffer.filled = (traverse seen count head).items.map Prod.fst
  /-- Behind the record the buffer is blank. -/
  slots_eq : rebuilt.buffer.slots.toList =
    rebuilt.buffer.filled ++ List.replicate (capacity - rebuilt.buffer.length) .nil
  ok_iff : (∃ newHead, rebuilt.result = .ok newHead) ↔
    ∃ items : List (Handle width × α), Closes seen head items ∧ items.length = count

theorem toList_slots_rebuild (head : Handle width) (count : Nat) (buffer : OrderBuffer width)
    (store : σ) :
    (rebuild head count buffer store).buffer.slots.toList =
      (rebuild head count buffer store).buffer.filled ++
        List.replicate (buffer.capacity - (rebuild head count buffer store).buffer.length)
          .nil := by
  have slots := OrderBuffer.toList_slots (rebuild head count buffer store).buffer
  rwa [capacity_rebuild] at slots

theorem exists_rebuild_eq_ok_iff (within : count ≤ buffer.capacity) :
    (∃ newHead, (rebuild head count buffer store).result = .ok newHead) ↔
      ∃ passed, Path store head passed .nil ∧ passed.length = count := by
  constructor
  · rintro ⟨newHead, made⟩
    obtain ⟨-, sound, -⟩ := rebuild_of_ok made
    obtain ⟨path, length⟩ := path_of_no_fault within sound
    exact ⟨_, path, (OrderBuffer.length_filled _).trans length⟩
  · rintro ⟨passed, path, rfl⟩
    exact ⟨head, (rebuild_of_path path within).1⟩

theorem transcribes_rebuild (within : count ≤ buffer.capacity) :
    Transcribes store head count buffer.capacity (rebuild head count buffer store) where
  filled_eq := by
    obtain ⟨target, stretch⟩ := stretch_traverse store count head
    exact filled_rebuild_of_stretch stretch within
  slots_eq := toList_slots_rebuild head count buffer store
  ok_iff := by rw [exists_rebuild_eq_ok_iff within, exists_closes_iff]

/-- A chain that was rebuilt is still there, so a cursor can be sent along it later. -/
theorem transcribes_of_rebuilt {newHead : Handle width}
    (made : (rebuild head count buffer store).result = .ok newHead) :
    Transcribes (rebuild head count buffer store).store head count buffer.capacity
      (rebuild head count buffer store) := by
  obtain ⟨within, sound, rfl⟩ := rebuild_of_ok made
  obtain ⟨path, length⟩ := path_of_no_fault within sound
  have rewritten : Path (rebuild newHead count buffer store).store newHead
      (rebuild newHead count buffer store).buffer.filled .nil := by
    rw [buffer_rebuild within, rebuild_of_no_fault within sound]
    have written := path_writeLinks (connectable_record within sound)
    rwa [path.headD_eq] at written
  have recorded : (rebuild newHead count buffer store).buffer.filled.length = count := by
    rw [buffer_rebuild within, OrderBuffer.length_filled, length]
  refine
    { filled_eq := ?_
      slots_eq := toList_slots_rebuild newHead count buffer store
      ok_iff := ?_ }
  · exact (items_traverse_of_path rewritten (Store.get?_nil _) (Nat.le_of_eq recorded)).symm
  · exact iff_of_true ⟨newHead, made⟩ (exists_closes_iff.mpr ⟨_, rewritten, recorded⟩)

/-- Whatever comes of rebuilding a chain, a cursor tells the same, be it moved before or
afterwards. -/
theorem rebuild_transcribes (head : Handle width) (store : σ)
    (within : count ≤ buffer.capacity) :
    Transcribes store head count buffer.capacity (rebuild head count buffer store) ∧
      Transcribes (rebuild head count buffer store).store head count buffer.capacity
        (rebuild head count buffer store) := by
  have before : Transcribes store head count buffer.capacity (rebuild head count buffer store) :=
    transcribes_rebuild within
  refine ⟨before, ?_⟩
  cases result : (rebuild head count buffer store).result with
  | error error => rwa [store_rebuild_of_error result]
  | ok newHead => exact transcribes_of_rebuilt result

/-- A buffer that held three handles takes the two of a chain that breaks off. -/
theorem rebuild_transcribes_tangle :
    let buffer := (record tangle ⟨4⟩ 3 (.empty 4)).buffer
    3 ≤ buffer.capacity ∧
      Transcribes tangle ⟨5⟩ 3 4 (rebuild ⟨5⟩ 3 buffer tangle) ∧
      Transcribes (rebuild ⟨3⟩ 3 buffer tangle).store ⟨3⟩ 3 4 (rebuild ⟨3⟩ 3 buffer tangle) := by
  intro buffer
  have within : 3 ≤ buffer.capacity := by decide
  exact ⟨within, (rebuild_transcribes ⟨5⟩ tangle within).1,
    (rebuild_transcribes ⟨3⟩ tangle within).2⟩

end ArenaChain.Chain
