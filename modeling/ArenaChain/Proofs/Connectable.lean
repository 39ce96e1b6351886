import ArenaChain.Chain.Assembly
import ArenaChain.Proofs.Outcome

/-!
# Orders that need no examination

`writeLinks` writes without examination, so it may be given only orders that name
occupied slots, each once.  An order that was examined is of this kind.  So are,
for reasons of their own, the record of a whole chain, since its links do not lead
back, and the slots of newly inserted values.

Hence it makes no difference to rebuild or to assemble a chain by way of `connect`,
which examines its order.
-/

namespace ArenaChain.Chain

variable {σ α : Type} {width : Nat} [Store σ width α]

/-- An order that names occupied slots, each once. -/
structure Connectable (store : σ) (order : List (Handle width)) : Prop where
  occupied : ∀ handle ∈ order, Store.contains store handle = true
  nodup : order.Nodup

theorem connectable_iff {store : σ} {order : List (Handle width)} :
    Connectable store order ↔ orderFault? store [] order = none := by
  rw [orderFault?_eq_none_iff]
  exact ⟨fun sound => ⟨sound.occupied, sound.nodup⟩, fun sound => ⟨sound.1, sound.2⟩⟩

theorem Connectable.tail {store : σ} {handle : Handle width} {others : List (Handle width)}
    (sound : Connectable store (handle :: others)) : Connectable store others where
  occupied other member := sound.occupied other (List.mem_cons_of_mem _ member)
  nodup := (List.nodup_cons.mp sound.nodup).2

theorem Connectable.of_contains_eq {before after : σ} {order : List (Handle width)}
    (same : ∀ handle, Store.contains after handle = Store.contains before handle)
    (sound : Connectable before order) : Connectable after order where
  occupied handle member := (same handle).trans (sound.occupied handle member)
  nodup := sound.nodup

/-- Make a chain of an order without examination. -/
def connectUnexamined [Linked α width] (order : List (Handle width)) (store : σ) :
    Except (ChainError width) (Handle width) × σ :=
  (.ok (order.headD .nil), writeLinks order store)

theorem Connectable.connect_eq [Linked α width] {store : σ} {order : List (Handle width)}
    (sound : Connectable store order) : connect order store = connectUnexamined order store :=
  connect_of_no_fault (connectable_iff.mp sound)

theorem Connectable.connectBuffer_eq [Linked α width] {store : σ} {buffer : OrderBuffer width}
    (sound : Connectable store buffer.filled) :
    connectBuffer buffer store =
      ⟨.ok (buffer.filled.headD .nil), writeLinks buffer.filled store, buffer,
        [.connected (buffer.filled.headD .nil) buffer.length]⟩ := by
  unfold connectBuffer
  rw [sound.connect_eq]
  rfl

theorem connectable_of_connect [Linked α width] {store : σ} {order : List (Handle width)}
    {newHead : Handle width} (linked : (connect order store).1 = .ok newHead) :
    Connectable store order := by
  cases fault : orderFault? store [] order with
  | none => exact connectable_iff.mpr fault
  | some error =>
      rw [connect_of_fault fault] at linked
      cases linked

theorem Path.connectable [Linked α width] {store : σ} {head target : Handle width}
    {passed : List (Handle width)} (path : Path store head passed target)
    (vacant : Store.get? store target = none) : Connectable store passed where
  occupied _ member := Store.contains_iff.mpr (path.occupied_of_mem member)
  nodup := path.nodup_of_vacant vacant

theorem connectable_record [Linked α width] {store : σ} {head : Handle width} {count : Nat}
    {buffer : OrderBuffer width} (within : count ≤ buffer.capacity)
    (sound : (record store head count buffer).fault? = none) :
    Connectable store (record store head count buffer).buffer.filled :=
  (path_of_no_fault within sound).1.connectable (Store.get?_nil store)

/-- The slots of newly inserted values were vacant, and none was taken twice. -/
theorem connectable_insertAll {values : List α} {store grown : σ}
    {order : List (Handle width)}
    (inserted : Store.insertAll values store = (.ok order, grown)) :
    Connectable grown order ∧ ∀ handle ∈ order, Store.get? store handle = none := by
  -- The slots of the other values were still vacant when the first value was in its
  -- slot, so none of them is that slot.
  induction values generalizing store order with
  | nil =>
      obtain ⟨rfl, rfl⟩ := Store.insertAll_nil_eq_ok_iff.mp inserted
      exact ⟨⟨by simp, .nil⟩, by simp⟩
  | cons value values ih =>
      obtain ⟨fresh, bigger, handles, insertion, rest, rfl⟩ :=
        Store.insertAll_cons_eq_ok_iff.mp inserted
      obtain ⟨sound, vacant⟩ := ih rest
      have taken : Store.get? bigger fresh = some value := by
        rw [Store.get?_insert _ _ _ _ insertion, if_pos rfl]
      have different : ∀ handle ∈ handles, handle ≠ fresh := by
        rintro handle member rfl
        rw [vacant handle member] at taken
        cases taken
      have stays : Store.get? (Store.insertAll values bigger).2 fresh = some value :=
        Store.get?_insertAll_of_occupied taken
      rw [rest] at stays
      refine ⟨⟨?_, ?_⟩, ?_⟩
      · intro handle member
        rcases List.mem_cons.mp member with rfl | member
        · exact Store.contains_iff.mpr ⟨value, stays⟩
        · exact sound.occupied handle member
      · exact List.nodup_cons.mpr ⟨fun member => different fresh member rfl, sound.nodup⟩
      · intro handle member
        rcases List.mem_cons.mp member with rfl | member
        · exact Store.vacant_of_insert _ _ _ _ insertion
        · have later := vacant handle member
          rwa [Store.get?_insert _ _ _ _ insertion, if_neg (different handle member)] at later

variable [Linked α width]

/-- Rebuild a chain, where `link` makes a chain of the recorded order. -/
def rebuildBy (link : List (Handle width) → σ → Except (ChainError width) (Handle width) × σ)
    (head : Handle width) (count : Nat) (buffer : OrderBuffer width) (store : σ) :
    Rebuild σ width :=
  if buffer.capacity < count then
    let error := ChainError.overCapacity buffer.capacity count
    ⟨.error error, store, buffer, [.started head count, .rejected error]⟩
  else
    let recording := record store head count buffer
    let reports := .started head count :: recording.events
    match recording.fault? with
    | some error => ⟨.error error, store, recording.buffer, reports ++ [.rejected error]⟩
    | none =>
      match link recording.buffer.filled store with
      | (.error error, store) =>
        ⟨.error error, store, recording.buffer, reports ++ [.rejected error]⟩
      | (.ok newHead, store) =>
        ⟨.ok newHead, store, recording.buffer, reports ++ [.finished newHead count]⟩

/-- Assemble a chain, where `link` makes a chain of the slots of the new values. -/
def assembleBy (link : List (Handle width) → σ → Except (ChainError width) (Handle width) × σ)
    (values : List α) (store : σ) :
    Except (Overflow α ⊕ ChainError width) (Handle width) × σ :=
  match Store.insertAll values store with
  | (.error overflow, store) => (.error (.inl overflow), store)
  | (.ok order, store) =>
    match link order store with
    | (.error error, store) => (.error (.inr error), store)
    | (.ok head, store) => (.ok head, store)

theorem rebuildBy_connectUnexamined (head : Handle width) (count : Nat)
    (buffer : OrderBuffer width) (store : σ) :
    rebuildBy connectUnexamined head count buffer store = rebuild head count buffer store :=
  rfl

theorem rebuildBy_connect (head : Handle width) (count : Nat) (buffer : OrderBuffer width)
    (store : σ) :
    rebuildBy connect head count buffer store =
      rebuildBy connectUnexamined head count buffer store := by
  unfold rebuildBy
  split
  case isTrue => rfl
  case isFalse notBeyond =>
    cases fault : (record store head count buffer).fault? with
    | some error => simp only [fault]
    | none =>
        have sound := connectable_record (Nat.le_of_not_lt notBeyond) fault
        simp only [fault, sound.connect_eq]

theorem assembleBy_connectUnexamined (values : List α) (store : σ) :
    assembleBy connectUnexamined values store =
      ((assemble values store).1.mapError .inl, (assemble values store).2) := by
  rcases insertion : Store.insertAll values store with ⟨result, grown⟩
  cases result with
  | error overflow =>
      rw [assemble_of_full insertion, assembleBy, insertion]
      rfl
  | ok order =>
      rw [assemble_of_inserted insertion, assembleBy, insertion]
      rfl

theorem assembleBy_connect (values : List α) (store : σ) :
    assembleBy connect values store = assembleBy connectUnexamined values store := by
  unfold assembleBy
  split
  case h_1 => rfl
  case h_2 order grown inserted =>
    have sound := (connectable_insertAll inserted).1
    rw [sound.connect_eq]

end ArenaChain.Chain
