import ArenaChain.Proofs.Agreement
import ArenaChain.Proofs.Cursor
import ArenaChain.Proofs.FirstFault
import ArenaChain.Store.Pool

/-!
# Nodes that are removed from a chain

When a node of a chain is removed, its slot is vacant and the link to it dangles.  A cursor
still passes the nodes in front of it, since a chain that closes does not come back to the slot
before; then it stops.  Whatever else is tried with the chain runs into the gap and leaves the
store alone (`BreaksAt`).

In a store that takes slots again, the slot that was given up is the next one to be taken.  So
the node goes back to its place, and nothing that is looked up tells that it was away
(`RecyclingStore.exists_insert_remove_eq_ok`).
-/

namespace ArenaChain.Chain

section Gaps

variable {σ τ α : Type} {width : Nat} [Store σ width α] [Store τ width α] [Linked α width]
variable {store : σ} {before : σ} {after : τ} {head gap : Handle width}
variable {item : Handle width × α} {items front back : List (Handle width × α)}

/-- The chain breaks off behind these items, at a slot that is vacant, and every attempt to link
its nodes fails for it. -/
structure BreaksAt (store : σ) (head : Handle width) (items : List (Handle width × α))
    (gap : Handle width) : Prop where
  yields : Yields store head items
  rebuild : ∀ (count : Nat) (buffer : OrderBuffer width), count ≤ buffer.capacity →
    (rebuild head count buffer store).result =
        .error (if count ≤ items.length then .runsOn count else .absent gap) ∧
      (rebuild head count buffer store).store = store
  connect : ∀ order, gap ∈ order → ∃ error, connect order store = (.error error, store)
  connectBuffer : ∀ buffer : OrderBuffer width, gap ∈ buffer.filled →
    ∃ error, (connectBuffer buffer store).result = .error error ∧
      (connectBuffer buffer store).store = store

theorem Closes.get?_of_append (closes : Closes store head (front ++ item :: back)) :
    Store.get? store item.1 = some item.2 :=
  closes.yields.get?_of_mem (List.mem_append_right front List.mem_cons_self)

/-- A chain that closes does not come to a slot twice. -/
theorem Closes.ne_of_mem_front (closes : Closes store head (front ++ item :: back))
    {other : Handle width × α} (member : other ∈ front) : other.1 ≠ item.1 := by
  have nodup := closes.path.nodup_of_vacant (Store.get?_nil store)
  rw [List.map_append, List.map_cons, List.nodup_append] at nodup
  exact nodup.2.2 _ (List.mem_map_of_mem member) _ List.mem_cons_self

/-- As far as nothing changed, a cursor passes what it passed before. -/
theorem Yields.of_vacated (yields : Yields before head (front ++ item :: back))
    (kept : ∀ other ∈ front, Store.get? after other.1 = Store.get? before other.1)
    (vacated : Store.get? after item.1 = none) :
    Yields after head front ∧ stopLink head front = item.1 := by
  induction front generalizing head with
  | nil =>
      obtain ⟨rfl, -, -⟩ := yields_cons_iff.mp yields
      exact ⟨yields_nil_iff.mpr vacated, rfl⟩
  | cons first others ih =>
      obtain ⟨rfl, found, onward⟩ := yields_cons_iff.mp yields
      have rest := ih onward fun other member => kept other (List.mem_cons_of_mem _ member)
      have here := (kept first List.mem_cons_self).trans found
      rw [stopLink_cons]
      exact ⟨yields_cons_iff.mpr ⟨rfl, here, rest.1⟩, rest.2⟩

theorem exists_connect_eq_error_of_vacant {order : List (Handle width)}
    (vacant : Store.get? store gap = none) (member : gap ∈ order) :
    ∃ error, connect order store = (.error error, store) := by
  cases fault : orderFault? store [] order with
  | some error => exact ⟨error, connect_of_fault fault⟩
  | none =>
      have occupied := (connectable_iff.mpr fault).occupied gap member
      rw [Store.contains, vacant] at occupied
      cases occupied

theorem Yields.breaksAt (yields : Yields store head items) (stops : stopLink head items = gap)
    (named : gap ≠ .nil) : BreaksAt store head items gap := by
  obtain ⟨path, vacant⟩ := yields.path
  rw [stops] at path vacant
  have course : HasCourse store head (.breaksOff items.length gap) :=
    ⟨named, vacant, _, path, List.length_map _⟩
  refine ⟨yields, fun count buffer within => ?_,
    fun order => exists_connect_eq_error_of_vacant vacant, fun buffer member => ?_⟩
  · have rejected : (Chain.rebuild head count buffer store).result =
        .error (if count ≤ items.length then .runsOn count else .absent gap) := by
      rw [result_rebuild_of_hasCourse course within, Course.result, apply_ite Except.error]
    exact ⟨rejected, store_rebuild_of_error rejected⟩
  · obtain ⟨error, rejected⟩ := exists_connect_eq_error_of_vacant vacant member
    rw [result_connectBuffer, store_connectBuffer, rejected]
    exact ⟨error, rfl, rfl⟩

end Gaps

theorem Closes.breaksAt_remove {σ α : Type} {width : Nat} [RemovalStore σ width α]
    [Linked α width] {store : σ} {head : Handle width} {item : Handle width × α}
    {front back : List (Handle width × α)} (closes : Closes store head (front ++ item :: back)) :
    BreaksAt (RemovalStore.remove item.1 store).2 head front item.1 := by
  have removed := RemovalStore.get?_remove item.1 store
  have kept : ∀ other ∈ front,
      Store.get? (RemovalStore.remove item.1 store).2 other.1 = Store.get? store other.1 :=
    fun other member => (removed other.1).trans (if_neg (closes.ne_of_mem_front member))
  have vacated : Store.get? (RemovalStore.remove item.1 store).2 item.1 = none :=
    (removed item.1).trans (if_pos rfl)
  obtain ⟨yields, stops⟩ := closes.yields.of_vacated kept vacated
  exact yields.breaksAt stops (Store.ne_nil_of_get? closes.get?_of_append)

end ArenaChain.Chain

namespace ArenaChain.RecyclingStore

open Chain RemovalStore

variable {σ α : Type} {width : Nat} [RecyclingStore σ width α] {store : σ}

/-- A value that was removed goes back into its slot, and look-up does not tell that it was
away. -/
theorem exists_insert_remove_eq_ok {handle : Handle width} {value : α}
    (held : Store.get? store handle = some value) :
    ∃ mended, Store.insert value (remove handle store).2 = .ok (handle, mended) ∧
      Store.Agree mended store := by
  have since : Since (Eq store) (remove handle store).2 (History.blank.free handle) :=
    (Since.outset rfl).remove held
  obtain ⟨mended, inserted⟩ := insert_of_line value since rfl
  refine ⟨mended, inserted, fun other => ?_⟩
  rw [Store.get?_insert _ _ _ _ inserted, get?_remove]
  split
  case isTrue same => rw [same, held]
  case isFalse => rfl

variable [Linked α width] {head : Handle width} {item : Handle width × α}
variable {front back : List (Handle width × α)}

/-- Whichever node of a chain is removed, the chain breaks off where it was, and that is noticed
whatever is tried with the chain.  Put in again, the node is back in its place, and the chain can
be rebuilt. -/
theorem removal_breaks_insertion_mends (closes : Closes store head (front ++ item :: back)) :
    (remove item.1 store).1 = some item.2 ∧
      BreaksAt (remove item.1 store).2 head front item.1 ∧
      ∃ mended, Store.insert item.2 (remove item.1 store).2 = .ok (item.1, mended) ∧
        Store.Agree mended store ∧
        ∀ buffer : OrderBuffer width, (front ++ item :: back).length ≤ buffer.capacity →
          (rebuild head (front ++ item :: back).length buffer mended).result = .ok head ∧
            (rebuild head (front ++ item :: back).length buffer mended).buffer.filled =
              (front ++ item :: back).map Prod.fst := by
  have held : Store.get? store item.1 = some item.2 := closes.get?_of_append
  obtain ⟨mended, inserted, agree⟩ := exists_insert_remove_eq_ok held
  refine ⟨(fst_remove item.1 store).trans held, closes.breaksAt_remove, mended, inserted, agree,
    fun buffer within => ?_⟩
  rw [← List.length_map Prod.fst] at within ⊢
  exact rebuild_of_path (closes.path.of_agree agree.symm) within

/-- The middle one of three nodes is removed from a chain that does not run through the slots in
their order, and into which a fourth node leads. -/
theorem removal_breaks_insertion_mends_small :
    let strewn : Pool 64 (Node 64) :=
      (connect [⟨2⟩, ⟨0⟩, ⟨3⟩] (assemble (["a", "b", "c", "d"].map Node.ofName) .empty).2).2
    Closes strewn ⟨2⟩ [(⟨2⟩, ⟨"c", ⟨0⟩⟩), (⟨0⟩, ⟨"a", ⟨3⟩⟩), (⟨3⟩, ⟨"d", .nil⟩)] ∧
      (strewn.remove ⟨0⟩).1 = some ⟨"a", ⟨3⟩⟩ ∧
      BreaksAt (strewn.remove ⟨0⟩).2 ⟨2⟩ [(⟨2⟩, ⟨"c", ⟨0⟩⟩)] ⟨0⟩ ∧
      (rebuild ⟨2⟩ 1 (.empty 3) (strewn.remove ⟨0⟩).2).result = .error (.runsOn 1) ∧
      (rebuild ⟨2⟩ 2 (.empty 3) (strewn.remove ⟨0⟩).2).result = .error (.absent ⟨0⟩) ∧
      ∃ mended, Store.insert ⟨"a", ⟨3⟩⟩ (strewn.remove ⟨0⟩).2 = .ok (⟨0⟩, mended) ∧
        Store.Agree mended strewn ∧ (rebuild ⟨2⟩ 3 (.empty 3) mended).result = .ok ⟨2⟩ := by
  intro strewn
  have last : Closes strewn ⟨3⟩ [(⟨3⟩, ⟨"d", .nil⟩)] :=
    closes_cons_iff.mpr ⟨rfl, rfl, yields_nil_iff.mpr rfl, rfl⟩
  have closes : Closes strewn ⟨2⟩
      ([(⟨2⟩, ⟨"c", ⟨0⟩⟩)] ++ (⟨0⟩, ⟨"a", ⟨3⟩⟩) :: [(⟨3⟩, ⟨"d", .nil⟩)]) :=
    closes_cons_iff.mpr ⟨rfl, rfl, closes_cons_iff.mpr ⟨rfl, rfl, last⟩⟩
  obtain ⟨removed, breaks, mended, inserted, agree, rebuilds⟩ :=
    removal_breaks_insertion_mends closes
  have fits (count : Nat) (bound : count ≤ 3) :
      count ≤ (.empty 3 : OrderBuffer 64).capacity := bound
  exact ⟨closes, removed, breaks, (breaks.rebuild 1 _ (fits 1 (by decide))).1,
    (breaks.rebuild 2 _ (fits 2 (by decide))).1, mended, inserted, agree,
    (rebuilds _ (fits 3 (by decide))).1⟩

end ArenaChain.RecyclingStore
