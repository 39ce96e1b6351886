import ArenaChain.Proofs.Agreement
import ArenaChain.Proofs.Connectable

/-!
# Watched stores

A watched store keeps an account of the slots that were handed out for writing:
which ones, in which order, and whether each was occupied at that moment.  It is
a store like any other, so every operation on chains runs on it as it is, and the
account is that of the operation itself.

Watching changes nothing else: without its account the store afterwards is the one
that the operation makes of the store without an account.
-/

namespace ArenaChain

/-- A slot that was handed out for writing. -/
structure Access (width : Nat) where
  handle : Handle width
  /-- Whether the slot was occupied at that moment. -/
  occupied : Bool
  deriving DecidableEq

/-- A store with an account of the slots that were handed out for writing. -/
structure Watched (σ : Type) (width : Nat) where
  store : σ
  accesses : List (Access width)

namespace Watched

open Chain

variable {σ α : Type} {width : Nat}

/-- The store with an account in which nothing is written yet. -/
def start [Store σ width α] (store : σ) : Watched σ width := ⟨store, []⟩

variable [Store σ width α]

instance : Store (Watched σ width) width α where
  get? watched := Store.get? watched.store
  modify change handle watched :=
    { store := Store.modify change handle watched.store
      accesses := watched.accesses ++ [⟨handle, Store.contains watched.store handle⟩] }
  insert value watched :=
    (Store.insert value watched.store).map fun placed =>
      (placed.1, ⟨placed.2, watched.accesses⟩)
  clear watched := ⟨Store.clear watched.store, watched.accesses⟩
  extent watched := Store.extent watched.store
  get?_nil watched := Store.get?_nil watched.store
  toNat_lt_extent watched := Store.toNat_lt_extent watched.store
  get?_modify change target watched := Store.get?_modify change target watched.store
  get?_clear watched := Store.get?_clear watched.store
  vacant_of_insert value watched handle grown inserted := by
    cases insertion : Store.insert value watched.store with
    | error overflow => simp [insertion, Except.map] at inserted
    | ok fresh =>
        simp only [insertion, Except.map, Except.ok.injEq, Prod.mk.injEq] at inserted
        obtain ⟨rfl, -⟩ := inserted
        exact Store.vacant_of_insert _ _ _ _ insertion
  get?_insert value watched handle grown inserted other := by
    cases insertion : Store.insert value watched.store with
    | error overflow => simp [insertion, Except.map] at inserted
    | ok fresh =>
        simp only [insertion, Except.map, Except.ok.injEq, Prod.mk.injEq] at inserted
        obtain ⟨rfl, rfl⟩ := inserted
        exact Store.get?_insert _ _ _ _ insertion other
  rejected_insert value watched overflow failed := by
    cases insertion : Store.insert value watched.store with
    | error found =>
        simp only [insertion, Except.map, Except.error.injEq] at failed
        subst failed
        exact Store.rejected_insert _ _ _ insertion
    | ok fresh => simp [insertion, Except.map] at failed

theorem agree_store (watched : Watched σ width) : Store.Agree watched watched.store :=
  fun _ => rfl

variable [Linked α width]

/-- Each link is written once, in the order of the slots. -/
theorem writeLinks_eq (order : List (Handle width)) (watched : Watched σ width) :
    writeLinks order watched =
      { store := writeLinks order watched.store
        accesses := watched.accesses ++
          order.map fun handle => ⟨handle, Store.contains watched.store handle⟩ } := by
  induction order generalizing watched with
  | nil => simp [writeLinks]
  | cons handle others ih =>
      have first (target : Handle width) : Store.writeLink handle target watched =
          { store := Store.writeLink handle target watched.store
            accesses := watched.accesses ++
              [⟨handle, Store.contains watched.store handle⟩] } := rfl
      rw [writeLinks_cons, ih, first, writeLinks_cons]
      simp

/-- The account of writing the links of an order whose slots are all occupied, or of
writing none if there is no order. -/
def account {ε : Type} : Except ε (List (Handle width)) → List (Access width)
  | .ok order => order.map fun handle => ⟨handle, true⟩
  | .error _ => []

theorem writeLinks_eq_of_connectable {order : List (Handle width)}
    {watched : Watched σ width} (sound : Connectable watched.store order) :
    writeLinks order watched =
      { store := writeLinks order watched.store
        accesses := watched.accesses ++ order.map fun handle => ⟨handle, true⟩ } := by
  rw [writeLinks_eq]
  congr 2
  apply List.map_congr_left
  intro handle member
  rw [sound.occupied handle member]

theorem connect_eq (order : List (Handle width)) (watched : Watched σ width) :
    connect order watched =
      ((connect order watched.store).1,
        { store := (connect order watched.store).2
          accesses := watched.accesses ++
            account ((connect order watched.store).1.map fun _ => order) }) := by
  have same := orderFault?_eq_of_agree watched.agree_store [] order
  cases fault : orderFault? watched.store [] order with
  | some error =>
      rw [connect_of_fault fault, connect_of_fault (same.trans fault)]
      simp [account, Except.map]
  | none =>
      have sound : Connectable watched.store order := connectable_iff.mpr fault
      rw [connect_of_no_fault fault, connect_of_no_fault (same.trans fault),
        writeLinks_eq_of_connectable sound]
      rfl

theorem store_rebuild_eq (head : Handle width) (count : Nat) (buffer : OrderBuffer width)
    (watched : Watched σ width) :
    (rebuild head count buffer watched).store =
      { store := (rebuild head count buffer watched.store).store
        accesses := watched.accesses ++
          account ((rebuild head count buffer watched.store).result.map fun _ =>
            (rebuild head count buffer watched.store).buffer.filled) } := by
  rcases Nat.lt_or_ge buffer.capacity count with beyond | within
  · rw [rebuild_of_capacity_lt beyond, rebuild_of_capacity_lt beyond]
    simp [account, Except.map]
  · have same := record_eq_of_agree watched.agree_store head count buffer
    cases fault : (record watched.store head count buffer).fault? with
    | some error =>
        rw [rebuild_of_fault within fault, rebuild_of_fault within (same ▸ fault)]
        simp [account, Except.map]
    | none =>
        have sound := connectable_record within fault
        rw [rebuild_of_no_fault within fault, rebuild_of_no_fault within (same ▸ fault), same]
        exact writeLinks_eq_of_connectable sound

omit [Linked α width] in
theorem insertAll_eq (values : List α) (watched : Watched σ width) :
    Store.insertAll values watched =
      ((Store.insertAll values watched.store).1,
        ⟨(Store.insertAll values watched.store).2, watched.accesses⟩) := by
  induction values generalizing watched with
  | nil => rfl
  | cons value values ih =>
      have first : Store.insert value watched =
          (Store.insert value watched.store).map fun placed =>
            (placed.1, ⟨placed.2, watched.accesses⟩) := rfl
      cases insertion : Store.insert value watched.store with
      | error overflow => simp [Store.insertAll, first, insertion, Except.map]
      | ok placed =>
          simp only [Store.insertAll, first, insertion, Except.map, ih]
          rcases Store.insertAll values placed.2 with ⟨_ | _, _⟩ <;> rfl

theorem assemble_eq (values : List α) (watched : Watched σ width) :
    assemble values watched =
      ((assemble values watched.store).1,
        { store := (assemble values watched.store).2
          accesses := watched.accesses ++
            account (Store.insertAll values watched.store).1 }) := by
  have same := insertAll_eq values watched
  rcases insertion : Store.insertAll values watched.store with ⟨result, grown⟩
  rw [insertion] at same
  cases result with
  | error overflow =>
      rw [assemble_of_full insertion, assemble_of_full same]
      simp [account]
  | ok order =>
      have sound := (connectable_insertAll insertion).1
      rw [assemble_of_inserted insertion, assemble_of_inserted same,
        writeLinks_eq_of_connectable sound]
      rfl

/-- Whatever became of a store while it was watched, this would have become of it
unwatched, and only occupied slots were handed out for writing, none of them twice. -/
structure Sound (watched : Watched σ width) (unwatched : σ) : Prop where
  store_eq : watched.store = unwatched
  occupied : ∀ access ∈ watched.accesses, access.occupied = true
  distinct : (watched.accesses.map Access.handle).Nodup

theorem sound_account {ε : Type} {store : σ} {written : Except ε (List (Handle width))}
    (distinct : ∀ order, written = .ok order → order.Nodup) :
    Sound (⟨store, [] ++ account written⟩ : Watched σ width) store := by
  rw [List.nil_append]
  cases written with
  | error error => exact ⟨rfl, by simp [account], by simp [account]⟩
  | ok order =>
      refine ⟨rfl, by simp [account], ?_⟩
      simpa [account, Function.comp_def] using distinct order rfl

theorem sound_connect (order : List (Handle width)) (store : σ) :
    Sound (connect order (start store)).2 (connect order store).2 := by
  rw [connect_eq]
  apply sound_account
  intro written linked
  cases fault : orderFault? store [] order with
  | some error => simp [start, connect_of_fault fault, Except.map] at linked
  | none =>
      simp only [start, connect_of_no_fault fault, Except.map, Except.ok.injEq] at linked
      exact linked ▸ (connectable_iff.mpr fault).nodup

theorem sound_rebuild (head : Handle width) (count : Nat) (buffer : OrderBuffer width)
    (store : σ) :
    Sound (rebuild head count buffer (start store)).store
      (rebuild head count buffer store).store := by
  rw [store_rebuild_eq]
  apply sound_account
  intro written made
  simp only [start] at made
  cases result : (rebuild head count buffer store).result with
  | error error => simp [result, Except.map] at made
  | ok newHead =>
      obtain ⟨within, sound, -⟩ := rebuild_of_ok result
      rw [rebuild_of_no_fault within sound] at made
      simp only [Except.map, Except.ok.injEq] at made
      exact made ▸ (connectable_record within sound).nodup

theorem sound_assemble (values : List α) (store : σ) :
    Sound (assemble values (start store)).2 (assemble values store).2 := by
  rw [assemble_eq]
  apply sound_account
  intro written inserted
  have all : Store.insertAll values store =
      (.ok written, (Store.insertAll values store).2) := Prod.ext inserted rfl
  exact (connectable_insertAll all).1.nodup

/-- Writing without examination is safe wherever it is done: the orders that it is
given name occupied slots, each once, every slot is occupied at the moment when its
link is written, and an examination would never find a fault. -/
theorem writes_without_examination_sound (store : σ) (head : Handle width) (count : Nat)
    (buffer : OrderBuffer width) (order : List (Handle width)) (values : List α) :
    (count ≤ buffer.capacity → (record store head count buffer).fault? = none →
        Connectable store (record store head count buffer).buffer.filled) ∧
      (orderFault? store [] order = none → Connectable store order) ∧
      (orderFault? store [] buffer.filled = none → Connectable store buffer.filled) ∧
      (∀ slots grown, Store.insertAll values store = (.ok slots, grown) →
        Connectable grown slots) ∧
      Sound (rebuild head count buffer (start store)).store
        (rebuild head count buffer store).store ∧
      Sound (connect order (start store)).2 (connect order store).2 ∧
      Sound (connectBuffer buffer (start store)).store (connectBuffer buffer store).store ∧
      Sound (assemble values (start store)).2 (assemble values store).2 ∧
      rebuildBy connect head count buffer store = rebuild head count buffer store ∧
      assembleBy connect values store =
        ((assemble values store).1.mapError .inl, (assemble values store).2) := by
  refine ⟨connectable_record, connectable_iff.mpr, connectable_iff.mpr, ?_,
    sound_rebuild head count buffer store, sound_connect order store, ?_,
    sound_assemble values store, ?_, ?_⟩
  · intro slots grown inserted
    exact (connectable_insertAll inserted).1
  · rw [store_connectBuffer, store_connectBuffer]
    exact sound_connect buffer.filled store
  · rw [rebuildBy_connect, rebuildBy_connectUnexamined]
  · rw [assembleBy_connect, assembleBy_connectUnexamined]

theorem writes_without_examination_sound_tangle :
    let buffer := (record tangle ⟨3⟩ 3 (.empty 4)).buffer
    (3 ≤ buffer.capacity ∧ (record tangle ⟨0⟩ 3 buffer).fault? = none ∧
        Connectable tangle (record tangle ⟨0⟩ 3 buffer).buffer.filled) ∧
      (orderFault? tangle [] [⟨6⟩, ⟨0⟩] = none ∧ Connectable tangle [⟨6⟩, ⟨0⟩]) ∧
      (orderFault? tangle [] buffer.filled = none ∧ Connectable tangle buffer.filled) ∧
      Connectable (Store.insertAll [Node.ofName "h"] tangle).2 [⟨7⟩] ∧
      Sound (rebuild ⟨0⟩ 3 buffer (start tangle)).store
        (rebuild ⟨0⟩ 3 buffer tangle).store := by
  have sound := writes_without_examination_sound tangle ⟨0⟩ 3
    (record tangle ⟨3⟩ 3 (.empty 4)).buffer [⟨6⟩, ⟨0⟩] [Node.ofName "h"]
  refine ⟨⟨by decide, by decide, ?_⟩, ⟨by decide, ?_⟩, ⟨by decide, ?_⟩, ?_, ?_⟩
  · exact sound.1 (by decide) (by decide)
  · exact sound.2.1 (by decide)
  · exact sound.2.2.1 (by decide)
  · exact sound.2.2.2.1 [⟨7⟩] _ rfl
  · exact sound.2.2.2.2.1

end Watched

end ArenaChain
