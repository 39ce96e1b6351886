import ArenaChain.Proofs.Connectable
import ArenaChain.Store.Recycling

/-!
# Runs of operations

An `Operation` is done to a store of nodes as a whole, and changes it whether it succeeds
or not: nodes that are not linked yet are put in, chains are made and rebuilt, every slot
is given up.  Some stores can give up single slots besides (`RemovalStore.Operation`).

All that operations do to a store comes down to inserting unlinked nodes, writing the
links of orders that need no examination, and clearing.  What these three keep is kept by
every run of operations (`Operation.Keeps.run`).
-/

namespace ArenaChain

open Chain

/-- What is done to a store of nodes, without reaching for the link of a single node. -/
inductive Operation (width : Nat) where
  | insert (name : String)
  | assemble (names : List String)
  | connect (order : List (Handle width))
  | rebuild (head : Handle width) (count : Nat) (buffer : OrderBuffer width)
  | connectBuffer (buffer : OrderBuffer width)
  | clear

namespace Operation

variable {σ : Type} {width : Nat} [Store σ width (Node width)]

/-- The store after an operation, be it carried out or refused. -/
def perform : Operation width → σ → σ
  | .insert name, store =>
    match Store.insert (Node.ofName name) store with
    | .error _ => store
    | .ok (_, grown) => grown
  | .assemble names, store => (Chain.assemble (names.map Node.ofName) store).2
  | .connect order, store => (Chain.connect order store).2
  | .rebuild head count buffer, store => (Chain.rebuild head count buffer store).store
  | .connectBuffer buffer, store => (Chain.connectBuffer buffer store).store
  | .clear, store => Store.clear store

def run (operations : List (Operation width)) (store : σ) : σ :=
  operations.foldl (fun store operation => operation.perform store) store

/-- A property of stores that the three things keep to which every operation comes
down. -/
structure Keeps (invariant : σ → Prop) : Prop where
  insert : ∀ {store grown : σ} {handle : Handle width} {name : String},
    Store.insert (Node.ofName name) store = .ok (handle, grown) →
      invariant store → invariant grown
  writeLinks : ∀ {store : σ} {order : List (Handle width)}, Connectable store order →
    invariant store → invariant (writeLinks order store)
  clear : ∀ store : σ, invariant (Store.clear store)

namespace Keeps

variable {invariant : σ → Prop} {store : σ}

theorem insertAll (keeps : Keeps invariant) (names : List String) (holds : invariant store) :
    invariant (Store.insertAll (names.map Node.ofName) store).2 := by
  induction names generalizing store with
  | nil => exact holds
  | cons name names ih =>
      rw [List.map_cons]
      cases inserted : Store.insert (Node.ofName name) store with
      | error overflow => rwa [Store.insertAll_of_full inserted]
      | ok placed =>
          rw [Store.insertAll_of_inserted inserted]
          exact ih (keeps.insert inserted holds)

theorem assemble (keeps : Keeps invariant) (names : List String) (holds : invariant store) :
    invariant (Chain.assemble (names.map Node.ofName) store).2 := by
  have all := keeps.insertAll names holds
  rcases insertion : Store.insertAll (names.map Node.ofName) store with ⟨result, grown⟩
  rw [insertion] at all
  cases result with
  | error overflow => rwa [assemble_of_full insertion]
  | ok order =>
      rw [assemble_of_inserted insertion]
      exact keeps.writeLinks (connectable_insertAll insertion).1 all

theorem connect (keeps : Keeps invariant) (order : List (Handle width))
    (holds : invariant store) : invariant (Chain.connect order store).2 := by
  cases fault : orderFault? store [] order with
  | some error => rwa [connect_of_fault fault]
  | none =>
      rw [connect_of_no_fault fault]
      exact keeps.writeLinks (connectable_iff.mpr fault) holds

theorem rebuild (keeps : Keeps invariant) (head : Handle width) (count : Nat)
    (buffer : OrderBuffer width) (holds : invariant store) :
    invariant (Chain.rebuild head count buffer store).store := by
  cases result : (Chain.rebuild head count buffer store).result with
  | error error => rwa [store_rebuild_of_error result]
  | ok newHead =>
      obtain ⟨within, sound, -⟩ := rebuild_of_ok result
      rw [rebuild_of_no_fault within sound]
      exact keeps.writeLinks (connectable_record within sound) holds

theorem perform (keeps : Keeps invariant) (operation : Operation width)
    (holds : invariant store) : invariant (operation.perform store) := by
  cases operation with
  | insert name =>
      rw [Operation.perform]
      split
      case h_1 => exact holds
      case h_2 fresh grown inserted => exact keeps.insert inserted holds
  | assemble names => exact keeps.assemble names holds
  | connect order => exact keeps.connect order holds
  | rebuild head count buffer => exact keeps.rebuild head count buffer holds
  | connectBuffer buffer =>
      rw [Operation.perform, store_connectBuffer]
      exact keeps.connect buffer.filled holds
  | clear => exact keeps.clear store

theorem run (keeps : Keeps invariant) (operations : List (Operation width))
    (holds : invariant store) : invariant (Operation.run operations store) := by
  induction operations generalizing store with
  | nil => exact holds
  | cons operation operations ih => exact ih (keeps.perform operation holds)

end Keeps

end Operation

namespace RemovalStore

variable {σ : Type} {width : Nat} [RemovalStore σ width (Node width)]

/-- What is done to a store of nodes that gives up single slots: besides the operations on any
store, removal. -/
inductive Operation (width : Nat) where
  | common (operation : ArenaChain.Operation width)
  | remove (handle : Handle width)

def Operation.perform : Operation width → σ → σ
  | .common operation, store => operation.perform store
  | .remove handle, store => (RemovalStore.remove handle store).2

def run (operations : List (Operation width)) (store : σ) : σ :=
  operations.foldl (fun store operation => operation.perform store) store

theorem run_induction {invariant : σ → Prop} (keeps : ArenaChain.Operation.Keeps invariant)
    (removed : ∀ (handle : Handle width) (store : σ),
      invariant store → invariant (remove handle store).2)
    (operations : List (Operation width)) {store : σ} (holds : invariant store) :
    invariant (run operations store) := by
  induction operations generalizing store with
  | nil => exact holds
  | cons operation operations ih =>
      cases operation with
      | common operation => exact ih (keeps.perform operation holds)
      | remove handle => exact ih (removed handle store holds)

end RemovalStore

end ArenaChain
