import ArenaChain.Proofs.Cursor
import ArenaChain.Proofs.Failure
import ArenaChain.Proofs.Frame

/-!
# Runs of linkings

A `Linking` is an attempt to give nodes links: an order is connected, be it given outright
or by way of a buffer, or a chain is rebuilt.  A run makes one attempt after the other and
goes on whether they succeed or not.

No attempt changes which slots are occupied.  Whether an order can be connected therefore
does not depend on what was attempted before, and the orders that a run imposes can be told
from the store that it starts with (`imposed_eq`).
-/

namespace ArenaChain

open Chain

/-- An attempt to give nodes links. -/
inductive Linking (width : Nat) where
  | connect (order : List (Handle width))
  | connectBuffer (buffer : OrderBuffer width)
  | rebuild (head : Handle width) (count : Nat) (buffer : OrderBuffer width)

namespace Linking

variable {σ α : Type} {width : Nat} [Store σ width α] [Linked α width]
variable {store other : σ} {linking : Linking width} {order : List (Handle width)}

/-- What came of an attempt, and the store afterwards. -/
def attempt : Linking width → σ → Except (ChainError width) (Handle width) × σ
  | .connect order, store => Chain.connect order store
  | .connectBuffer buffer, store =>
    let rebuilt := Chain.connectBuffer buffer store
    (rebuilt.result, rebuilt.store)
  | .rebuild head count buffer, store =>
    let rebuilt := Chain.rebuild head count buffer store
    (rebuilt.result, rebuilt.store)

def run (linkings : List (Linking width)) (store : σ) : σ :=
  linkings.foldl (fun store linking => (linking.attempt store).2) store

/-- The order that shall be connected; a rebuild leaves it to the chain. -/
def order? : Linking width → Option (List (Handle width))
  | .connect order => some order
  | .connectBuffer buffer => some buffer.filled
  | .rebuild .. => none

/-- The orders that were connected in a run, in the order of the attempts. -/
def imposed : List (Linking width) → σ → List (List (Handle width))
  | [], _ => []
  | linking :: others, store =>
    let (result, after) := linking.attempt store
    match linking.order?, result with
    | some order, .ok _ => order :: imposed others after
    | _, _ => imposed others after

/-- The order that shall be connected, or the whole chain that shall be rebuilt. -/
def members (store : σ) : Linking width → List (Handle width)
  | .connect order => order
  | .connectBuffer buffer => buffer.filled
  | .rebuild head _ _ => (Chain.toList store head).map Prod.fst

/-- The slots whose links an attempt writes: those of its order or chain, or none if it
fails. -/
def written (linking : Linking width) (store : σ) : List (Handle width) :=
  match (linking.attempt store).1 with
  | .ok _ => linking.members store
  | .error _ => []

/-- The order that shall be connected, if it can be in this store. -/
def accepted (store : σ) (linking : Linking width) : Option (List (Handle width)) :=
  linking.order?.filter fun order => (orderFault? store [] order).isNone

theorem run_append (first second : List (Linking width)) (store : σ) :
    run (first ++ second) store = run second (run first store) :=
  List.foldl_append

theorem attempt_eq_connect (imposes : linking.order? = some order) (store : σ) :
    linking.attempt store = Chain.connect order store := by
  cases linking with
  | connect order =>
      obtain rfl := Option.some.inj imposes
      rfl
  | connectBuffer buffer =>
      obtain rfl := Option.some.inj imposes
      exact Prod.ext (result_connectBuffer buffer store) (store_connectBuffer buffer store)
  | rebuild head count buffer => cases imposes

/-- An attempt fails and does nothing, or writes the links of its order or chain. -/
theorem attempt_cases (linking : Linking width) (store : σ) :
    (∃ error, linking.attempt store = (.error error, store)) ∨
      Connectable store (linking.members store) ∧
        linking.attempt store =
          (.ok ((linking.members store).headD .nil),
            writeLinks (linking.members store) store) := by
  have connects (order : List (Handle width)) :
      (∃ error, Chain.connect order store = (.error error, store)) ∨
        Connectable store order ∧
          Chain.connect order store = (.ok (order.headD .nil), writeLinks order store) := by
    cases fault : orderFault? store [] order with
    | some error => exact .inl ⟨error, connect_of_fault fault⟩
    | none => exact .inr ⟨connectable_iff.mpr fault, connect_of_no_fault fault⟩
  cases linking with
  | connect order => exact connects order
  | connectBuffer buffer =>
      rw [attempt_eq_connect rfl]
      exact connects buffer.filled
  | rebuild head count buffer =>
      cases result : (Chain.rebuild head count buffer store).result with
      | error error =>
          exact .inl ⟨error, Prod.ext result (store_rebuild_of_error result)⟩
      | ok newHead =>
          obtain ⟨within, sound, -⟩ := rebuild_of_ok result
          have recorded := connectable_record within sound
          rw [attempt, members, (path_of_no_fault within sound).1.map_fst_toList,
            rebuild_of_no_fault within sound]
          exact .inr ⟨recorded, rfl⟩

theorem connectable_written (linking : Linking width) (store : σ) :
    Connectable store (linking.written store) := by
  rcases linking.attempt_cases store with ⟨error, failed⟩ | ⟨sound, made⟩
  · rw [written, failed]
    exact ⟨by simp, .nil⟩
  · rwa [written, made]

theorem store_attempt (linking : Linking width) (store : σ) :
    (linking.attempt store).2 = writeLinks (linking.written store) store := by
  rcases linking.attempt_cases store with ⟨error, failed⟩ | ⟨-, made⟩
  · rw [written, failed]
    rfl
  · rw [written, made]

/-- An attempt changes links, never which slots are occupied. -/
@[simp]
theorem contains_attempt (linking : Linking width) (store : σ) (handle : Handle width) :
    Store.contains (linking.attempt store).2 handle = Store.contains store handle := by
  rw [store_attempt, contains_writeLinks]

theorem frame_attempt [Framed σ] (linking : Linking width) (store : σ) :
    Framed.frame (linking.attempt store).2 = Framed.frame store := by
  rw [store_attempt, Framed.frame_writeLinks]

theorem contains_run (linkings : List (Linking width)) (store : σ) (handle : Handle width) :
    Store.contains (run linkings store) handle = Store.contains store handle := by
  induction linkings generalizing store with
  | nil => rfl
  | cons linking others ih => exact (ih _).trans (contains_attempt linking store handle)

theorem accepted_run (linkings : List (Linking width)) (store : σ) :
    accepted (run linkings store) =
      (accepted store : Linking width → Option (List (Handle width))) := by
  funext linking
  unfold accepted
  congr 1
  funext order
  rw [orderFault?_eq_of_contains_eq (contains_run linkings store)]

/-- An attempt at an order comes to the same after any other attempts. -/
theorem result_attempt_run (imposes : linking.order? = some order)
    (linkings : List (Linking width)) (store : σ) :
    (linking.attempt (run linkings store)).1 = (linking.attempt store).1 := by
  rw [attempt_eq_connect imposes, attempt_eq_connect imposes]
  exact connect_fst_eq_of_contains_eq (contains_run linkings store) order

theorem accepted_of_ok {newHead : Handle width} (imposes : linking.order? = some order)
    (made : (linking.attempt store).1 = .ok newHead) : accepted store linking = some order := by
  rw [attempt_eq_connect imposes] at made
  have sound := connectable_iff.mp (connectable_of_connect made)
  simp [accepted, imposes, sound]

theorem imposed_cons (linking : Linking width) (others : List (Linking width)) (store : σ) :
    imposed (linking :: others) store =
      (accepted store linking).toList ++ imposed others (linking.attempt store).2 := by
  cases imposes : linking.order? with
  | none => simp [imposed, accepted, imposes]
  | some order =>
      cases fault : orderFault? store [] order with
      | some error =>
          have refused : (linking.attempt store).1 = .error error := by
            rw [attempt_eq_connect imposes, connect_of_fault fault]
          simp [imposed, accepted, imposes, refused, fault]
      | none =>
          have made : (linking.attempt store).1 = .ok (order.headD .nil) := by
            rw [attempt_eq_connect imposes, connect_of_no_fault fault]
          simp [imposed, accepted, imposes, made, Option.filter, fault]

theorem imposed_eq (linkings : List (Linking width)) (store : σ) :
    imposed linkings store = linkings.filterMap (accepted store) := by
  induction linkings generalizing store with
  | nil => rfl
  | cons linking others ih =>
      have same : accepted (linking.attempt store).2 =
          (accepted store : Linking width → Option (List (Handle width))) :=
        accepted_run [linking] store
      rw [imposed_cons, ih, same, List.filterMap_cons]
      cases accepted store linking <;> rfl

theorem imposed_append (first second : List (Linking width)) (store : σ) :
    imposed (first ++ second) store = imposed first store ++ imposed second store := by
  rw [imposed_eq, imposed_eq, imposed_eq, List.filterMap_append]

theorem imposed_singleton (linking : Linking width) (store : σ) :
    imposed [linking] store = (accepted store linking).toList := by
  rw [imposed_cons, imposed, List.append_nil]

end Linking

end ArenaChain
