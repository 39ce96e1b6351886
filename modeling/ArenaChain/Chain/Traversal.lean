import ArenaChain.Store

/-!
# Traversing a chain

A chain is a head and the links behind it.  A cursor moves along the links until
it meets the end marker or a handle whose slot is vacant; from then on it stays
at the end marker.  A chain may also be cyclic, so a traversal takes a limit.

`Path` says the same as a relation: which handles are passed on the way from one
handle to another.
-/

namespace ArenaChain.Chain

variable {σ α : Type} {width : Nat} [Store σ width α] [Linked α width]

/-- The occupied slot under the cursor, if any, and the cursor afterwards.  At the end
marker nothing is looked up. -/
def advance (store : σ) (cursor : Handle width) : Option (Handle width × α) × Handle width :=
  if cursor = .nil then (none, .nil)
  else
    match Store.get? store cursor with
    | none => (none, .nil)
    | some value => (some (cursor, value), Linked.next value)

/-- The slots that a cursor passed, in order, and where it stands. -/
structure Traversal (width : Nat) (α : Type) where
  items : List (Handle width × α)
  cursor : Handle width

/-- Move a cursor until the chain ends or `limit` slots have been passed. -/
def traverse (store : σ) : (limit : Nat) → Handle width → Traversal width α
  | 0, cursor => ⟨[], cursor⟩
  | limit + 1, cursor =>
    match advance store cursor with
    | (none, stopped) => ⟨[], stopped⟩
    | (some item, successor) =>
      let onward := traverse store limit successor
      ⟨item :: onward.items, onward.cursor⟩

/-- A chain that ends, from its head on; a cyclic one is cut off once it has passed
as many slots as the store can have occupied. -/
def toList (store : σ) (head : Handle width) : List (Handle width × α) :=
  (traverse store (Store.extent store) head).items

/-- The links lead from one handle to another and pass exactly these handles. -/
inductive Path (store : σ) : Handle width → List (Handle width) → Handle width → Prop
  | stay (handle : Handle width) : Path store handle [] handle
  | follow {handle target : Handle width} {passed : List (Handle width)} {value : α}
      (found : Store.get? store handle = some value)
      (onward : Path store (Linked.next value) passed target) :
      Path store handle (handle :: passed) target

/-- The end marker needs no case of its own: no slot is found under it. -/
theorem advance_eq (store : σ) (cursor : Handle width) :
    advance store cursor =
      match Store.get? store cursor with
      | none => (none, .nil)
      | some value => (some (cursor, value), Linked.next value) := by
  unfold advance
  split
  case isTrue isNil => rw [isNil, Store.get?_nil]
  case isFalse => rfl

theorem advance_of_vacant {store : σ} {cursor : Handle width}
    (vacant : Store.get? store cursor = none) : advance store cursor = (none, .nil) := by
  rw [advance_eq, vacant]

theorem advance_of_occupied {store : σ} {cursor : Handle width} {value : α}
    (found : Store.get? store cursor = some value) :
    advance store cursor = (some (cursor, value), Linked.next value) := by
  rw [advance_eq, found]

@[simp]
theorem traverse_zero (store : σ) (cursor : Handle width) :
    traverse store 0 cursor = ⟨[], cursor⟩ := rfl

theorem traverse_of_vacant {store : σ} {cursor : Handle width} (limit : Nat)
    (vacant : Store.get? store cursor = none) :
    traverse store (limit + 1) cursor = ⟨[], .nil⟩ := by
  simp [traverse, advance_of_vacant vacant]

theorem traverse_of_occupied {store : σ} {cursor : Handle width} {value : α} (limit : Nat)
    (found : Store.get? store cursor = some value) :
    traverse store (limit + 1) cursor =
      ⟨(cursor, value) :: (traverse store limit (Linked.next value)).items,
        (traverse store limit (Linked.next value)).cursor⟩ := by
  simp [traverse, advance_of_occupied found]

/-- A traversal passes the slots of a path, and either the path goes on from the
cursor or it ends at a vacant slot before the limit is reached. -/
theorem path_traverse (store : σ) (limit : Nat) (head : Handle width) :
    ∃ target, Path store head ((traverse store limit head).items.map Prod.fst) target ∧
      ((traverse store limit head).cursor = target ∧
          (traverse store limit head).items.length = limit ∨
        (traverse store limit head).cursor = .nil ∧ Store.get? store target = none ∧
          (traverse store limit head).items.length < limit) := by
  induction limit generalizing head with
  | zero => exact ⟨head, .stay head, .inl ⟨rfl, rfl⟩⟩
  | succ limit ih =>
      cases found : Store.get? store head with
      | none =>
          rw [traverse_of_vacant limit found]
          exact ⟨head, .stay head, .inr ⟨rfl, found, Nat.zero_lt_succ limit⟩⟩
      | some value =>
          rw [traverse_of_occupied limit found]
          obtain ⟨target, onward, stop⟩ := ih (Linked.next value)
          refine ⟨target, .follow found onward, ?_⟩
          simpa using stop

end ArenaChain.Chain
