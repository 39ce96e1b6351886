import ArenaChain.Proofs.Connectable

/-!
# The link that an order gives to a slot

An order that names no slot twice gives each of its slots one link, to the slot behind it or
to the end marker (`successor`).  These are the links that connecting the order writes
(`get?_writeLinks`), and those that a chain has which runs in this order
(`Path.next_eq_successor`).
-/

namespace ArenaChain.Chain

variable {σ α : Type} {width : Nat} [Store σ width α] [Linked α width]
variable {store : σ} {head target handle : Handle width} {order : List (Handle width)}

/-- The handle behind the first occurrence of a handle in an order; the end marker if there
is none. -/
def successor : List (Handle width) → Handle width → Handle width
  | [], _ => .nil
  | first :: others, handle => if handle = first then others.headD .nil else successor others handle

@[simp]
theorem successor_cons_self (others : List (Handle width)) :
    successor (handle :: others) handle = others.headD .nil := by
  simp [successor]

theorem successor_cons_of_ne {first : Handle width} (different : handle ≠ first)
    (others : List (Handle width)) :
    successor (first :: others) handle = successor others handle := by
  simp [successor, different]

/-- Writing the links of an order gives each of its slots its link, and leaves the other
slots alone. -/
theorem get?_writeLinks (nodup : order.Nodup) (store : σ) (handle : Handle width) :
    Store.get? (writeLinks order store) handle =
      if handle ∈ order then
        (Store.get? store handle).map (Linked.withNext (successor order handle))
      else Store.get? store handle := by
  split
  case isFalse outside => exact get?_writeLinks_of_not_mem outside store
  case isTrue member =>
    induction order generalizing store with
    | nil => cases member
    | cons first others ih =>
        obtain ⟨firstOutside, othersNodup⟩ := List.nodup_cons.mp nodup
        rw [writeLinks_cons]
        by_cases same : handle = first
        · -- This link is written first, and its slot is not named again.
          subst same
          rw [get?_writeLinks_of_not_mem firstOutside, Store.get?_writeLink, if_pos rfl,
            successor_cons_self]
        · have onward : handle ∈ others := by simpa [same] using member
          rw [ih othersNodup _ onward, Store.get?_writeLink, if_neg same, successor_cons_of_ne same]

theorem Path.next_eq_successor {passed : List (Handle width)} {value : α}
    (path : Path store head passed .nil) (member : handle ∈ passed)
    (found : Store.get? store handle = some value) :
    Linked.next value = successor passed handle := by
  induction passed generalizing head with
  | nil => cases member
  | cons first others ih =>
      obtain ⟨rfl, held, foundFirst, onward⟩ := Path.cons_iff.mp path
      by_cases same : handle = head
      · subst same
        rw [found, Option.some.injEq] at foundFirst
        rw [foundFirst, successor_cons_self, onward.headD_eq]
      · rw [successor_cons_of_ne same]
        exact ih onward (by simpa [same] using member)

end ArenaChain.Chain
