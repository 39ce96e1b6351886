import ArenaChain.Chain.Traversal
import ArenaChain.ChainError

/-!
# Connecting slots into a chain

`connect` makes a chain of the slots named by an order, in exactly that order.
The whole order is examined before the first link is written: it must name
occupied slots, each once.  `writeLinks` does the writing without examination.

Main statements: `orderFault?_eq_none_iff` (what an order must satisfy) and
`get?_writeLinks_of_not_mem` (slots outside the order keep their values).
-/

namespace ArenaChain.Chain

variable {σ α : Type} {width : Nat} [Store σ width α]

/-- Link each slot of an order to the one behind it, and the last one to nothing. -/
def writeLinks [Linked α width] : List (Handle width) → σ → σ
  | [], store => store
  | [last], store => Store.writeLink last .nil store
  | handle :: successor :: others, store =>
    writeLinks (successor :: others) (Store.writeLink handle successor store)

/-- The first handle of an order that names a vacant slot or one named before,
among the handles before it or those already `seen`. -/
def orderFault? (store : σ) (seen : List (Handle width)) :
    List (Handle width) → Option (ChainError width)
  | [] => none
  | handle :: others =>
    if Store.contains store handle then
      if handle ∈ seen then some (.repeated handle)
      else orderFault? store (handle :: seen) others
    else some (.absent handle)

/-- Make a chain of the slots of an order and return its head; at a fault in the
order no link is written. -/
def connect [Linked α width] (order : List (Handle width)) (store : σ) :
    Except (ChainError width) (Handle width) × σ :=
  match orderFault? store [] order with
  | some error => (.error error, store)
  | none => (.ok (order.headD .nil), writeLinks order store)

/-- The first link of an order is written before the others. -/
theorem writeLinks_cons [Linked α width] (handle : Handle width) (others : List (Handle width))
    (store : σ) :
    writeLinks (handle :: others) store =
      writeLinks others (Store.writeLink handle (others.headD .nil) store) := by
  cases others <;> rfl

/-- What no link of an order makes a difference to is the same after all of them. -/
theorem view_writeLinks [Linked α width] {β : Type} (view : σ → β)
    {order : List (Handle width)}
    (kept : ∀ handle ∈ order, ∀ (target : Handle width) (store : σ),
      view (Store.writeLink handle target store) = view store) (store : σ) :
    view (writeLinks order store) = view store := by
  fun_induction writeLinks order store with
  | case1 => rfl
  | case2 last store => exact kept last List.mem_cons_self .nil store
  | case3 first successor others store ih =>
      have onward := ih fun handle member => kept handle (List.mem_cons_of_mem _ member)
      exact onward.trans (kept first List.mem_cons_self successor store)

@[simp]
theorem contains_writeLinks [Linked α width] (order : List (Handle width)) (store : σ)
    (handle : Handle width) :
    Store.contains (writeLinks order store) handle = Store.contains store handle :=
  view_writeLinks (Store.contains · handle)
    (fun written _ target store => Store.contains_writeLink written target store handle) store

theorem get?_writeLinks_of_not_mem [Linked α width] {order : List (Handle width)}
    {handle : Handle width} (outside : handle ∉ order) (store : σ) :
    Store.get? (writeLinks order store) handle = Store.get? store handle := by
  apply view_writeLinks (Store.get? · handle)
  intro written member target store
  have different : handle ≠ written := fun same => outside (same ▸ member)
  rw [Store.get?_writeLink, if_neg different]

private theorem orderFault?_eq_none_iff_of_seen (store : σ) (seen order : List (Handle width)) :
    orderFault? store seen order = none ↔
      (∀ handle ∈ order, Store.contains store handle = true ∧ handle ∉ seen) ∧
        order.Nodup := by
  induction order generalizing seen with
  | nil => simp [orderFault?]
  | cons handle others ih =>
      by_cases occupied : Store.contains store handle
      · by_cases again : handle ∈ seen
        · simp [orderFault?, occupied, again]
        · simp only [orderFault?, occupied, again, if_true, if_false, ih, List.nodup_cons]
          constructor
          · rintro ⟨fresh, nodup⟩
            refine ⟨?_, fun member => (fresh handle member).2 List.mem_cons_self, nodup⟩
            intro other member
            rcases List.mem_cons.mp member with rfl | member
            · exact ⟨occupied, again⟩
            · exact ⟨(fresh other member).1,
                fun named => (fresh other member).2 (List.mem_cons_of_mem _ named)⟩
          · rintro ⟨fresh, notMember, nodup⟩
            refine ⟨?_, nodup⟩
            intro other member
            have fine := fresh other (List.mem_cons_of_mem _ member)
            refine ⟨fine.1, fun named => ?_⟩
            rcases List.mem_cons.mp named with rfl | named
            · exact notMember member
            · exact fine.2 named
      · simp [orderFault?, occupied]

/-- An order is without fault exactly if it names occupied slots, each once. -/
theorem orderFault?_eq_none_iff {store : σ} {order : List (Handle width)} :
    orderFault? store [] order = none ↔
      (∀ handle ∈ order, Store.contains store handle = true) ∧ order.Nodup := by
  simpa using orderFault?_eq_none_iff_of_seen store [] order

theorem connect_of_fault [Linked α width] {order : List (Handle width)} {store : σ}
    {error : ChainError width} (fault : orderFault? store [] order = some error) :
    connect order store = (.error error, store) := by
  simp [connect, fault]

theorem connect_of_no_fault [Linked α width] {order : List (Handle width)} {store : σ}
    (sound : orderFault? store [] order = none) :
    connect order store = (.ok (order.headD .nil), writeLinks order store) := by
  simp [connect, sound]

end ArenaChain.Chain
