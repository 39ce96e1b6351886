import ArenaChain.Proofs.Arrangement

/-!
# Orders that name a slot again

`connect` refuses an order that names a slot twice.  `writeLinks` does not: it gives such a
slot one link after the other, and the last of them stays.  That link leads to what stands
behind the last occurrence of the slot (`next_writeLinks`).

So a cursor among the slots of an order moves from one last occurrence to a later one
(`Follows`).  It passes over what stands between them, it cannot come back, and it stops
behind the last slot of the order: repetitions take slots out of a chain, and never make a
circle of it (`threads_connectUnexamined`).
-/

namespace ArenaChain.Chain

variable {width : Nat} {handle first : Handle width} {order others passed : List (Handle width)}

/-- The position of the last occurrence of a handle in an order that names it. -/
def lastPosition : List (Handle width) → Handle width → Nat
  | [], _ => 0
  | _ :: others, handle => if handle ∈ others then lastPosition others handle + 1 else 0

/-- The handle behind the last occurrence of a handle in an order; the end marker if the order
ends with that occurrence. -/
def lastSuccessor (order : List (Handle width)) (handle : Handle width) : Handle width :=
  order[lastPosition order handle + 1]?.getD .nil

theorem lastPosition_cons_of_mem (again : handle ∈ others) (first : Handle width) :
    lastPosition (first :: others) handle = lastPosition others handle + 1 := by
  simp [lastPosition, again]

theorem lastPosition_cons_of_not_mem (notAgain : handle ∉ others) (first : Handle width) :
    lastPosition (first :: others) handle = 0 := by
  simp [lastPosition, notAgain]

/-- At its last position a handle is named, and behind it no more. -/
theorem named_lastPosition (member : handle ∈ order) :
    order[lastPosition order handle]? = some handle ∧
      handle ∉ order.drop (lastPosition order handle + 1) := by
  induction order with
  | nil => cases member
  | cons first others ih =>
      by_cases again : handle ∈ others
      · simpa [lastPosition_cons_of_mem again] using ih again
      · obtain rfl : handle = first := by simpa [again] using member
        simpa [lastPosition_cons_of_not_mem again] using again

theorem lastSuccessor_cons_of_mem (again : handle ∈ others) (first : Handle width) :
    lastSuccessor (first :: others) handle = lastSuccessor others handle := by
  simp [lastSuccessor, lastPosition_cons_of_mem again]

theorem lastSuccessor_cons_of_not_mem (notAgain : handle ∉ others) (first : Handle width) :
    lastSuccessor (first :: others) handle = others.headD .nil := by
  cases others <;> simp [lastSuccessor, lastPosition_cons_of_not_mem notAgain]

/-- What a cursor passes that moves through an order from last occurrence to last occurrence,
up to the last slot of the order. -/
structure Follows (order passed : List (Handle width)) : Prop where
  inOrder : passed.Sublist order
  /-- No move leads back, or to the same place. -/
  onward : passed.Pairwise fun earlier later =>
    lastPosition order earlier < lastPosition order later
  last : passed.getLast? = order.getLast?

namespace Follows

theorem singleton (handle : Handle width) : Follows [handle] [handle] :=
  ⟨List.Sublist.refl _, List.pairwise_singleton _ _, rfl⟩

theorem nodup (follows : Follows order passed) : passed.Nodup :=
  follows.onward.imp fun before => by
    rintro rfl
    exact Nat.lt_irrefl _ before

/-- Another slot in front does not matter to a cursor that starts behind it. -/
theorem skip (follows : Follows others passed) (moves : others ≠ []) (first : Handle width) :
    Follows (first :: others) passed where
  inOrder := follows.inOrder.cons first
  onward := by
    refine follows.onward.imp_of_mem fun {earlier later} member memberToo before => ?_
    rw [lastPosition_cons_of_mem (follows.inOrder.subset member),
      lastPosition_cons_of_mem (follows.inOrder.subset memberToo)]
    exact Nat.succ_lt_succ before
  last := by rw [follows.last, List.getLast?_cons_of_ne_nil moves]

/-- A cursor starts in front if that slot is not named again. -/
theorem cons (follows : Follows others passed) (moves : others ≠ []) (fresh : first ∉ others) :
    Follows (first :: others) (first :: passed) where
  inOrder := follows.inOrder.cons_cons first
  onward := by
    refine List.pairwise_cons.mpr ⟨fun later member => ?_, (follows.skip moves first).onward⟩
    rw [lastPosition_cons_of_not_mem fresh,
      lastPosition_cons_of_mem (follows.inOrder.subset member)]
    exact Nat.succ_pos _
  last := by
    have passes : passed ≠ [] := by
      rintro rfl
      exact moves (List.getLast?_eq_none_iff.mp follows.last.symm)
    rw [List.getLast?_cons_of_ne_nil passes, List.getLast?_cons_of_ne_nil moves, follows.last]

end Follows

variable {σ α : Type} [Store σ width α] [Linked α width] {store after : σ}

/-- Of the links that a slot is given, the one behind its last occurrence stays. -/
theorem next_writeLinks (occupied : ∀ handle ∈ order, Store.contains store handle = true)
    (member : handle ∈ order) :
    (Store.get? (writeLinks order store) handle).map Linked.next =
      some (lastSuccessor order handle) := by
  induction order generalizing store with
  | nil => cases member
  | cons first others ih =>
      rw [writeLinks_cons]
      by_cases again : handle ∈ others
      · rw [lastSuccessor_cons_of_mem again]
        refine ih (fun other named => ?_) again
        rw [Store.contains_writeLink]
        exact occupied other (List.mem_cons_of_mem _ named)
      · obtain rfl : handle = first := by simpa [again] using member
        obtain ⟨value, found⟩ := Store.contains_iff.mp (occupied handle List.mem_cons_self)
        rw [get?_writeLinks_of_not_mem again, Store.get?_writeLink, if_pos rfl, found,
          lastSuccessor_cons_of_not_mem again]
        simp

/-- Slots that are linked behind their last occurrences in an order make up chains that go
through the order and close. -/
theorem exists_path_of_links
    (links : ∀ handle ∈ order,
      (Store.get? after handle).map Linked.next = some (lastSuccessor order handle))
    (member : handle ∈ order) :
    ∃ passed, Path after handle passed .nil ∧ Follows order passed := by
  -- By induction from the back: a slot that is named again starts a chain there, and one that
  -- is not leads to the next slot, which is named behind it.
  induction order generalizing handle with
  | nil => cases member
  | cons first others ih =>
      have linksBehind : ∀ handle ∈ others,
          (Store.get? after handle).map Linked.next = some (lastSuccessor others handle) := by
        intro handle again
        rw [links handle (List.mem_cons_of_mem _ again), lastSuccessor_cons_of_mem again]
      by_cases again : handle ∈ others
      · obtain ⟨passed, path, follows⟩ := ih linksBehind again
        exact ⟨passed, path, follows.skip (List.ne_nil_of_mem again) first⟩
      · obtain rfl : handle = first := by simpa [again] using member
        have link := links handle member
        rw [lastSuccessor_cons_of_not_mem again, Option.map_eq_some_iff] at link
        obtain ⟨value, found, next⟩ := link
        cases others with
        | nil => exact ⟨[handle], .follow found (next ▸ .stay _), .singleton handle⟩
        | cons second others =>
            obtain ⟨passed, path, follows⟩ := ih linksBehind List.mem_cons_self
            exact ⟨handle :: passed, .follow found (next ▸ path),
              follows.cons (List.cons_ne_nil _ _) again⟩

/-- What becomes of a store in which the slots of an order were linked without examination. -/
structure Threads (before : σ) (order : List (Handle width))
    (result : Except (ChainError width) (Handle width)) (after : σ) : Prop where
  /-- Each slot leads to the one behind its last occurrence. -/
  links : ∀ handle ∈ order,
    order[lastPosition order handle]? = some handle ∧
      handle ∉ order.drop (lastPosition order handle + 1) ∧
      (Store.get? after handle).map Linked.next =
        some (order[lastPosition order handle + 1]?.getD .nil)
  /-- Nothing else about the values in the slots is changed. -/
  kept : ∀ {β : Type} (payload : α → β),
    (∀ target value, payload (Linked.withNext target value) = payload value) →
      ∀ handle : Handle width,
        (Store.get? after handle).map payload = (Store.get? before handle).map payload
  outside : ∀ handle ∉ order, Store.get? after handle = Store.get? before handle
  /-- From the head that is returned the chain runs through the order and closes. -/
  chain : ∃ head items, order.head? = some head ∧ result = .ok head ∧
    Closes after head items ∧ (items.map Prod.fst).Nodup ∧ Follows order (items.map Prod.fst) ∧
      (order.Nodup → items.map Prod.fst = order)
  closes : ∀ handle ∈ order, ∃ items, Closes after handle items ∧
    Follows order (items.map Prod.fst)
  noCircle : ∀ handle ∈ order, ∀ passed ≠ [], ¬ Path after handle passed handle

/-- Linking the slots of an order without examination makes no circle, whichever slots the
order names again: each slot is linked behind its last occurrence, so that the chain from the
first slot on follows the order, leaves out what repetitions enclose, and closes behind the
last slot. -/
theorem threads_connectUnexamined (named : order ≠ [])
    (occupied : ∀ handle ∈ order, Store.contains store handle = true) :
    Threads store order (connectUnexamined order store).1 (connectUnexamined order store).2 := by
  have links : ∀ handle ∈ order,
      (Store.get? (writeLinks order store) handle).map Linked.next =
        some (lastSuccessor order handle) := fun _ => next_writeLinks occupied
  have closes : ∀ handle ∈ order, ∃ items, Closes (writeLinks order store) handle items ∧
      Follows order (items.map Prod.fst) := by
    intro handle member
    obtain ⟨passed, path, follows⟩ := exists_path_of_links links member
    obtain ⟨items, rfl, closes⟩ := path.exists_closes
    exact ⟨items, closes, follows⟩
  refine
    { links := fun handle member =>
        ⟨(named_lastPosition member).1, (named_lastPosition member).2, links handle member⟩
      kept := fun payload kept handle => map_get?_writeLinks kept order store handle
      outside := fun handle outside => get?_writeLinks_of_not_mem outside store
      chain := ?_
      closes
      noCircle := ?_ }
  · obtain ⟨head, others, rfl⟩ := List.exists_cons_of_ne_nil named
    obtain ⟨items, chain, follows⟩ := closes head List.mem_cons_self
    refine ⟨head, items, rfl, rfl, chain, follows.nodup, follows, fun nodup => ?_⟩
    have sound : Connectable store (head :: others) := ⟨occupied, nodup⟩
    have inFull := path_writeLinks sound
    exact (chain.path.eq_of_vacant (Store.get?_nil _) inFull (Store.get?_nil _)).1
  · intro handle member passed moves circle
    obtain ⟨items, chain, -⟩ := closes handle member
    exact moves (chain.path.eq_nil_of_circle (Store.get?_nil _) circle)

/-- The order enters two loops that cross.  The chain leaves the first one at the last
occurrence of 1 and the second one at that of 2, so it does not come by 3. -/
theorem threads_connectUnexamined_tangle :
    let order : List (Handle 8) := [⟨0⟩, ⟨1⟩, ⟨2⟩, ⟨3⟩, ⟨1⟩, ⟨4⟩, ⟨2⟩, ⟨5⟩]
    (order ≠ [] ∧ ∀ handle ∈ order, Store.contains tangle handle = true) ∧
      Threads tangle order (connectUnexamined order tangle).1
        (connectUnexamined order tangle).2 := by
  intro order
  have named : order ≠ [] := List.cons_ne_nil _ _
  have occupied : ∀ handle ∈ order, Store.contains tangle handle = true := by decide
  exact ⟨⟨named, occupied⟩, threads_connectUnexamined named occupied⟩

example :
    let after := writeLinks [⟨0⟩, ⟨1⟩, ⟨2⟩, ⟨3⟩, ⟨1⟩, ⟨4⟩, ⟨2⟩, ⟨5⟩] tangle
    (toList after ⟨0⟩).map Prod.fst = [⟨0⟩, ⟨1⟩, ⟨4⟩, ⟨2⟩, ⟨5⟩] ∧
      (toList after ⟨3⟩).map Prod.fst = [⟨3⟩, ⟨1⟩, ⟨4⟩, ⟨2⟩, ⟨5⟩] := by
  decide

end ArenaChain.Chain
