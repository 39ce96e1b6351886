import ArenaChain.Proofs.Connectable
import ArenaChain.Proofs.Agreement
import Mathlib.Data.List.Nodup

/-!
# The first fault of an order

An order is examined handle by handle, with a note of the handles that were seen.  What is
wrong with the handle at a position can be said without such a note: it names a vacant slot,
or it stands at an earlier position too (`FaultAt`).  The examination finds the first position
at which something is wrong, and nothing behind that position matters
(`orderFault?_eq_some_iff`).

The note may hold the numbers of the handles in place of the handles, since no two handles
have the same number (`orderFaultByNumber?_eq`).
-/

namespace ArenaChain.Chain

variable {σ α : Type} {width : Nat} [Store σ width α]
variable {store : σ} {order other : List (Handle width)} {position limit : Nat}
variable {error : ChainError width}

/-- Something is wrong with the handle at a position of an order: it names a vacant slot, or
else it stands at an earlier position as well. -/
inductive FaultAt (store : σ) (order : List (Handle width)) (position : Nat) :
    ChainError width → Prop
  | absent {handle : Handle width} (found : order[position]? = some handle)
      (vacant : Store.contains store handle = false) :
      FaultAt store order position (.absent handle)
  | repeated {handle : Handle width} (found : order[position]? = some handle)
      (occupied : Store.contains store handle = true) {earlier : Nat} (before : earlier < position)
      (same : order[earlier]? = some handle) :
      FaultAt store order position (.repeated handle)

/-- The handle at this position is the first of an order with which something is wrong. -/
structure FirstFault (store : σ) (order : List (Handle width)) (position : Nat)
    (error : ChainError width) : Prop where
  fault : FaultAt store order position error
  first : ∀ earlier < position, ∀ other, ¬FaultAt store order earlier other

/-- The first fault of an order, found with a note of the numbers of the handles seen. -/
def orderFaultByNumber? (store : σ) (seen : Std.HashSet Nat) :
    List (Handle width) → Option (ChainError width)
  | [] => none
  | handle :: others =>
    if Store.contains store handle then
      if handle.toNat ∈ seen then some (.repeated handle)
      else orderFaultByNumber? store (seen.insert handle.toNat) others
    else some (.absent handle)

theorem orderFaultByNumber?_eq {numbers : Std.HashSet Nat} {seen : List (Handle width)}
    (same : ∀ handle : Handle width, handle.toNat ∈ numbers ↔ handle ∈ seen)
    (order : List (Handle width)) :
    orderFaultByNumber? store numbers order = orderFault? store seen order := by
  induction order generalizing numbers seen with
  | nil => rfl
  | cons first others ih =>
      have sameOnward : ∀ handle : Handle width,
          handle.toNat ∈ numbers.insert first.toNat ↔ handle ∈ first :: seen := by
        intro handle
        rw [Std.HashSet.mem_insert, List.mem_cons, same, beq_iff_eq, Handle.toNat_inj, eq_comm]
      simp only [orderFaultByNumber?, orderFault?, same, ih sameOnward]

namespace FaultAt

/-- Handles behind a position have no part in what is wrong there. -/
theorem of_take_eq (agree : other.take limit = order.take limit) (within : position < limit)
    (fault : FaultAt store order position error) : FaultAt store other position error := by
  have sameAt (place : Nat) (bound : place < limit) : other[place]? = order[place]? := by
    rw [← List.getElem?_take_of_lt bound, agree, List.getElem?_take_of_lt bound]
  cases fault with
  | absent found vacant => exact .absent ((sameAt position within).trans found) vacant
  | repeated found occupied before same =>
      exact .repeated ((sameAt position within).trans found) occupied before
        ((sameAt _ (Nat.lt_trans before within)).trans same)

theorem of_take (fault : FaultAt store (order.take limit) position error) :
    position < limit ∧ FaultAt store order position error := by
  have within : position < limit := by
    cases fault with
    | absent found _ => simp_all [List.getElem?_take]
    | repeated found _ _ _ => simp_all [List.getElem?_take]
  exact ⟨within, fault.of_take_eq (by rw [List.take_take, Nat.min_self]) within⟩

end FaultAt

/-- An order with which nothing is wrong anywhere names occupied slots, each once. -/
theorem connectable_iff_not_faultAt :
    Connectable store order ↔ ∀ position error, ¬FaultAt store order position error := by
  constructor
  · intro sound position error fault
    cases fault with
    | absent found vacant =>
        rw [sound.occupied _ (List.mem_of_getElem? found)] at vacant
        cases vacant
    | repeated found occupied before same =>
        have bound := (List.getElem?_eq_some_iff.mp found).1
        exact List.nodup_iff_getElem?_ne_getElem?.mp sound.nodup _ _ before bound
          (same.trans found.symm)
  · intro fine
    have occupied : ∀ handle ∈ order, Store.contains store handle = true := by
      intro handle member
      obtain ⟨position, found⟩ := List.mem_iff_getElem?.mp member
      exact Bool.of_not_eq_false fun vacant => fine position _ (.absent found vacant)
    refine ⟨occupied, List.nodup_iff_getElem?_ne_getElem?.mpr ?_⟩
    intro earlier position before bound same
    have found := List.getElem?_eq_getElem bound
    have held := occupied _ (List.getElem_mem bound)
    exact fine position _ (.repeated found held before (same.trans found))

/-- What was examined without a fault only adds to the handles seen. -/
theorem orderFault?_append (seen front back : List (Handle width)) :
    orderFault? store seen (front ++ back) =
      (orderFault? store seen front).or (orderFault? store (front.reverse ++ seen) back) := by
  induction front generalizing seen with
  | nil => rfl
  | cons handle front ih =>
      simp only [List.cons_append, orderFault?, List.reverse_cons, List.append_assoc,
        List.nil_append]
      split
      · split
        · rfl
        · exact ih (handle :: seen)
      · rfl

/-- The handles in front of the first fault can be connected. -/
theorem firstFault_iff :
    FirstFault store order position error ↔
      FaultAt store order position error ∧ Connectable store (order.take position) := by
  rw [connectable_iff_not_faultAt]
  constructor
  · rintro ⟨fault, first⟩
    refine ⟨fault, fun earlier different faultBefore => ?_⟩
    obtain ⟨before, faultInOrder⟩ := faultBefore.of_take
    exact first earlier before different faultInOrder
  · rintro ⟨fault, fine⟩
    refine ⟨fault, fun earlier before different faultBefore => ?_⟩
    have same : (order.take position).take position = order.take position := by
      rw [List.take_take, Nat.min_self]
    exact fine earlier different (faultBefore.of_take_eq same before)

namespace FirstFault

theorem of_take_eq (agree : other.take (position + 1) = order.take (position + 1))
    (firstFault : FirstFault store order position error) :
    FirstFault store other position error where
  fault := firstFault.fault.of_take_eq agree (Nat.lt_succ_self position)
  first earlier before different fault :=
    firstFault.first earlier before different
      (fault.of_take_eq agree.symm (Nat.lt_succ_of_lt before))

theorem orderFault?_eq (firstFault : FirstFault store order position error) :
    orderFault? store [] order = some error := by
  -- Nothing is wrong in front of the position, so all of that is seen when it is reached.
  have front := connectable_iff.mp (firstFault_iff.mp firstFault).2
  rw [← List.take_append_drop position order, orderFault?_append, front, Option.none_or,
    List.append_nil]
  cases firstFault.fault with
  | absent found vacant =>
      obtain ⟨bound, rfl⟩ := List.getElem?_eq_some_iff.mp found
      rw [List.drop_eq_getElem_cons bound, orderFault?, vacant]
      rfl
  | repeated found occupied before same =>
      obtain ⟨bound, rfl⟩ := List.getElem?_eq_some_iff.mp found
      have seen : order[position] ∈ (order.take position).reverse := by
        rw [List.mem_reverse]
        exact List.mem_of_getElem? ((List.getElem?_take_of_lt before).trans same)
      rw [List.drop_eq_getElem_cons bound, orderFault?, if_pos occupied, if_pos seen]

end FirstFault

theorem exists_firstFault (fault : FaultAt store order position error) :
    ∃ first found, FirstFault store order first found := by
  induction position using Nat.strongRecOn generalizing error with
  | ind position ih =>
      by_cases before : ∃ earlier < position, ∃ found, FaultAt store order earlier found
      · obtain ⟨earlier, bound, found, faultBefore⟩ := before
        exact ih earlier bound faultBefore
      · push Not at before
        exact ⟨position, error, fault, before⟩

/-- Examining an order finds the first fault in it. -/
theorem orderFault?_eq_some_iff :
    orderFault? store [] order = some error ↔
      ∃ position, FirstFault store order position error := by
  constructor
  · intro found
    have unsound : ¬Connectable store order := by
      rw [connectable_iff, found]
      simp
    rw [connectable_iff_not_faultAt] at unsound
    push Not at unsound
    obtain ⟨position, different, fault⟩ := unsound
    obtain ⟨first, same, firstFault⟩ := exists_firstFault fault
    obtain rfl : error = same := Option.some.inj (found.symm.trans firstFault.orderFault?_eq)
    exact ⟨first, firstFault⟩
  · rintro ⟨position, firstFault⟩
    exact firstFault.orderFault?_eq

variable [Linked α width]

theorem connect_eq_error_iff :
    (connect order store).1 = .error error ↔ orderFault? store [] order = some error := by
  cases fault : orderFault? store [] order with
  | none => simp [connect_of_no_fault fault]
  | some found => simp [connect_of_fault fault]

theorem exists_connect_eq_ok_iff :
    (∃ newHead, (connect order store).1 = .ok newHead) ↔ Connectable store order := by
  constructor
  · rintro ⟨newHead, linked⟩
    exact connectable_of_connect linked
  · intro sound
    rw [sound.connect_eq]
    exact ⟨_, rfl⟩

/-- An order is connected if it names occupied slots, each once.  Otherwise the first position
with a handle that names a vacant slot or stands at an earlier position is reported, whatever
comes behind it, whatever links there are, and also if the order is given by way of a buffer. -/
theorem connect_reports_first_fault (order : List (Handle width)) (store : σ) :
    ((∃ newHead, (connect order store).1 = .ok newHead) ↔
        (∀ handle ∈ order, Store.contains store handle = true) ∧ order.Nodup) ∧
      (∀ error, (connect order store).1 = .error error ↔
        ∃ position, FirstFault store order position error) ∧
      (∀ position, order[position]? = some .nil → FaultAt store order position (.absent .nil)) ∧
      (∀ position error, FirstFault store order position error →
        ∀ other, other.take (position + 1) = order.take (position + 1) →
          (connect other store).1 = .error error) ∧
      orderFaultByNumber? store ∅ order = orderFault? store [] order ∧
      ∀ {τ β : Type} [Store τ width β] [Linked β width] (relinked : τ),
        (∀ handle, Store.contains relinked handle = Store.contains store handle) →
          ∀ buffer : OrderBuffer width, buffer.filled = order →
            (connectBuffer buffer relinked).result = (connect order store).1 := by
  refine ⟨?_, ?_, ?_, ?_, ?_, ?_⟩
  · rw [exists_connect_eq_ok_iff, connectable_iff, orderFault?_eq_none_iff]
  · intro error
    rw [connect_eq_error_iff, orderFault?_eq_some_iff]
  · exact fun position found => .absent found (Store.contains_nil store)
  · intro position error firstFault other agree
    rw [connect_eq_error_iff]
    exact (firstFault.of_take_eq agree).orderFault?_eq
  · exact orderFaultByNumber?_eq (by simp) order
  · rintro τ β _ _ relinked same buffer rfl
    rw [result_connectBuffer]
    exact connect_fst_eq_of_contains_eq same buffer.filled

/-- The first of three faults is a handle named twice; a vacant slot and the end marker come
behind it. -/
theorem connect_reports_first_fault_tangle :
    let order : List (Handle 8) := [⟨6⟩, ⟨4⟩, ⟨6⟩, ⟨9⟩, .nil]
    FirstFault tangle order 2 (.repeated ⟨6⟩) ∧
      (connect order tangle).1 = .error (.repeated ⟨6⟩) ∧
      (connect [⟨6⟩, ⟨4⟩, ⟨6⟩, ⟨1⟩] tangle).1 = .error (.repeated ⟨6⟩) ∧
      FaultAt tangle order 4 (.absent .nil) ∧
      ∃ buffer : OrderBuffer 8, buffer.filled = [⟨4⟩, ⟨4⟩, ⟨4⟩] ∧
        (connectBuffer buffer (connect [⟨4⟩, ⟨0⟩] tangle).2).result =
          (connect [⟨4⟩, ⟨4⟩, ⟨4⟩] tangle).1 := by
  intro order
  obtain ⟨-, reported, nil, onward, -, -⟩ := connect_reports_first_fault order tangle
  have repeated : FaultAt tangle order 2 (.repeated ⟨6⟩) :=
    .repeated rfl rfl (by decide : 0 < 2) rfl
  have first : FirstFault tangle order 2 (.repeated ⟨6⟩) :=
    firstFault_iff.mpr ⟨repeated, connectable_iff.mpr rfl⟩
  refine ⟨first, (reported _).mpr ⟨2, first⟩, onward 2 _ first _ rfl, nil 4 rfl, ?_⟩
  have unchanged (handle : Handle 8) :
      Store.contains (connect [⟨4⟩, ⟨0⟩] tangle).2 handle = Store.contains tangle handle :=
    contains_writeLinks _ tangle handle
  exact ⟨(record tangle ⟨4⟩ 3 (.empty 4)).buffer, rfl,
    (connect_reports_first_fault [⟨4⟩, ⟨4⟩, ⟨4⟩] tangle).2.2.2.2.2 _ unchanged _ rfl⟩

end ArenaChain.Chain
