import ArenaChain.Proofs.Path
import ArenaChain.Proofs.Translation

/-!
# Stores that agree

Two stores agree when look-up finds the same in both, whatever their kind.  That is
to say that they correspond, with every handle and every value standing for itself
(`agree_iff_stores`).  So all that is done to chains has the same result on stores
that agree, and they agree afterwards.

Of the buffer that a chain is recorded in only the capacity matters
(`record_eq_of_capacity_eq`): what it held before is gone.
-/

namespace ArenaChain

variable {σ τ υ α : Type} {width : Nat} [Store σ width α] [Store τ width α] [Store υ width α]

/-- Look-up finds the same in both stores. -/
def Store.Agree (first : σ) (second : τ) : Prop :=
  ∀ handle : Handle width, Store.get? first handle = Store.get? second handle

namespace Store.Agree

variable {first : σ} {second : τ} {third : υ}

theorem refl (store : σ) : Agree store store := fun _ => rfl

theorem symm (agree : Agree first second) : Agree second first :=
  fun handle => (agree handle).symm

theorem trans (agree : Agree first second) (onward : Agree second third) :
    Agree first third :=
  fun handle => (agree handle).trans (onward handle)

theorem contains_eq (agree : Agree first second) (handle : Handle width) :
    Store.contains first handle = Store.contains second handle := by
  unfold Store.contains
  rw [agree handle]

end Store.Agree

/-- Stores agree if they correspond where handles and values stand for themselves. -/
theorem Store.agree_iff_stores [Linked α width] {first : σ} {second : τ} :
    Agree first second ↔ Correspondence.identical.Stores first second := by
  constructor
  · rintro agree handle _ rfl
    rw [agree handle]
    cases Store.get? second handle with
    | none => exact .none
    | some value => exact .some rfl
  · intro stores handle
    rcases stores.cases (rfl : handle = handle) with
      ⟨vacant, vacantToo⟩ | ⟨value, other, found, foundToo, same⟩
    · rw [vacant, vacantToo]
    · rw [found, foundToo]
      exact congrArg some same

namespace Chain

variable [Linked α width] {first : σ} {second : τ}

theorem Path.of_agree {head target : Handle width} {passed : List (Handle width)}
    (agree : Store.Agree first second) (path : Path first head passed target) :
    Path second head passed target := by
  induction path with
  | stay handle => exact .stay handle
  | @follow handle target passed value found onward ih =>
      rw [agree handle] at found
      exact .follow found ih

section Examination

variable {ρ β : Type} [Store ρ width β] [Linked β width] {other : ρ}

omit [Linked α width] [Linked β width] in
/-- An order is examined by asking which slots are occupied. -/
theorem orderFault?_eq_of_contains_eq
    (same : ∀ handle : Handle width, Store.contains first handle = Store.contains other handle)
    (seen order : List (Handle width)) :
    orderFault? first seen order = orderFault? other seen order := by
  induction order generalizing seen with
  | nil => rfl
  | cons handle others ih =>
      simp only [orderFault?, same handle, ih]

theorem connect_fst_eq_of_contains_eq
    (same : ∀ handle : Handle width, Store.contains first handle = Store.contains other handle)
    (order : List (Handle width)) : (connect order first).1 = (connect order other).1 := by
  unfold connect
  rw [orderFault?_eq_of_contains_eq same]
  split <;> rfl

end Examination

omit [Linked α width] in
theorem orderFault?_eq_of_agree (agree : Store.Agree first second)
    (seen order : List (Handle width)) :
    orderFault? first seen order = orderFault? second seen order :=
  orderFault?_eq_of_contains_eq agree.contains_eq seen order

theorem connect_fst_eq_of_agree (agree : Store.Agree first second)
    (order : List (Handle width)) :
    (connect order first).1 = (connect order second).1 :=
  connect_fst_eq_of_contains_eq agree.contains_eq order

theorem record_eq_of_agree (agree : Store.Agree first second) (head : Handle width)
    (declared : Nat) (buffer : OrderBuffer width) :
    record first head declared buffer = record second head declared buffer := by
  have recordings := Correspondence.record (Store.agree_iff_stores.mp agree) declared
    (rfl : head = head) (Correspondence.identical.buffers buffer)
  exact Correspondence.identical.eq_of_recordings recordings

theorem record_eq_of_capacity_eq (store : σ) (head : Handle width) (declared : Nat)
    {buffer other : OrderBuffer width} (same : buffer.capacity = other.capacity) :
    record store head declared buffer = record store head declared other := by
  have blank : buffer.clear = other.clear :=
    OrderBuffer.ext_of_filled (by simpa using same) (by simp)
  unfold record
  rw [blank]

/-- Rebuilding does not depend on what a large enough buffer held before. -/
theorem rebuild_eq_of_capacity_eq (head : Handle width) {count : Nat} (store : σ)
    {buffer other : OrderBuffer width} (within : count ≤ buffer.capacity)
    (same : buffer.capacity = other.capacity) :
    rebuild head count buffer store = rebuild head count other store := by
  unfold rebuild
  rw [if_neg (Nat.not_lt.mpr within), if_neg (Nat.not_lt.mpr (same ▸ within)),
    record_eq_of_capacity_eq store head count same]

/-- On stores that agree, rebuilding a chain comes to the same. -/
theorem rebuild_of_agree (agree : Store.Agree first second) (head : Handle width)
    (count : Nat) (buffer : OrderBuffer width) :
    (rebuild head count buffer first).result = (rebuild head count buffer second).result ∧
      (rebuild head count buffer first).buffer = (rebuild head count buffer second).buffer ∧
      (rebuild head count buffer first).events = (rebuild head count buffer second).events ∧
      Store.Agree (rebuild head count buffer first).store
        (rebuild head count buffer second).store := by
  obtain ⟨results, stores, buffers, events⟩ := Correspondence.simulation_stores.rebuild
    (Store.agree_iff_stores.mp agree) (rfl : head = head) count
    (Correspondence.identical.buffers buffer)
  exact ⟨Correspondence.identical.eq_of_results results,
    Correspondence.identical.eq_of_buffers buffers,
    Correspondence.identical.eq_of_events events, Store.agree_iff_stores.mpr stores⟩

end Chain

end ArenaChain
