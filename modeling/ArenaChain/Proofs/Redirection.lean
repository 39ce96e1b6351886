import ArenaChain.Proofs.Arrangement

/-!
# Chains that run into a new one

Connecting an order rewrites the links of its slots and of no others.  A chain that
never comes to one of these slots (`Misses`) is therefore what it was, be it endless
or not.  Any other chain is what it was up to the first of these slots (`Meets`); from
there it goes on as the new chain does, and closes with it.
-/

namespace ArenaChain.Chain

variable {σ α : Type} {width : Nat} [Store σ width α] [Linked α width]
variable {store : σ} {head meeting : Handle width} {order : List (Handle width)}
variable {item : Handle width × α} {before : List (Handle width × α)} {value : α}

/-- A cursor from `head` never comes to a slot of the order. -/
def Misses (store : σ) (head : Handle width) (order : List (Handle width)) : Prop :=
  ∀ limit, ∀ item ∈ (traverse store limit head).items, item.1 ∉ order

/-- A cursor from `head` passes these items before it comes to `meeting`, its first slot
of the order. -/
structure Meets (store : σ) (head : Handle width) (order : List (Handle width))
    (before : List (Handle width × α)) (meeting : Handle width) : Prop where
  passes : ∃ limit value, (traverse store limit head).items = before ++ [(meeting, value)]
  outside : ∀ item ∈ before, item.1 ∉ order
  mem : meeting ∈ order

theorem Misses.of_occupied (misses : Misses store head order)
    (found : Store.get? store head = some value) :
    head ∉ order ∧ Misses store (Linked.next value) order := by
  constructor
  · apply misses 1 (head, value)
    simp [traverse_of_occupied 0 found]
  · intro limit item member
    apply misses (limit + 1) item
    rw [traverse_of_occupied limit found]
    exact List.mem_cons_of_mem _ member

theorem traverse_writeLinks_of_misses (misses : Misses store head order) (limit : Nat) :
    traverse (writeLinks order store) limit head = traverse store limit head := by
  induction limit generalizing head with
  | zero => rfl
  | succ limit ih =>
      cases found : Store.get? store head with
      | none =>
          have vacant : Store.get? (writeLinks order store) head = none := by
            have same := contains_writeLinks order store head
            simpa [Store.contains, found] using same
          rw [traverse_of_vacant limit vacant, traverse_of_vacant limit found]
      | some value =>
          obtain ⟨outside, onward⟩ := misses.of_occupied found
          have kept := (get?_writeLinks_of_not_mem outside store).trans found
          rw [traverse_of_occupied limit kept, traverse_of_occupied limit found, ih onward]

theorem Meets.follow (meets : Meets store (Linked.next value) order before meeting)
    (found : Store.get? store head = some value) (outside : head ∉ order) :
    Meets store head order ((head, value) :: before) meeting := by
  obtain ⟨limit, last, passed⟩ := meets.passes
  refine ⟨⟨limit + 1, last, ?_⟩, ?_, meets.mem⟩
  · rw [traverse_of_occupied limit found, passed]
    rfl
  · intro item member
    rcases List.mem_cons.mp member with rfl | member
    · exact outside
    · exact meets.outside item member

theorem exists_meets_of_mem {limit : Nat} (member : item ∈ (traverse store limit head).items)
    (named : item.1 ∈ order) : ∃ before meeting, Meets store head order before meeting := by
  induction limit generalizing head with
  | zero => cases member
  | succ limit ih =>
      cases found : Store.get? store head with
      | none =>
          rw [traverse_of_vacant limit found] at member
          cases member
      | some value =>
          by_cases here : head ∈ order
          · exact ⟨[], head, ⟨1, value, by simp [traverse_of_occupied 0 found]⟩, by simp, here⟩
          · rw [traverse_of_occupied limit found] at member
            rcases List.mem_cons.mp member with rfl | member
            · exact absurd named here
            · obtain ⟨before, meeting, meets⟩ := ih member
              exact ⟨_, meeting, meets.follow found here⟩

theorem exists_meets_of_not_misses (comes : ¬ Misses store head order) :
    ∃ before meeting, Meets store head order before meeting := by
  unfold Misses at comes
  push Not at comes
  obtain ⟨limit, item, member, named⟩ := comes
  exact exists_meets_of_mem member named

theorem Meets.eq_head (meets : Meets store head order [] meeting) : meeting = head := by
  obtain ⟨limit, last, passed⟩ := meets.passes
  obtain ⟨target, path, -⟩ := path_traverse store limit head
  rw [passed] at path
  exact (Path.cons_iff.mp path).1.symm

theorem Meets.of_cons (meets : Meets store head order (item :: before) meeting) :
    item.1 = head ∧ Store.get? store head = some item.2 ∧
      Meets store (Linked.next item.2) order before meeting := by
  obtain ⟨limit, last, passed⟩ := meets.passes
  cases limit with
  | zero => cases passed
  | succ limit =>
      cases found : Store.get? store head with
      | none =>
          rw [traverse_of_vacant limit found] at passed
          cases passed
      | some value =>
          rw [traverse_of_occupied limit found, List.cons_append, List.cons.injEq] at passed
          obtain ⟨rfl, onward⟩ := passed
          refine ⟨rfl, rfl, ⟨limit, last, onward⟩, ?_, meets.mem⟩
          exact fun other member => meets.outside other (List.mem_cons_of_mem _ member)

/-- From any of its slots on, a cursor passes the rest of a connected order. -/
theorem exists_closes_of_mem (sound : Connectable store order) (member : head ∈ order) :
    ∃ rest : List (Handle width × α), rest.map Prod.fst = order.dropWhile (· ≠ head) ∧
      Closes (writeLinks order store) head rest := by
  obtain ⟨front, back, rfl, first⟩ := List.eq_append_cons_of_mem member
  have others : ∀ handle ∈ front, decide (handle ≠ head) = true := by
    intro handle before
    rw [decide_eq_true_eq]
    rintro rfl
    exact first before
  rw [List.dropWhile_append_of_pos others, List.dropWhile_cons_of_neg (by simp)]
  exact (path_writeLinks_of_append sound).exists_closes

theorem Meets.exists_closes (meets : Meets store head order before meeting)
    (sound : Connectable store order) :
    ∃ rest : List (Handle width × α), rest.map Prod.fst = order.dropWhile (· ≠ meeting) ∧
      Closes (writeLinks order store) head (before ++ rest) := by
  -- Slots outside the order keep their links, so the cursor passes them as it did before.
  induction before generalizing head with
  | nil =>
      rw [← meets.eq_head]
      exact exists_closes_of_mem sound meets.mem
  | cons item before ih =>
      obtain ⟨rfl, found, onward⟩ := meets.of_cons
      have outside := meets.outside item List.mem_cons_self
      obtain ⟨rest, suffix, closes⟩ := ih onward
      refine ⟨rest, suffix, closes_cons_iff.mpr ⟨rfl, ?_, closes⟩⟩
      rwa [get?_writeLinks_of_not_mem outside]

/-- What connecting an order does to the chain from any head: nothing, if the chain never
comes to the order, and otherwise it leads the chain from the first slot of the order that
it comes to along the rest of the order, and there the chain closes. -/
theorem connect_redirects {newHead : Handle width}
    (linked : (connect order store).1 = .ok newHead) (head : Handle width) :
    (Misses store head order →
        ∀ limit, traverse (connect order store).2 limit head = traverse store limit head) ∧
      (¬ Misses store head order →
        ∃ before meeting, Meets store head order before meeting ∧
          ∃ rest : List (Handle width × α),
            rest.map Prod.fst = order.dropWhile (· ≠ meeting) ∧
              Closes (connect order store).2 head (before ++ rest)) := by
  have sound := connectable_of_connect linked
  rw [sound.connect_eq]
  constructor
  · exact fun misses limit => traverse_writeLinks_of_misses misses limit
  · intro comes
    obtain ⟨before, meeting, meets⟩ := exists_meets_of_not_misses comes
    exact ⟨before, meeting, meets, meets.exists_closes sound⟩

/-- The circle of `tangle` is missed, and the chain that broke off closes. -/
theorem connect_redirects_tangle :
    (connect [⟨6⟩, ⟨1⟩] tangle).1 = .ok ⟨6⟩ ∧
      (Misses tangle ⟨4⟩ [⟨6⟩, ⟨1⟩] ∧
        ∀ limit, traverse (connect [⟨6⟩, ⟨1⟩] tangle).2 limit ⟨4⟩ = traverse tangle limit ⟨4⟩) ∧
      (¬ Misses tangle ⟨5⟩ [⟨6⟩, ⟨1⟩] ∧
        ∃ before meeting, Meets tangle ⟨5⟩ [⟨6⟩, ⟨1⟩] before meeting ∧
          ∃ rest : List (Handle 8 × Node 8),
            rest.map Prod.fst = [⟨6⟩, ⟨1⟩].dropWhile (· ≠ meeting) ∧
              Closes (connect [⟨6⟩, ⟨1⟩] tangle).2 ⟨5⟩ (before ++ rest)) := by
  have linked : (connect [⟨6⟩, ⟨1⟩] tangle).1 = .ok ⟨6⟩ := rfl
  have circle : Misses tangle ⟨4⟩ [⟨6⟩, ⟨1⟩] := by
    have found : Store.get? tangle ⟨4⟩ = some ⟨"e", ⟨4⟩⟩ := rfl
    intro limit
    induction limit with
    | zero => simp
    | succ limit ih =>
        rw [traverse_of_occupied limit found]
        exact List.forall_mem_cons.mpr ⟨by decide, ih⟩
  have broken : ¬ Misses tangle ⟨5⟩ [⟨6⟩, ⟨1⟩] := fun misses =>
    misses 2 (⟨6⟩, ⟨"g", ⟨9⟩⟩) (by decide) (by decide)
  exact ⟨linked, ⟨circle, (connect_redirects linked ⟨4⟩).1 circle⟩,
    broken, (connect_redirects linked ⟨5⟩).2 broken⟩

end ArenaChain.Chain
