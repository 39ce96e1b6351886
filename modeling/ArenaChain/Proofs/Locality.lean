import ArenaChain.Proofs.Account
import ArenaChain.Proofs.Circling

/-!
# What a rebuild looks at

A rebuild follows a chain for as many moves as nodes were declared and looks no further, not
even whether the next slot is occupied.  Of the nodes on the way it reads the links alone, and
of the buffer the capacity.  So where two stores hold the same beginning of a chain
(`SameWithin`), rebuilding comes to the same in both, with the same reports on the way, whatever
else there is in the stores and whatever the buffers held (`rebuild_reads_beginning`).
-/

namespace ArenaChain.Chain

variable {σ τ α β : Type} {width : Nat} [Store σ width α] [Linked α width]
  [Store τ width β] [Linked β width]
variable {first : σ} {second : τ} {limit count : Nat} {head : Handle width}
variable {buffer other : OrderBuffer width}

/-- The slot that a cursor meets that was moved so many times from a head, with the link in it,
if it has not stopped. -/
def linkAt (store : σ) (head : Handle width) (moves : Nat) : Option (Handle width × Handle width) :=
  (itemAt store head moves).map fun item => (item.1, Linked.next item.2)

/-- Before so many moves are made, cursors from `head` meet the same slots with the same links
in both stores, or stop in both. -/
def SameWithin (first : σ) (second : τ) (limit : Nat) (head : Handle width) : Prop :=
  ∀ move < limit, linkAt first head move = linkAt second head move

theorem linkAt_zero (store : σ) (head : Handle width) :
    linkAt store head 0 = (Store.get? store head).map fun value => (head, Linked.next value) := by
  rw [linkAt, itemAt_zero, Option.map_map]
  rfl

theorem linkAt_succ_of_occupied {value : α} (found : Store.get? first head = some value)
    (move : Nat) : linkAt first head (move + 1) = linkAt first (Linked.next value) move := by
  rw [linkAt, itemAt_succ_of_occupied found, linkAt]

/-- A cursor with a limited number of moves covers the same stretch in both stores. -/
theorem SameWithin.exists_stretch (same : SameWithin first second limit head) :
    ∃ passed target,
      Stretch first limit head passed target ∧ Stretch second limit head passed target := by
  induction limit generalizing head with
  | zero => exact ⟨[], head, ⟨.stay head, Nat.le_refl 0, .inl rfl⟩,
      ⟨.stay head, Nat.le_refl 0, .inl rfl⟩⟩
  | succ limit ih =>
      have here := same 0 (Nat.succ_pos limit)
      rw [linkAt_zero, linkAt_zero] at here
      cases found : Store.get? first head with
      | none =>
          rw [found, Option.map_none, eq_comm, Option.map_eq_none_iff] at here
          exact ⟨[], head, .of_vacant found _, .of_vacant here _⟩
      | some value =>
          rw [found, Option.map_some, eq_comm, Option.map_eq_some_iff] at here
          obtain ⟨twin, foundToo, links⟩ := here
          have sameLink : Linked.next twin = Linked.next value := (Prod.mk.inj links).2
          have rest : SameWithin first second limit (Linked.next value) := by
            intro move within
            have later := same (move + 1) (Nat.succ_lt_succ within)
            rwa [linkAt_succ_of_occupied found, linkAt_succ_of_occupied foundToo,
              sameLink] at later
          obtain ⟨passed, target, onward, onwardToo⟩ := ih rest
          rw [← sameLink] at onwardToo
          exact ⟨head :: passed, target, onward.follow found, onwardToo.follow foundToo⟩

/-- A rebuild depends on the links of as many nodes as were declared, and on the capacity of the
buffer. -/
theorem rebuild_reads_beginning (same : SameWithin first second count head)
    (sameCapacity : buffer.capacity = other.capacity) :
    (rebuild head count buffer first).result = (rebuild head count other second).result ∧
      (rebuild head count buffer first).events = (rebuild head count other second).events ∧
      ((∀ capacity required,
          (rebuild head count buffer first).result ≠ .error (.overCapacity capacity required)) →
        (rebuild head count buffer first).buffer = (rebuild head count other second).buffer) := by
  rcases Nat.lt_or_ge buffer.capacity count with beyond | within
  · have beyondToo : other.capacity < count := sameCapacity ▸ beyond
    rw [rebuild_of_capacity_lt beyond, rebuild_of_capacity_lt beyondToo, sameCapacity]
    exact ⟨rfl, rfl, fun different => absurd rfl (different _ _)⟩
  · have withinToo : count ≤ other.capacity := sameCapacity ▸ within
    obtain ⟨passed, target, stretch, stretchToo⟩ := same.exists_stretch
    have result : (rebuild head count buffer first).result =
        (rebuild head count other second).result := by
      rw [result_rebuild_of_stretch stretch within,
        result_rebuild_of_stretch stretchToo withinToo]
    have recorded : (rebuild head count buffer first).buffer =
        (rebuild head count other second).buffer := by
      apply OrderBuffer.ext_of_filled
      · rw [capacity_rebuild, capacity_rebuild, sameCapacity]
      · rw [filled_rebuild_of_stretch stretch within,
          filled_rebuild_of_stretch stretchToo withinToo]
    refine ⟨result, ?_, fun _ => recorded⟩
    rw [events_rebuild, events_rebuild, result, recorded, sameCapacity]

/-- Two linked slots with nothing behind them, though a link leads there. -/
def stub : Arena 8 (Counted (Node 8)) where
  slots := #[⟨⟨"x", ⟨1⟩⟩, 0⟩, ⟨⟨"x", ⟨2⟩⟩, 5⟩]
  capacity := 2
  capacity_pos := by decide
  capacity_le := by decide
  size_le := by decide

/-- For two nodes it makes no difference that the third one is missing; for three it does. -/
theorem rebuild_reads_beginning_stub :
    let buffer := (record tangle ⟨4⟩ 3 (.empty 4)).buffer
    SameWithin tangle stub 2 ⟨0⟩ ∧
      buffer.capacity = (.empty 4 : OrderBuffer 8).capacity ∧
      (rebuild ⟨0⟩ 2 buffer tangle).result = .error (.runsOn 2) ∧
      (rebuild ⟨0⟩ 2 buffer tangle).result = (rebuild ⟨0⟩ 2 (.empty 4) stub).result ∧
      (rebuild ⟨0⟩ 2 buffer tangle).events = (rebuild ⟨0⟩ 2 (.empty 4) stub).events ∧
      (rebuild ⟨0⟩ 2 buffer tangle).buffer = (rebuild ⟨0⟩ 2 (.empty 4) stub).buffer ∧
      (rebuild ⟨0⟩ 3 buffer tangle).result ≠ (rebuild ⟨0⟩ 3 (.empty 4) stub).result := by
  intro buffer
  have same : SameWithin tangle stub 2 ⟨0⟩ := by
    unfold SameWithin
    decide
  have result : (rebuild ⟨0⟩ 2 buffer tangle).result = .error (.runsOn 2) := rfl
  obtain ⟨results, events, buffers⟩ :=
    rebuild_reads_beginning same (rfl : buffer.capacity = (.empty 4 : OrderBuffer 8).capacity)
  refine ⟨same, rfl, result, results, events, buffers fun capacity required => ?_, ?_⟩
  · rw [result]
    simp
  · intro sameResult
    cases sameResult

end ArenaChain.Chain
