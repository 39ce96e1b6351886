import ArenaChain.Proofs.Cursor
import ArenaChain.Proofs.Outcome
import Mathlib.Data.List.Nodup
import Mathlib.Logic.Function.Iterate

/-!
# Chains that end and chains that circle

A cursor moves on without looking back, and nothing in a chain gets smaller on the way.  But
the slots are finite in number, so a cursor that passed more slots than are occupied has passed
one of them twice, and from there on it repeats what it did before (`Endless.circles`).

Hence the cursor either stops within that many moves, or it circles for ever
(`cursor_stops_or_circles`).
-/

namespace ArenaChain.Chain

variable {σ α : Type} {width : Nat} [Store σ width α] [Linked α width]
variable {store : σ} {head target : Handle width} {passed : List (Handle width)}
variable {move : Nat}

/-- Where a cursor stands that was moved so many times from a head. -/
def cursorAfter (store : σ) (head : Handle width) (moves : Nat) : Handle width :=
  (fun cursor => (advance store cursor).2)^[moves] head

/-- What a cursor meets that was moved so many times from a head, if it has not stopped. -/
def itemAt (store : σ) (head : Handle width) (moves : Nat) : Option (Handle width × α) :=
  (advance store (cursorAfter store head moves)).1

theorem cursorAfter_add (first second : Nat) :
    cursorAfter store head (first + second) =
      cursorAfter store (cursorAfter store head first) second := by
  rw [cursorAfter, Nat.add_comm, Function.iterate_add_apply]
  rfl

theorem cursorAfter_succ (move : Nat) : cursorAfter store head (move + 1) =
    cursorAfter store (advance store head).2 move := by
  rw [cursorAfter, Function.iterate_succ_apply]
  rfl

/-- A cursor that has stopped does not move again. -/
@[simp]
theorem cursorAfter_nil : cursorAfter store .nil move = .nil :=
  Function.iterate_fixed (by rw [advance_of_vacant (Store.get?_nil store)]) move

theorem itemAt_add (first second : Nat) :
    itemAt store head (first + second) =
      itemAt store (cursorAfter store head first) second := by
  rw [itemAt, cursorAfter_add, itemAt]

theorem itemAt_eq_map : itemAt store head move =
    (Store.get? store (cursorAfter store head move)).map (cursorAfter store head move, ·) := by
  rw [itemAt, advance_eq]
  cases Store.get? store (cursorAfter store head move) <;> rfl

theorem itemAt_zero : itemAt store head 0 = (Store.get? store head).map (head, ·) :=
  itemAt_eq_map

theorem itemAt_succ_of_occupied {value : α} (found : Store.get? store head = some value) :
    itemAt store head (move + 1) = itemAt store (Linked.next value) move := by
  rw [itemAt, cursorAfter_succ, advance_of_occupied found, itemAt]

theorem itemAt_of_vacant (vacant : Store.get? store head = none) (move : Nat) :
    itemAt store head move = none := by
  cases move with
  | zero => rw [itemAt_zero, vacant, Option.map_none]
  | succ move => rw [itemAt, cursorAfter_succ, advance_of_vacant vacant, cursorAfter_nil,
      advance_of_vacant (Store.get?_nil store)]

theorem Path.cursorAfter_eq (path : Path store head passed target) :
    cursorAfter store head passed.length = target := by
  induction path with
  | stay => rfl
  | follow found onward ih => rwa [List.length_cons, cursorAfter_succ, advance_of_occupied found]

theorem Path.getElem?_eq (path : Path store head passed target) (within : move < passed.length) :
    passed[move]? = some (cursorAfter store head move) := by
  obtain ⟨middle, before, onward⟩ := path.exists_cut move
  have moves : (passed.take move).length = move := by
    rw [List.length_take]
    omega
  have arrives := before.cursorAfter_eq
  rw [moves] at arrives
  rw [List.drop_eq_getElem_cons within, cons_iff] at onward
  rw [List.getElem?_eq_getElem within, arrives, onward.1]

/-- A cursor meets the items of a chain that ends, one after the other, and nothing behind. -/
theorem Yields.itemAt_eq {items : List (Handle width × α)} (yields : Yields store head items)
    (move : Nat) : itemAt store head move = items[move]? := by
  induction items generalizing head move with
  | nil => rw [itemAt_of_vacant (yields_nil_iff.mp yields), List.getElem?_nil]
  | cons item items ih =>
      obtain ⟨rfl, found, onward⟩ := yields_cons_iff.mp yields
      cases move with
      | zero => rw [itemAt_zero, found, List.getElem?_cons_zero, Option.map_some]
      | succ move => rw [itemAt_succ_of_occupied found, ih onward, List.getElem?_cons_succ]

/-- A cursor meets at most as many items as slots are occupied, each in a slot of its own, and
nothing from then on. -/
def Stops (store : σ) (head : Handle width) : Prop :=
  ∃ items : List (Handle width × α), items.length ≤ (Store.entries store).length ∧
    (items.map Prod.fst).Nodup ∧ ∀ move, itemAt store head move = items[move]?

/-- A cursor always meets an item, and what it met it meets again and again, after no more moves
than slots are occupied. -/
structure Circles (store : σ) (head : Handle width) : Prop where
  goesOn : ∀ move, ∃ item, itemAt store head move = some item
  returns : ∃ start period, 0 < period ∧ start + period ≤ (Store.entries store).length ∧
    ∀ move, start ≤ move → itemAt store head (move + period) = itemAt store head move

theorem stops_of_not_endless (ends : ¬ Endless store head) : Stops store head := by
  obtain ⟨passed, target, path, vacant⟩ := exists_vacant_of_not_endless ends
  obtain ⟨items, yields, few, nodup⟩ := path.exists_few_yields vacant
  exact ⟨items, few, nodup, yields.itemAt_eq⟩

/-- From where a cursor stands for the second time on, it repeats what it did. -/
theorem itemAt_add_of_cursorAfter_eq {start period : Nat}
    (again : cursorAfter store head (start + period) = cursorAfter store head start)
    (later : start ≤ move) : itemAt store head (move + period) = itemAt store head move := by
  obtain ⟨more, rfl⟩ := Nat.exists_eq_add_of_le later
  rw [Nat.add_right_comm, itemAt_add, again, ← itemAt_add]

theorem Endless.exists_cursorAfter_eq (endless : Endless store head) :
    ∃ start period, 0 < period ∧ start + period ≤ (Store.entries store).length ∧
      cursorAfter store head (start + period) = cursorAfter store head start := by
  obtain ⟨passed, target, path, length⟩ := endless ((Store.entries store).length + 1)
  -- One more slot was passed than are occupied, so the path cannot pass each only once.
  have repeats : ¬ passed.Nodup := by
    intro nodup
    have bound := path.length_le_entries nodup
    omega
  rw [List.nodup_iff_getElem?_ne_getElem?] at repeats
  push Not at repeats
  obtain ⟨first, second, before, within, same⟩ := repeats
  rw [path.getElem?_eq (by omega), path.getElem?_eq within, Option.some.injEq] at same
  refine ⟨first, second - first, by omega, by omega, ?_⟩
  rw [Nat.add_sub_cancel' (Nat.le_of_lt before), same]

theorem Endless.circles (endless : Endless store head) : Circles store head := by
  constructor
  · intro move
    obtain ⟨passed, target, path, length⟩ := endless (move + 1)
    have within : move < passed.length := by omega
    have met := path.getElem?_eq within
    obtain ⟨value, found⟩ := path.occupied_of_mem (List.mem_of_getElem? met)
    exact ⟨_, by rw [itemAt_eq_map, found, Option.map_some]⟩
  · obtain ⟨start, period, moves, within, again⟩ := endless.exists_cursorAfter_eq
    exact ⟨start, period, moves, within, fun move => itemAt_add_of_cursorAfter_eq again⟩

theorem Stops.not_circles (stops : Stops store head) : ¬ Circles store head := by
  intro circles
  obtain ⟨items, -, -, met⟩ := stops
  obtain ⟨item, further⟩ := circles.goesOn items.length
  rw [met, List.getElem?_eq_none (Nat.le_refl _)] at further
  cases further

theorem le_entries_of_rebuild_ok {count : Nat} {buffer : OrderBuffer width}
    {newHead : Handle width} (made : (rebuild head count buffer store).result = .ok newHead) :
    count ≤ (Store.entries store).length := by
  obtain ⟨within, sound, -⟩ := rebuild_of_ok made
  obtain ⟨path, length⟩ := path_of_no_fault within sound
  have bound := path.length_le_entries_of_vacant (Store.get?_nil store)
  rwa [OrderBuffer.length_filled, length] at bound

theorem eq_of_stopFault?_eq_endsEarly {declared reached count found : Nat}
    (fault : stopFault? declared reached target = some (.endsEarly count found)) :
    target = .nil ∧ reached = found := by
  unfold stopFault? at fault
  split at fault
  case isTrue ends =>
    split at fault
    · cases fault
    · exact ⟨ends, (ChainError.endsEarly.inj (Option.some.inj fault)).2⟩
  case isFalse => split at fault <;> cases fault

theorem le_entries_of_endsEarly {count declared found : Nat} {buffer : OrderBuffer width}
    (short : (rebuild head count buffer store).result = .error (.endsEarly declared found)) :
    found ≤ (Store.entries store).length := by
  rcases Nat.lt_or_ge buffer.capacity count with beyond | within
  · rw [rebuild_of_capacity_lt beyond] at short
    cases short
  · obtain ⟨passed, target, stretch⟩ := exists_stretch store count head
    rw [result_rebuild_of_stretch stretch within] at short
    cases stop : stopFault? count passed.length target with
    | none =>
        rw [stop] at short
        cases short
    | some error =>
        rw [stop] at short
        obtain rfl := Except.error.inj short
        obtain ⟨rfl, rfl⟩ := eq_of_stopFault?_eq_endsEarly stop
        exact stretch.path.length_le_entries_of_vacant (Store.get?_nil store)

/-- A cursor either stops within as many moves as slots are occupied, or it circles.  So one
that was moved further circles; and as only a chain that closes is rebuilt or found to be too
short, neither of these has more nodes. -/
theorem cursor_stops_or_circles (store : σ) (head : Handle width) :
    (Stops store head ∨ Circles store head) ∧ ¬ (Stops store head ∧ Circles store head) ∧
      ((∃ item, itemAt store head (Store.entries store).length = some item) →
        Circles store head) ∧
      ∀ (count : Nat) (buffer : OrderBuffer width),
        (∀ newHead, (rebuild head count buffer store).result = .ok newHead →
          count ≤ (Store.entries store).length) ∧
        ∀ declared found,
          (rebuild head count buffer store).result = .error (.endsEarly declared found) →
            found ≤ (Store.entries store).length := by
  have either : Stops store head ∨ Circles store head := by
    by_cases endless : Endless store head
    · exact .inr endless.circles
    · exact .inl (stops_of_not_endless endless)
  refine ⟨either, fun both => both.1.not_circles both.2, ?_, fun count buffer =>
    ⟨fun newHead => le_entries_of_rebuild_ok, fun declared found => le_entries_of_endsEarly⟩⟩
  rintro ⟨item, further⟩
  refine either.resolve_left ?_
  rintro ⟨items, few, -, met⟩
  rw [met, List.getElem?_eq_none few] at further
  cases further

/-- The cursor at 4 circles, and was moved seven times to tell; the one at 5 stops.  A chain of
three nodes is found to be too short for four. -/
theorem cursor_stops_or_circles_tangle :
    (∃ item, itemAt tangle ⟨4⟩ (Store.entries tangle).length = some item) ∧
      Circles tangle ⟨4⟩ ∧ Stops tangle ⟨5⟩ ∧
      (rebuild ⟨0⟩ 4 (.empty 4) tangle).result = .error (.endsEarly 4 3) ∧
      3 ≤ (Store.entries tangle).length := by
  have further : itemAt tangle ⟨4⟩ (Store.entries tangle).length = some (⟨4⟩, ⟨"e", ⟨4⟩⟩) := by
    decide
  have short : (rebuild ⟨0⟩ 4 (.empty 4) tangle).result = .error (.endsEarly 4 3) := rfl
  refine ⟨⟨_, further⟩, (cursor_stops_or_circles tangle ⟨4⟩).2.2.1 ⟨_, further⟩, ?_, short,
    ((cursor_stops_or_circles tangle ⟨0⟩).2.2.2 4 (.empty 4)).2 4 3 short⟩
  refine (cursor_stops_or_circles tangle ⟨5⟩).1.resolve_right fun circles => ?_
  obtain ⟨item, met⟩ := circles.goesOn 2
  have stopped : itemAt tangle ⟨5⟩ 2 = none := by decide
  rw [stopped] at met
  cases met

end ArenaChain.Chain
