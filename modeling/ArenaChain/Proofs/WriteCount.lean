import ArenaChain.Proofs.Linking
import ArenaChain.Proofs.Successor

/-!
# How often links are written

A rebuild that succeeds leaves every link as it was, so the links do not tell whether one was
written at all, or twice, or in a slot that is not part of the chain.  Values tell that count
the writes to their own link (`CountsWrites`).  An attempt that succeeds writes the link of
each slot of its order or chain once, one that fails writes none; so over a run each counter
grows by the number of attempts that succeeded and named its slot (`counters_run`).
-/

namespace ArenaChain.Linking

open Chain

variable {σ α β : Type} {width : Nat} [Store σ width α] [Linked α width]
variable {store : σ} {writes : α → Nat} {rest : α → β}

/-- Writing the link of a value is counted by `writes` and does not touch the `rest`. -/
structure CountsWrites (writes : α → Nat) (rest : α → β) : Prop where
  writes_withNext : ∀ (target : Handle width) (value : α),
    writes (Linked.withNext target value) = writes value + 1
  rest_withNext : ∀ (target : Handle width) (value : α),
    rest (Linked.withNext target value) = rest value

/-- Each of these slots has been written once and no other slot, and nothing else has
happened to the values than that their links were written. -/
structure WrittenOnce (writes : α → Nat) (rest : α → β) (slots : List (Handle width))
    (before after : σ) : Prop where
  occupied : ∀ handle ∈ slots, Store.contains before handle = true
  nodup : slots.Nodup
  writes_eq : ∀ handle, (Store.get? after handle).map writes =
    (Store.get? before handle).map fun value => writes value + if handle ∈ slots then 1 else 0
  rest_eq : ∀ handle, (Store.get? after handle).map rest = (Store.get? before handle).map rest

/-- How many attempts of a run succeed and have the slot in their order or chain. -/
def timesWritten : List (Linking width) → σ → Handle width → Nat
  | [], _, _ => 0
  | linking :: others, store, handle =>
    match linking.attempt store with
    | (.error _, after) => timesWritten others after handle
    | (.ok _, after) =>
      timesWritten others after handle + if handle ∈ linking.members store then 1 else 0

theorem timesWritten_cons (linking : Linking width) (others : List (Linking width)) (store : σ)
    (handle : Handle width) :
    timesWritten (linking :: others) store handle =
      timesWritten others (linking.attempt store).2 handle +
        if handle ∈ linking.written store then 1 else 0 := by
  rw [timesWritten, written]
  rcases linking.attempt store with ⟨error | newHead, after⟩ <;> simp

theorem writtenOnce_writeLinks (counts : CountsWrites writes rest) {order : List (Handle width)}
    (sound : Connectable store order) :
    WrittenOnce writes rest order store (writeLinks order store) where
  occupied := sound.occupied
  nodup := sound.nodup
  writes_eq handle := by
    rw [get?_writeLinks sound.nodup]
    split
    · rw [Option.map_map]
      congr 1
      funext value
      exact counts.writes_withNext _ value
    · rfl
  rest_eq handle := by
    rw [get?_writeLinks sound.nodup]
    split
    · rw [Option.map_map]
      congr 1
      funext value
      exact counts.rest_withNext _ value
    · rfl

theorem writtenOnce_attempt (counts : CountsWrites writes rest) (linking : Linking width)
    (store : σ) :
    WrittenOnce writes rest (linking.written store) store (linking.attempt store).2 := by
  rw [store_attempt]
  exact writtenOnce_writeLinks counts (connectable_written linking store)

/-- A run writes each link as often as attempts name its slot that succeed. -/
theorem counters_run (counts : CountsWrites writes rest) (linkings : List (Linking width))
    (store : σ) (handle : Handle width) :
    (Store.get? (run linkings store) handle).map writes =
        (Store.get? store handle).map
          (fun value => writes value + timesWritten linkings store handle) ∧
      (Store.get? (run linkings store) handle).map rest =
        (Store.get? store handle).map rest := by
  induction linkings generalizing store with
  | nil => exact ⟨rfl, rfl⟩
  | cons linking others ih =>
      have step := writtenOnce_attempt counts linking store
      obtain ⟨writesOnward, restOnward⟩ := ih (linking.attempt store).2
      refine ⟨?_, restOnward.trans (step.rest_eq handle)⟩
      -- Both counts are taken off the counter as the attempt leaves it.
      have counted (more : Nat) :
          (Store.get? (linking.attempt store).2 handle).map (fun value => writes value + more) =
            ((Store.get? (linking.attempt store).2 handle).map writes).map (· + more) := by
        rw [Option.map_map]
        rfl
      change (Store.get? (run others (linking.attempt store).2) handle).map writes = _
      rw [writesOnward, counted, step.writes_eq, Option.map_map, timesWritten_cons]
      congr 1
      funext value
      dsimp only [Function.comp_apply]
      omega

/-- The slots that an attempt hands out for writing are those whose links it writes. -/
theorem accesses_attempt (linking : Linking width) (store : σ) :
    (linking.attempt (Watched.start store)).2.accesses =
      (linking.written store).map fun handle => ⟨handle, true⟩ := by
  have connects (order : List (Handle width)) :
      (Chain.connect order (Watched.start store)).2.accesses =
        ((Linking.connect order).written store).map fun handle => ⟨handle, true⟩ := by
    rw [Watched.connect_eq, written, attempt]
    dsimp only [Watched.start]
    cases (Chain.connect order store).1 <;> rfl
  cases linking with
  | connect order => exact connects order
  | connectBuffer buffer =>
      rw [attempt_eq_connect rfl, written, attempt_eq_connect rfl]
      exact connects buffer.filled
  | rebuild head count buffer =>
      rw [attempt, written, attempt]
      dsimp only
      rw [Watched.store_rebuild_eq]
      dsimp only [Watched.start]
      cases result : (Chain.rebuild head count buffer store).result with
      | error error => rfl
      | ok newHead =>
          obtain ⟨within, sound, -⟩ := rebuild_of_ok result
          rw [members, (path_of_no_fault within sound).1.map_fst_toList, buffer_rebuild within]
          rfl

/-- What an attempt writes: if it succeeds, each slot of its order or chain is handed out for
writing once, in this sequence, and if it fails, none is. -/
structure Accounted (writes : α → Nat) (rest : α → β) (linking : Linking width) (store : σ) :
    Prop where
  of_ok : ∀ newHead, (linking.attempt store).1 = .ok newHead →
    WrittenOnce writes rest (linking.members store) store (linking.attempt store).2 ∧
      (linking.attempt (Watched.start store)).2.accesses =
        (linking.members store).map fun handle => ⟨handle, true⟩
  of_error : ∀ error, (linking.attempt store).1 = .error error →
    (linking.attempt store).2 = store ∧ (linking.attempt (Watched.start store)).2.accesses = []

theorem accounted_attempt (counts : CountsWrites writes rest) (linking : Linking width)
    (store : σ) : Accounted writes rest linking store where
  of_ok newHead made := by
    have members_eq : linking.written store = linking.members store := by rw [written, made]
    rw [accesses_attempt, ← members_eq]
    exact ⟨writtenOnce_attempt counts linking store, rfl⟩
  of_error error failed := by
    have none : linking.written store = [] := by rw [written, failed]
    rw [accesses_attempt, store_attempt, none]
    exact ⟨rfl, rfl⟩

/-- Values that count the writes to their link count the attempts that succeeded and named
their slot; besides that, only their links have changed. -/
theorem attempts_are_counted (counts : CountsWrites writes rest)
    (linkings : List (Linking width)) (store : σ) :
    (∀ before linking after, linkings = before ++ linking :: after →
        Accounted writes rest linking (run before store)) ∧
      ∀ handle,
        (Store.get? (run linkings store) handle).map writes =
            (Store.get? store handle).map
              (fun value => writes value + timesWritten linkings store handle) ∧
          (Store.get? (run linkings store) handle).map rest =
            (Store.get? store handle).map rest :=
  ⟨fun before linking _ _ => accounted_attempt counts linking (run before store),
    counters_run counts linkings store⟩

theorem countsWrites_counted :
    CountsWrites (Counted.writes : Counted (Node width) → Nat) fun counted => counted.value.name :=
  ⟨fun _ _ => rfl, fun _ _ => rfl⟩

/-- A chain of three is rebuilt, its last two slots are connected the other way round, and
the two slots that are left of it are rebuilt; what fails in between is not counted. -/
theorem attempts_are_counted_small :
    let store : Arena 8 (Counted (Node 8)) :=
      ⟨#[⟨⟨"a", ⟨1⟩⟩, 0⟩, ⟨⟨"b", ⟨2⟩⟩, 5⟩, ⟨⟨"c", .nil⟩, 1⟩, ⟨⟨"d", ⟨3⟩⟩, 2⟩], 4,
        by decide, by decide, by decide⟩
    let linkings : List (Linking 8) :=
      [.rebuild ⟨0⟩ 3 (.empty 3), .rebuild ⟨3⟩ 3 (.empty 3), .connect [⟨2⟩, ⟨1⟩],
        .connect [⟨3⟩, ⟨1⟩, ⟨3⟩], .rebuild ⟨0⟩ 3 (.empty 4), .rebuild ⟨0⟩ 2 (.empty 4)]
    CountsWrites (Counted.writes : Counted (Node 8) → Nat) (fun counted => counted.value.name) ∧
      Accounted Counted.writes (fun counted : Counted (Node 8) => counted.value.name)
        (.rebuild ⟨0⟩ 3 (.empty 3)) store ∧
      (timesWritten linkings store ⟨1⟩ = 3 ∧
        (Store.get? (run linkings store) ⟨1⟩).map Counted.writes = some 8) ∧
      timesWritten linkings store ⟨3⟩ = 0 ∧
        (Store.get? (run linkings store) ⟨3⟩).map Counted.writes = some 2 := by
  intro store linkings
  have counted := attempts_are_counted countsWrites_counted linkings store
  refine ⟨countsWrites_counted, counted.1 [] _ _ rfl, ⟨by decide, ?_⟩, by decide, ?_⟩
  · exact (counted.2 ⟨1⟩).1.trans (by decide)
  · exact (counted.2 ⟨3⟩).1.trans (by decide)

end ArenaChain.Linking
