import ArenaChain.Proofs.Arrangement
import ArenaChain.Proofs.Operation
import ArenaChain.Store.Arena
import ArenaChain.Store.Pool

/-!
# No run of operations makes a circle

A circle could arise where an old chain runs into a new one, or where a slot that was
given up is taken again and links that led nowhere lead on.  It does not: if every chain
ends and some slots are changed, every chain still ends as long as those from the changed
slots do (`Ends.of_changed`), and in whatever an operation changes they do.

Where slots are not given up one by one, links moreover never lead to a vacant slot
(`Anchored`), so every chain closes.
-/

namespace ArenaChain.Chain

section Chains

variable {σ α : Type} {width : Nat} [Store σ width α] [Linked α width]
variable {store before after : σ} {head target : Handle width} {passed : List (Handle width)}

/-- The links behind a handle lead to a vacant slot or to the end marker. -/
inductive Ends (store : σ) : Handle width → Prop
  | vacant {handle : Handle width} (vacant : Store.get? store handle = none) :
      Ends store handle
  | onward {handle : Handle width} {value : α} (found : Store.get? store handle = some value)
      (rest : Ends store (Linked.next value)) : Ends store handle

/-- The links lead round in no circle. -/
def Acyclic (store : σ) : Prop := ∀ head, Ends store head

/-- Every link leads to an occupied slot or to the end marker. -/
def Anchored (store : σ) : Prop :=
  ∀ (handle : Handle width) (value : α), Store.get? store handle = some value →
    Linked.next value = .nil ∨ Store.contains store (Linked.next value) = true

/-- From every handle on, a cursor passes at most as many items as slots are occupied, and
no slot twice. -/
def EveryChainEnds (store : σ) : Prop :=
  ∀ head : Handle width, ∃ items : List (Handle width × α), Yields store head items ∧
    items.length ≤ (Store.entries store).length ∧ (items.map Prod.fst).Nodup

theorem Ends.exists_path (ends : Ends store head) :
    ∃ passed target, Path store head passed target ∧ Store.get? store target = none := by
  induction ends with
  | @vacant handle vacant => exact ⟨[], handle, .stay handle, vacant⟩
  | @onward handle value found rest ih =>
      obtain ⟨passed, target, path, vacant⟩ := ih
      exact ⟨handle :: passed, target, .follow found path, vacant⟩

theorem Path.ends (path : Path store head passed target)
    (vacant : Store.get? store target = none) : Ends store head := by
  induction path with
  | stay => exact .vacant vacant
  | follow found onward ih => exact .onward found (ih vacant)

theorem Acyclic.everyChainEnds (acyclic : Acyclic store) : EveryChainEnds store := by
  intro head
  obtain ⟨passed, target, path, vacant⟩ := (acyclic head).exists_path
  exact path.exists_few_yields vacant

/-- A chain is followed until it comes to a slot that was changed, and from there on it
ends anyway. -/
theorem Ends.of_changed (changed : Handle width → Prop)
    (kept : ∀ handle, ¬ changed handle → Store.get? after handle = Store.get? before handle)
    (settled : ∀ handle, changed handle → Ends after handle) (ends : Ends before head) :
    Ends after head := by
  induction ends with
  | @vacant handle vacant =>
      by_cases touched : changed handle
      · exact settled handle touched
      · exact .vacant ((kept handle touched).trans vacant)
  | @onward handle value found rest ih =>
      by_cases touched : changed handle
      · exact settled handle touched
      · exact .onward ((kept handle touched).trans found) ih

theorem acyclic_insert {value : α} {handle : Handle width} (unlinked : Linked.next value = .nil)
    (inserted : Store.insert value before = .ok (handle, after)) (acyclic : Acyclic before) :
    Acyclic after := by
  have placed := Store.get?_insert _ _ _ _ inserted
  intro head
  apply (acyclic head).of_changed (· = handle)
  · exact fun other different => (placed other).trans (if_neg different)
  · intro other same
    apply Ends.onward ((placed other).trans (if_pos same))
    rw [unlinked]
    exact .vacant (Store.get?_nil after)

theorem acyclic_writeLinks {order : List (Handle width)} (sound : Connectable store order)
    (acyclic : Acyclic store) : Acyclic (writeLinks order store) := by
  intro head
  apply (acyclic head).of_changed (· ∈ order)
  · exact fun handle outside => get?_writeLinks_of_not_mem outside store
  · intro handle member
    obtain ⟨front, back, rfl⟩ := List.append_of_mem member
    exact (path_writeLinks_of_append sound).ends (Store.get?_nil _)

theorem anchored_insert {value : α} {handle : Handle width}
    (unlinked : Linked.next value = .nil)
    (inserted : Store.insert value before = .ok (handle, after)) (anchored : Anchored before) :
    Anchored after := by
  have placed := Store.get?_insert _ _ _ _ inserted
  intro other held found
  rw [placed] at found
  split at found
  case isTrue =>
    obtain rfl := Option.some.inj found
    exact .inl unlinked
  case isFalse =>
    refine (anchored other held found).imp_right fun occupied => ?_
    unfold Store.contains at occupied ⊢
    rw [placed]
    split
    · rfl
    · exact occupied

theorem Path.eq_nil_or_occupied (path : Path store head passed .nil) :
    head = .nil ∨ Store.contains store head = true := by
  cases path with
  | stay => exact .inl rfl
  | follow found onward => exact .inr (Store.contains_iff.mpr ⟨_, found⟩)

theorem anchored_writeLinks {order : List (Handle width)} (sound : Connectable store order)
    (anchored : Anchored store) : Anchored (writeLinks order store) := by
  intro handle value found
  by_cases member : handle ∈ order
  · obtain ⟨front, back, rfl⟩ := List.append_of_mem member
    obtain ⟨-, written, foundToo, onward⟩ := Path.cons_iff.mp (path_writeLinks_of_append sound)
    rw [found, Option.some.injEq] at foundToo
    exact foundToo ▸ onward.eq_nil_or_occupied
  · rw [get?_writeLinks_of_not_mem member] at found
    rw [contains_writeLinks]
    exact anchored handle value found

theorem Ends.exists_path_nil (anchored : Anchored store) (ends : Ends store head)
    (start : head = .nil ∨ Store.contains store head = true) :
    ∃ passed, Path store head passed .nil := by
  induction ends with
  | @vacant handle vacant =>
      have unoccupied : ¬ Store.contains store handle = true := by
        simp [Store.contains, vacant]
      obtain rfl := start.resolve_right unoccupied
      exact ⟨[], .stay .nil⟩
  | @onward handle value found rest ih =>
      obtain ⟨passed, path⟩ := ih (anchored handle value found)
      exact ⟨handle :: passed, .follow found path⟩

theorem result_rebuild_ne_absent (path : Path store head passed .nil) (count : Nat)
    (buffer : OrderBuffer width) (handle : Handle width) :
    (rebuild head count buffer store).result ≠ .error (.absent handle) := by
  rcases Nat.lt_or_ge buffer.capacity count with beyond | within
  · rw [rebuild_of_capacity_lt beyond]
    simp
  · have closes : HasCourse store head (.closes passed.length) := ⟨passed, path, rfl⟩
    rw [result_rebuild_of_hasCourse closes within, Course.result]
    split
    · simp
    · split <;> simp

end Chains

section Runs

variable {σ : Type} {width : Nat} [Store σ width (Node width)]

theorem keeps_acyclic : Operation.Keeps (Acyclic : σ → Prop) where
  insert inserted acyclic := acyclic_insert rfl inserted acyclic
  writeLinks := acyclic_writeLinks
  clear store head := .vacant (Store.get?_clear store head)

theorem keeps_anchored : Operation.Keeps (Anchored : σ → Prop) where
  insert inserted anchored := anchored_insert rfl inserted anchored
  writeLinks := anchored_writeLinks
  clear store handle value found := by
    rw [Store.get?_clear] at found
    cases found

end Runs

theorem acyclic_remove {σ : Type} {width : Nat} [RemovalStore σ width (Node width)]
    (handle : Handle width) (store : σ) (acyclic : Acyclic store) :
    Acyclic (RemovalStore.remove handle store).2 := by
  have removed := RemovalStore.get?_remove handle store
  intro head
  apply (acyclic head).of_changed (· = handle)
  · exact fun other different => (removed other).trans (if_neg different)
  · exact fun other same => .vacant ((removed other).trans (if_pos same))

/-- However the operations follow each other, no chain is ever circular in a store that was empty
at first, be it one that gives up single slots or an arena.  In an arena no chain breaks off
either. -/
theorem every_chain_ends_after_run {width : Nat} :
    (∀ (σ : Type) [RemovalStore σ width (Node width)]
        (operations : List (RemovalStore.Operation width)),
          EveryChainEnds (RemovalStore.run operations (RemovalStore.empty : σ))) ∧
      ∀ (capacity : Nat) (arena : Arena width (Node width)),
        Arena.ofCapacity capacity = .ok arena → ∀ operations : List (Operation width),
          EveryChainEnds (Operation.run operations arena) ∧
            Anchored (Operation.run operations arena) ∧
            ∀ head, Store.contains (Operation.run operations arena) head = true →
              (∃ items, Closes (Operation.run operations arena) head items) ∧
                ∀ count buffer handle,
                  (rebuild head count buffer (Operation.run operations arena)).result ≠
                    .error (.absent handle) := by
  constructor
  · intro σ _ operations
    have blank : Acyclic (RemovalStore.empty : σ) := fun head =>
      .vacant (RemovalStore.get?_empty head)
    exact (RemovalStore.run_induction keeps_acyclic acyclic_remove operations
      blank).everyChainEnds
  · intro capacity arena made operations
    have vacant := Arena.vacant_of_ofCapacity made
    have acyclic : Acyclic (Operation.run operations arena) :=
      keeps_acyclic.run operations fun head => .vacant (vacant head)
    have anchored : Anchored (Operation.run operations arena) := by
      apply keeps_anchored.run operations
      intro handle value found
      rw [vacant] at found
      cases found
    refine ⟨acyclic.everyChainEnds, anchored, ?_⟩
    intro head occupied
    obtain ⟨passed, path⟩ := (acyclic head).exists_path_nil anchored (.inr occupied)
    obtain ⟨items, -, closes⟩ := path.exists_closes
    exact ⟨⟨items, closes⟩, result_rebuild_ne_absent path⟩

/-- In the arena an old chain runs into a new one; in the pool the slot that a link led to
is given up and taken again. -/
theorem every_chain_ends_after_run_small :
    let arena : Arena 8 (Node 8) := ⟨#[], 4, by decide, by decide, by decide⟩
    let final := Operation.run [.assemble ["a", "b", "c"], .connect [⟨2⟩, ⟨1⟩], .insert "d",
      .rebuild ⟨0⟩ 3 (.empty 4), .connect [⟨2⟩, ⟨2⟩]] arena
    Arena.ofCapacity 4 = .ok arena ∧ Store.contains final ⟨0⟩ = true ∧
      EveryChainEnds final ∧ Anchored final ∧ (∃ items, Closes final ⟨0⟩ items) ∧
      EveryChainEnds (RemovalStore.run [.common (.assemble ["a", "b", "c"]), .remove ⟨1⟩,
        .common (.insert "d"), .common (.connect [⟨1⟩, ⟨0⟩])] (.empty : Pool 64 (Node 64))) := by
  intro arena final
  have made : Arena.ofCapacity 4 = .ok arena := rfl
  have occupied : Store.contains final ⟨0⟩ = true := by decide
  obtain ⟨ends, anchored, closes⟩ := every_chain_ends_after_run.2 4 arena made _
  exact ⟨made, occupied, ends, anchored, (closes ⟨0⟩ occupied).1,
    every_chain_ends_after_run.1 _ _⟩

end ArenaChain.Chain
