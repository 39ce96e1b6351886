import ArenaChain.Proofs.Linking
import ArenaChain.Proofs.Successor

/-!
# The ledger of an arena

An arena behaves as a list that only grows at its end, up to its capacity, until it is
cleared.  The list is kept beside the arena as a ledger: one entry for each value taken in
since the arena was cleared last, with the handle that was given out for it and with all that
was done to the value since.

The ledger tells all there is to know of the arena (`Shows`).  A value comes in while there
are fewer entries than the capacity, and then gets the handle whose number is that of the
entries; look-up finds the values of the entries under their handles and nothing else.  The
one fact behind this is that the entries are numbered from 0 upward (`Accounts`), which every
operation preserves and so every run (`behaves_as_ledger`).
-/

namespace ArenaChain.Arena

open Chain

variable {width : Nat} {α : Type}

/-- A value that was taken in: the handle given out for it, and what was done to it since. -/
structure Entry (width : Nat) (α : Type) where
  handle : Handle width
  original : α
  changes : List (α → α)

namespace Entry

/-- The original value with all changes, one after the other. -/
def value (entry : Entry width α) : α :=
  entry.changes.foldl (fun value change => change value) entry.original

def change (step : α → α) (entry : Entry width α) : Entry width α :=
  { entry with changes := entry.changes ++ [step] }

@[simp]
theorem value_change (step : α → α) (entry : Entry width α) :
    (entry.change step).value = step entry.value := by
  simp [value, change]

end Entry

/-- What is done with an arena: values are put in, all slots are given up, a value is looked
up or changed in any way, orders are connected and chains rebuilt. -/
inductive Operation (width : Nat) (α : Type) where
  | insert (value : α)
  | clear
  | lookUp (handle : Handle width)
  | modify (handle : Handle width) (change : α → α)
  | link (linking : Linking width)

/-- An arena of this capacity that shows the values of these entries under their handles, and
nothing else. -/
structure Shows (arena : Arena width α) (capacity : Nat) (entries : List (Entry width α)) :
    Prop where
  capacity_eq : arena.capacity = capacity
  size_eq : arena.size = entries.length
  length_le : entries.length ≤ capacity
  numbered : ∀ (position : Nat) (entry : Entry width α), entries[position]? = some entry →
    entry.handle ≠ .nil ∧ entry.handle.toNat = position
  insert_of_room : ∀ value, entries.length < capacity → ∃ handle grown,
    arena.insert value = .ok (handle, grown) ∧ handle ≠ .nil ∧ handle.toNat = entries.length ∧
      ∀ entry ∈ entries, entry.handle ≠ handle
  insert_of_full : ∀ value, entries.length = capacity → arena.insert value = .error ⟨value⟩
  /-- Where there is room for a value, its slot has a handle. -/
  handle_of_room : arena.size ≠ arena.capacity →
    ∃ handle : Handle width, Handle.ofSlot? arena.size = some handle
  get?_eq_some_iff : ∀ handle value, arena.get? handle = some value ↔
    ∃ entry ∈ entries, entry.handle = handle ∧ entry.value = value
  contains_iff : ∀ handle : Handle width, Store.contains arena handle = true ↔
    handle ≠ .nil ∧ handle.toNat < entries.length
  get?_eq_getUnchecked : ∀ (handle : Handle width) (inUse : handle.toNat < arena.slots.size),
    arena.get? handle = some (arena.getUnchecked handle inUse)
  modify_eq_modifyUnchecked : ∀ (handle : Handle width)
    (inUse : handle.toNat < arena.slots.size) (change : α → α),
    arena.modify change handle = arena.modifyUnchecked change handle inUse
  modify_of_vacant : ∀ (handle : Handle width) (change : α → α),
    entries.length ≤ handle.toNat → arena.modify change handle = arena

/-- The entries are those of the slots in use, in the order of their numbers. -/
structure Accounts (arena : Arena width α) (entries : List (Entry width α)) : Prop where
  size_eq : arena.size = entries.length
  numbered : ∀ (position : Nat) (entry : Entry width α), entries[position]? = some entry →
    entry.handle.toNat = position
  found : ∀ entry ∈ entries, arena.get? entry.handle = some entry.value

namespace Accounts

variable {arena : Arena width α} {entries : List (Entry width α)}

/-- Changing values entry by entry, and the arena alike. -/
theorem map (accounts : Accounts arena entries) {after : Arena width α}
    {alter : Entry width α → Entry width α} (sameSize : after.size = arena.size)
    (sameHandle : ∀ entry, (alter entry).handle = entry.handle)
    (altered : ∀ entry ∈ entries, after.get? entry.handle = some (alter entry).value) :
    Accounts after (entries.map alter) where
  size_eq := by rw [List.length_map, sameSize, accounts.size_eq]
  numbered := by
    intro position entry found
    rw [List.getElem?_map, Option.map_eq_some_iff] at found
    obtain ⟨before, held, rfl⟩ := found
    rw [sameHandle]
    exact accounts.numbered position before held
  found := by
    intro entry member
    obtain ⟨before, held, rfl⟩ := List.mem_map.mp member
    rw [sameHandle]
    exact altered before held

theorem insert (accounts : Accounts arena entries) {value : α} {handle : Handle width}
    {grown : Arena width α} (inserted : arena.insert value = .ok (handle, grown)) :
    Accounts grown (entries ++ [⟨handle, value, []⟩]) := by
  obtain ⟨-, atEnd, slots, -⟩ := insert_eq_ok_iff.mp inserted
  have looked (other : Handle width) :
      grown.get? other = if other = handle then some value else arena.get? other :=
    Store.get?_insert value arena handle grown inserted other
  refine ⟨?_, ?_, ?_⟩
  · rw [size, slots, Array.size_push, List.length_append, ← accounts.size_eq]
    rfl
  · intro position entry found
    rcases Nat.lt_or_ge position entries.length with before | behind
    · rw [List.getElem?_append_left before] at found
      exact accounts.numbered position entry found
    · rw [List.getElem?_append_right behind, List.getElem?_singleton] at found
      split at found
      case isTrue last =>
        obtain rfl := Option.some.inj found
        rw [atEnd, accounts.size_eq]
        omega
      case isFalse => cases found
  · intro entry member
    rw [looked]
    rcases List.mem_append.mp member with earlier | last
    · have held := accounts.found entry earlier
      have vacant : arena.get? handle = none :=
        Store.vacant_of_insert value arena handle grown inserted
      have different : entry.handle ≠ handle := by
        intro same
        rw [same, vacant] at held
        cases held
      rwa [if_neg different]
    · obtain rfl := List.mem_singleton.mp last
      rw [if_pos rfl]
      rfl

theorem modify (accounts : Accounts arena entries) (handle : Handle width) (change : α → α) :
    Accounts (arena.modify change handle)
      (entries.map fun entry => if entry.handle = handle then entry.change change else entry) := by
  refine accounts.map (size_modify change handle arena) (fun entry => ?_) (fun entry member => ?_)
  · split <;> rfl
  · rw [get?_modify, accounts.found entry member]
    split
    · rw [Option.map_some, Entry.value_change]
    · rfl

theorem handle_lt (accounts : Accounts arena entries) {entry : Entry width α}
    (member : entry ∈ entries) : entry.handle.toNat < entries.length := by
  obtain ⟨position, held⟩ := List.mem_iff_getElem?.mp member
  rw [accounts.numbered position entry held]
  exact (List.getElem?_eq_some_iff.mp held).1

theorem ne_nil (accounts : Accounts arena entries) {handle : Handle width}
    (inUse : handle.toNat < entries.length) : handle ≠ .nil := by
  have reach := arena.size_le_slotLimit
  rw [accounts.size_eq] at reach
  exact Handle.ne_nil_iff.mpr (Nat.lt_of_lt_of_le inUse reach)

/-- A handle that finds something is that of an entry. -/
theorem get?_eq_some_iff (accounts : Accounts arena entries) {handle : Handle width} {value : α} :
    arena.get? handle = some value ↔
      ∃ entry ∈ entries, entry.handle = handle ∧ entry.value = value := by
  constructor
  · intro held
    have inUse : handle.toNat < entries.length := by
      rw [← accounts.size_eq]
      exact Store.toNat_lt_extent arena handle value held
    have member := List.getElem_mem inUse
    have same : entries[handle.toNat].handle = handle :=
      Handle.toNat_inj.mp (accounts.numbered _ _ (List.getElem?_eq_getElem inUse))
    refine ⟨_, member, same, ?_⟩
    have held' := accounts.found _ member
    rw [same, held] at held'
    exact (Option.some.inj held').symm
  · rintro ⟨entry, member, rfl, rfl⟩
    exact accounts.found entry member

theorem contains_iff (accounts : Accounts arena entries) {handle : Handle width} :
    Store.contains arena handle = true ↔ handle ≠ .nil ∧ handle.toNat < entries.length := by
  change (arena.get? handle).isSome = true ↔ _
  rw [get?_eq, isSome_getElem?, ← accounts.size_eq]
  exact ⟨fun inUse => ⟨accounts.ne_nil (accounts.size_eq ▸ inUse), inUse⟩, And.right⟩

theorem shows (accounts : Accounts arena entries) : Shows arena arena.capacity entries where
  capacity_eq := rfl
  size_eq := accounts.size_eq
  length_le := accounts.size_eq ▸ arena.size_le
  numbered := by
    intro position entry held
    exact ⟨accounts.ne_nil (accounts.handle_lt (List.mem_of_getElem? held)),
      accounts.numbered position entry held⟩
  insert_of_room := by
    intro value room
    cases inserted : arena.insert value with
    | error overflow =>
        obtain ⟨full, -⟩ := insert_eq_error_iff.mp inserted
        rw [accounts.size_eq] at full
        omega
    | ok placed =>
        obtain ⟨handle, grown⟩ := placed
        have grownAccounts := accounts.insert inserted
        obtain ⟨-, atEnd, -⟩ := insert_eq_ok_iff.mp inserted
        rw [accounts.size_eq] at atEnd
        refine ⟨handle, grown, rfl, grownAccounts.ne_nil (by simp [atEnd]), atEnd, ?_⟩
        intro entry member same
        have below := accounts.handle_lt member
        rw [same, atEnd] at below
        exact Nat.lt_irrefl _ below
  insert_of_full := by
    intro value full
    rw [← accounts.size_eq] at full
    exact insert_eq_error_iff.mpr ⟨full, rfl⟩
  handle_of_room := by
    intro room
    cases named : (Handle.ofSlot? arena.size : Option (Handle width)) with
    | none =>
        rw [Handle.ofSlot?_eq_none_iff] at named
        have within := arena.size_le
        exact absurd (Nat.le_antisymm within (Nat.le_trans arena.capacity_le named)) room
    | some handle => exact ⟨handle, rfl⟩
  get?_eq_some_iff := fun _ _ => accounts.get?_eq_some_iff
  contains_iff := fun _ => accounts.contains_iff
  get?_eq_getUnchecked := fun _ inUse => Arena.get?_eq_getUnchecked inUse
  modify_eq_modifyUnchecked := fun _ inUse change => Arena.modify_eq_modifyUnchecked inUse change
  modify_of_vacant := by
    intro handle change vacant
    rw [← accounts.size_eq] at vacant
    exact Arena.modify_of_vacant vacant change

end Accounts

variable [Linked α width]

namespace Operation

/-- The arena after an operation, be it carried out or refused. -/
def perform : Operation width α → Arena width α → Arena width α
  | insert value, arena =>
    match arena.insert value with
    | .error _ => arena
    | .ok (_, grown) => grown
  | clear, arena => arena.clear
  | lookUp _, arena => arena
  | modify handle change, arena => arena.modify change handle
  | link linking, arena => (linking.attempt arena).2

/-- The ledger after an operation on the arena. -/
def enter : Operation width α → Arena width α → List (Entry width α) → List (Entry width α)
  | insert value, arena, entries =>
    match arena.insert value with
    | .error _ => entries
    | .ok (handle, _) => entries ++ [⟨handle, value, []⟩]
  | clear, _, _ => []
  | lookUp _, _, entries => entries
  | modify handle change, _, entries =>
    entries.map fun entry => if entry.handle = handle then entry.change change else entry
  | link linking, arena, entries =>
    let order := linking.written arena
    entries.map fun entry =>
      if entry.handle ∈ order then
        entry.change (Linked.withNext (successor order entry.handle))
      else entry

end Operation

def run (operations : List (Operation width α)) (arena : Arena width α) : Arena width α :=
  operations.foldl (fun arena operation => operation.perform arena) arena

/-- The ledger after a run of operations on the arena. -/
def ledger : List (Operation width α) → Arena width α → List (Entry width α) →
    List (Entry width α)
  | [], _, entries => entries
  | operation :: operations, arena, entries =>
    ledger operations (operation.perform arena) (operation.enter arena entries)

namespace Accounts

variable {arena : Arena width α} {entries : List (Entry width α)}

theorem link (accounts : Accounts arena entries) (linking : Linking width) :
    Accounts (linking.attempt arena).2 ((Operation.link linking).enter arena entries) := by
  rw [Linking.store_attempt]
  have nodup := (Linking.connectable_written linking arena).nodup
  refine accounts.map (size_writeLinks _ arena) (fun entry => ?_) (fun entry member => ?_)
  · split <;> rfl
  · have held : Store.get? arena entry.handle = some entry.value := accounts.found entry member
    change Store.get? (writeLinks _ arena) entry.handle = _
    rw [get?_writeLinks nodup, held]
    split
    · rw [Option.map_some, Entry.value_change]
    · rfl

theorem perform (accounts : Accounts arena entries) (operation : Operation width α) :
    Accounts (operation.perform arena) (operation.enter arena entries) := by
  cases operation with
  | insert value =>
      rw [Operation.perform, Operation.enter]
      cases inserted : arena.insert value with
      | error overflow => exact accounts
      | ok placed => exact accounts.insert inserted
  | clear => exact ⟨rfl, by simp [Operation.enter], by simp [Operation.enter]⟩
  | lookUp handle => exact accounts
  | modify handle change => exact accounts.modify handle change
  | link linking => exact accounts.link linking

theorem run (accounts : Accounts arena entries) (operations : List (Operation width α)) :
    Accounts (run operations arena) (ledger operations arena entries) := by
  induction operations generalizing arena entries with
  | nil => exact accounts
  | cons operation operations ih => exact ih (accounts.perform operation)

end Accounts

theorem capacity_perform (operation : Operation width α) (arena : Arena width α) :
    (operation.perform arena).capacity = arena.capacity := by
  cases operation with
  | insert value =>
      rw [Operation.perform]
      split
      case h_1 => rfl
      case h_2 handle grown inserted => exact (insert_eq_ok_iff.mp inserted).2.2.2
  | clear => rfl
  | lookUp handle => rfl
  | modify handle change => exact capacity_modify change handle arena
  | link linking => exact linking.frame_attempt arena

theorem capacity_run (operations : List (Operation width α)) (arena : Arena width α) :
    (run operations arena).capacity = arena.capacity := by
  induction operations generalizing arena with
  | nil => rfl
  | cons operation operations ih => exact (ih _).trans (capacity_perform operation arena)

/-- The numbers with a handle of their own reach as far as the number of the end marker. -/
theorem le_slotLimit_iff {capacity : Nat} :
    capacity ≤ Handle.slotLimit width ↔
      ∀ slot < capacity, ∃ handle : Handle width, handle ≠ .nil ∧ handle.toNat = slot := by
  constructor
  · intro reach slot below
    obtain ⟨handle, rfl⟩ :=
      Handle.exists_toNat_eq (Nat.le_of_lt (Nat.lt_of_lt_of_le below reach))
    exact ⟨handle, Handle.ne_nil_iff.mpr (Nat.lt_of_lt_of_le below reach), rfl⟩
  · intro named
    by_contra beyond
    obtain ⟨handle, notNil, number⟩ := named _ (Nat.lt_of_not_le beyond)
    exact notNil (Handle.toNat_inj.mp number)

/-- An arena has a capacity that is positive and does not go beyond the handles; from then on
it behaves as the list of what was put into it, whatever is done. -/
theorem behaves_as_ledger (capacity : Nat) :
    ((∃ arena : Arena width α, ofCapacity capacity = .ok arena) ↔
        0 < capacity ∧ capacity ≤ (Handle.nil : Handle width).toNat) ∧
      ((∃ arena : Arena width α, ofCapacity capacity = .ok arena) ↔
        0 < capacity ∧ ∀ slot < capacity, ∃ handle : Handle width,
          handle ≠ .nil ∧ handle.toNat = slot) ∧
      ∀ (arena : Arena width α), ofCapacity capacity = .ok arena →
        ∀ operations : List (Operation width α),
          Shows (run operations arena) capacity (ledger operations arena []) := by
  refine ⟨ofCapacity_eq_ok_iff, ofCapacity_eq_ok_iff.trans (and_congr_right fun _ => ?_), ?_⟩
  · exact le_slotLimit_iff
  · intro arena made operations
    obtain ⟨empty, capacity_eq⟩ := of_ofCapacity made
    have accounts : Accounts arena [] :=
      ⟨by rw [size, empty]; rfl, by simp, by simp⟩
    have shows := (accounts.run operations).shows
    rwa [capacity_run, capacity_eq] at shows

/-- All three slots that have handles of two bits are filled, given up and filled again; one
value too many is refused. -/
theorem behaves_as_ledger_full :
    let arena : Arena 2 (Node 2) := ⟨#[], 3, by decide, by decide, by decide⟩
    let operations : List (Operation 2 (Node 2)) :=
      [.insert ⟨"a", .nil⟩, .insert ⟨"b", .nil⟩, .link (.connect [⟨1⟩, ⟨0⟩]), .clear,
        .insert ⟨"c", .nil⟩, .insert ⟨"d", .nil⟩, .insert ⟨"e", .nil⟩, .insert ⟨"f", .nil⟩,
        .modify ⟨2⟩ (fun node => { node with name := "g" }), .link (.connect [⟨2⟩, ⟨0⟩]),
        .link (.connect [⟨0⟩, .nil]), .lookUp .nil]
    ofCapacity 3 = .ok arena ∧
      Shows (run operations arena) 3 (ledger operations arena []) ∧
      (ledger operations arena []).map (fun entry => (entry.handle, entry.value)) =
        [(⟨0⟩, ⟨"c", .nil⟩), (⟨1⟩, ⟨"d", .nil⟩), (⟨2⟩, ⟨"g", ⟨0⟩⟩)] := by
  intro arena operations
  have made : ofCapacity 3 = .ok arena := rfl
  exact ⟨made, (behaves_as_ledger 3).2.2 arena made operations, by decide⟩

end ArenaChain.Arena
