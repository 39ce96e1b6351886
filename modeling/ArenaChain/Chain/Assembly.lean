import ArenaChain.Chain.Connection

/-!
# Assembling a chain from values

`assemble` puts values into a store and makes a chain of them, in the order in
which they were given.  If the store fills up on the way, the values that went in
stay there as they are, and the first that did not is handed back.
-/

namespace ArenaChain

variable {σ α : Type} {width : Nat} [Store σ width α]

/-- Put values into a store one after the other, up to the first that does not fit,
and name their slots. -/
def Store.insertAll : List α → σ → Except (Overflow α) (List (Handle width)) × σ
  | [], store => (.ok [], store)
  | value :: values, store =>
    match Store.insert value store with
    | .error overflow => (.error overflow, store)
    | .ok (handle, grown) =>
      match insertAll values grown with
      | (.error overflow, final) => (.error overflow, final)
      | (.ok handles, final) => (.ok (handle :: handles), final)

def Chain.assemble [Linked α width] (values : List α) (store : σ) :
    Except (Overflow α) (Handle width) × σ :=
  match Store.insertAll values store with
  | (.error overflow, store) => (.error overflow, store)
  | (.ok order, store) => (.ok (order.headD .nil), writeLinks order store)

theorem Store.insertAll_of_full {value : α} {store : σ} {overflow : Overflow α}
    (full : Store.insert value store = .error overflow) (values : List α) :
    Store.insertAll (value :: values) store = (.error overflow, store) := by
  simp [insertAll, full]

theorem Store.insertAll_of_inserted {value : α} {store grown : σ} {handle : Handle width}
    (inserted : Store.insert value store = .ok (handle, grown)) (values : List α) :
    Store.insertAll (value :: values) store =
      ((Store.insertAll values grown).1.map (handle :: ·), (Store.insertAll values grown).2) := by
  rcases rest : Store.insertAll values grown with ⟨_ | others, final⟩ <;>
    simp [insertAll, inserted, rest, Except.map]

theorem Store.insertAll_nil_eq_ok_iff {store final : σ} {order : List (Handle width)} :
    Store.insertAll ([] : List α) store = (.ok order, final) ↔ order = [] ∧ final = store := by
  simp [insertAll, eq_comm]

/-- All values went in if the first one did and then the others did. -/
theorem Store.insertAll_cons_eq_ok_iff {value : α} {values : List α} {store final : σ}
    {order : List (Handle width)} :
    Store.insertAll (value :: values) store = (.ok order, final) ↔
      ∃ handle grown others, Store.insert value store = .ok (handle, grown) ∧
        Store.insertAll values grown = (.ok others, final) ∧ order = handle :: others := by
  constructor
  · intro all
    cases insertion : Store.insert value store with
    | error overflow => simp [insertAll_of_full insertion] at all
    | ok placed =>
        obtain ⟨handle, grown⟩ := placed
        rw [insertAll_of_inserted insertion] at all
        rcases rest : Store.insertAll values grown with ⟨_ | others, last⟩
        · simp [rest, Except.map] at all
        · simp only [rest, Except.map, Prod.mk.injEq, Except.ok.injEq] at all
          obtain ⟨rfl, rfl⟩ := all
          exact ⟨handle, grown, others, rfl, rest, rfl⟩
  · rintro ⟨handle, grown, others, insertion, rest, rfl⟩
    rw [insertAll_of_inserted insertion, rest]
    rfl

theorem Chain.assemble_of_full [Linked α width] {values : List α} {store grown : σ}
    {overflow : Overflow α}
    (full : Store.insertAll values store = (.error overflow, grown)) :
    Chain.assemble values store = (.error overflow, grown) := by
  simp [assemble, full]

theorem Chain.assemble_of_inserted [Linked α width] {values : List α} {store grown : σ}
    {order : List (Handle width)}
    (inserted : Store.insertAll values store = (.ok order, grown)) :
    Chain.assemble values store = (.ok (order.headD .nil), writeLinks order grown) := by
  simp [assemble, inserted]

/-- Values that are in the store already stay where they are. -/
theorem Store.get?_insertAll_of_occupied {values : List α} {store : σ}
    {handle : Handle width} {held : α} (found : Store.get? store handle = some held) :
    Store.get? (Store.insertAll values store).2 handle = some held := by
  induction values generalizing store with
  | nil => exact found
  | cons value values ih =>
      cases insertion : Store.insert value store with
      | error overflow => rwa [insertAll_of_full insertion]
      | ok placed =>
          have different : handle ≠ placed.1 := by
            rintro rfl
            rw [Store.vacant_of_insert _ _ _ _ insertion] at found
            cases found
          rw [insertAll_of_inserted insertion]
          exact ih (by rwa [Store.get?_insert _ _ _ _ insertion, if_neg different])

end ArenaChain
