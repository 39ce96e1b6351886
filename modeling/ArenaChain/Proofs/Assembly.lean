import ArenaChain.Proofs.Arrangement
import ArenaChain.Proofs.Frame

/-!
# Assembled chains

A chain that was assembled in any store runs through the slots of its nodes in the order of
their names.  These slots were vacant, and no other slot is touched, so links that led to
them from elsewhere do not disturb the chain (`assembled_of_inserted`).

In an arena the slots are those behind the last one in use.  So assembling appends the new
nodes to the old ones.  If there is no room for all of them, as many go in as there is room
for, and they are not linked (`assemble_appends`).
-/

namespace ArenaChain

namespace Store

variable {σ α : Type} {width : Nat} [Store σ width α]
variable {values : List α} {store grown : σ} {order : List (Handle width)}

/-- Each of the values that went in is found in the slot that it was put into. -/
theorem map_get?_insertAll (inserted : insertAll values store = (.ok order, grown)) :
    order.map (get? grown) = values.map some := by
  induction values generalizing store order with
  | nil =>
      obtain ⟨rfl, -⟩ := insertAll_nil_eq_ok_iff.mp inserted
      rfl
  | cons value values ih =>
      obtain ⟨fresh, bigger, others, insertion, rest, rfl⟩ := insertAll_cons_eq_ok_iff.mp inserted
      have taken : get? bigger fresh = some value := by
        rw [get?_insert _ _ _ _ insertion, if_pos rfl]
      have stays : get? (insertAll values bigger).2 fresh = some value :=
        get?_insertAll_of_occupied taken
      rw [rest] at stays
      rw [List.map_cons, List.map_cons, ih rest, stays]

theorem get?_insertAll_of_not_mem (inserted : insertAll values store = (.ok order, grown))
    {handle : Handle width} (outside : handle ∉ order) :
    get? grown handle = get? store handle := by
  induction values generalizing store order with
  | nil =>
      obtain ⟨-, rfl⟩ := insertAll_nil_eq_ok_iff.mp inserted
      rfl
  | cons value values ih =>
      obtain ⟨fresh, bigger, others, insertion, rest, rfl⟩ := insertAll_cons_eq_ok_iff.mp inserted
      obtain ⟨different, outsideOthers⟩ := not_or.mp (outside ∘ List.mem_cons.mpr)
      rw [ih rest outsideOthers, get?_insert _ _ _ _ insertion, if_neg different]

end Store

open Chain

/-- A chain of nodes with these names was made in slots that were vacant before, in the order
of the names, and nothing else was changed. -/
structure Assembled {σ : Type} {width : Nat} [Store σ width (Node width)] (before : σ)
    (names : List String) (order : List (Handle width)) (after : σ) : Prop where
  vacant : ∀ handle ∈ order, Store.get? before handle = none
  nodup : order.Nodup
  outside : ∀ handle ∉ order, Store.get? after handle = Store.get? before handle
  chain : ∃ items, items.map Prod.fst = order ∧ items.map (fun item => item.2.name) = names ∧
    Closes after (order.headD .nil) items

namespace Assembled

variable {σ : Type} {width : Nat} [Store σ width (Node width)]
variable {before after : σ} {names : List String} {order : List (Handle width)}

/-- Nodes that were there before keep their names and links. -/
theorem get?_of_occupied (assembled : Assembled before names order after)
    {handle : Handle width} {node : Node width} (held : Store.get? before handle = some node) :
    Store.get? after handle = some node := by
  have outside : handle ∉ order := by
    intro member
    rw [assembled.vacant handle member] at held
    cases held
  rw [assembled.outside handle outside, held]

end Assembled

theorem assembled_of_inserted {σ : Type} {width : Nat} [Store σ width (Node width)]
    {store grown : σ} {names : List String} {order : List (Handle width)}
    (inserted : Store.insertAll (names.map Node.ofName) store = (.ok order, grown)) :
    Assembled store names order (writeLinks order grown) := by
  obtain ⟨sound, vacant⟩ := connectable_insertAll inserted
  obtain ⟨items, handles, named, closes⟩ := (arranges_writeLinks sound).inOrder
  refine ⟨vacant, sound.nodup, ?_, items, handles, ?_, closes⟩
  · intro handle outside
    rw [get?_writeLinks_of_not_mem outside, Store.get?_insertAll_of_not_mem inserted outside]
  · apply List.map_injective_iff.mpr fun _ _ => Option.some.inj
    calc
      (items.map fun item => item.2.name).map some =
          items.map fun item => (Store.get? grown item.1).map Node.name := by
        rw [List.map_map]
        exact List.map_congr_left fun item member => (named item member).symm
      _ = (order.map (Store.get? grown)).map (Option.map Node.name) := by
        rw [← handles, List.map_map, List.map_map]
        rfl
      _ = names.map some := by
        rw [Store.map_get?_insertAll inserted]
        simp [Function.comp_def, Node.ofName]

namespace Arena

section Values

variable {width : Nat} {α : Type}

theorem exists_insert_eq_ok {arena : Arena width α} (value : α)
    (room : arena.size < arena.capacity) :
    ∃ handle grown, Store.insert value arena = .ok (handle, grown) ∧
      handle.toNat = arena.size ∧ grown.slots = arena.slots.push value ∧
        grown.size = arena.size + 1 ∧ grown.capacity = arena.capacity := by
  cases inserted : arena.insert value with
  | error overflow =>
      have full := (insert_eq_error_iff.mp inserted).1
      omega
  | ok placed =>
      obtain ⟨handle, grown⟩ := placed
      obtain ⟨-, atEnd, slots, capacity⟩ := insert_eq_ok_iff.mp inserted
      refine ⟨handle, grown, inserted, atEnd, slots, ?_, capacity⟩
      rw [size, slots, Array.size_push, size]

/-- Values for which there is room go into the slots behind those in use. -/
theorem insertAll_of_room {values : List α} {arena : Arena width α}
    (room : arena.size + values.length ≤ arena.capacity) :
    ∃ order grown, Store.insertAll values arena = (.ok order, grown) ∧
      order.map Handle.toNat = List.range' arena.size values.length ∧
        grown.slots.toList = arena.slots.toList ++ values ∧ grown.capacity = arena.capacity := by
  induction values generalizing arena with
  | nil => exact ⟨[], arena, rfl, rfl, (List.append_nil _).symm, rfl⟩
  | cons value values ih =>
      rw [List.length_cons] at room
      have roomNow : arena.size < arena.capacity := by omega
      obtain ⟨handle, longer, inserted, atEnd, slots, longerSize, capacity⟩ :=
        exists_insert_eq_ok value roomNow
      have roomNext : longer.size + values.length ≤ longer.capacity := by omega
      obtain ⟨order, grown, rest, numbers, others, sameCapacity⟩ := ih roomNext
      refine ⟨handle :: order, grown, ?_, ?_, ?_, sameCapacity.trans capacity⟩
      · rw [Store.insertAll_of_inserted inserted, rest]
        rfl
      · rw [List.map_cons, numbers, atEnd, longerSize, List.length_cons, List.range'_succ]
      · rw [others, slots, Array.toList_push, List.append_assoc, List.singleton_append]

/-- Of too many values the first ones fill the arena, and the next one is handed back. -/
theorem insertAll_of_overflow {values : List α} {arena : Arena width α}
    (beyond : arena.capacity < arena.size + values.length) :
    ∃ rejected grown, Store.insertAll values arena = (.error ⟨rejected⟩, grown) ∧
      values[arena.capacity - arena.size]? = some rejected ∧
        grown.slots.toList =
            arena.slots.toList ++ values.take (arena.capacity - arena.size) ∧
          grown.capacity = arena.capacity := by
  have within : arena.size ≤ arena.capacity := arena.size_le
  induction values generalizing arena with
  | nil =>
      rw [List.length_nil] at beyond
      omega
  | cons value values ih =>
      rw [List.length_cons] at beyond
      rcases Nat.lt_or_eq_of_le within with room | full
      · obtain ⟨handle, longer, inserted, -, slots, longerSize, capacity⟩ :=
          exists_insert_eq_ok value room
        have beyondNext : longer.capacity < longer.size + values.length := by omega
        obtain ⟨rejected, grown, rest, next, others, sameCapacity⟩ := ih beyondNext longer.size_le
        have oneLess : arena.capacity - arena.size = longer.capacity - longer.size + 1 := by
          omega
        refine ⟨rejected, grown, ?_, ?_, ?_, sameCapacity.trans capacity⟩
        · rw [Store.insertAll_of_inserted inserted, rest]
          rfl
        · rw [oneLess, List.getElem?_cons_succ, next]
        · rw [oneLess, List.take_succ_cons, others, slots, Array.toList_push,
            List.append_assoc, List.singleton_append]
      · have refused : Store.insert value arena = .error ⟨value⟩ :=
          insert_eq_error_iff.mpr ⟨full, rfl⟩
        refine ⟨value, arena, Store.insertAll_of_full refused values, ?_, ?_, rfl⟩
        · rw [full, Nat.sub_self, List.getElem?_cons_zero]
        · rw [full, Nat.sub_self, List.take_zero, List.append_nil]

/-- An arena in which new values were put behind the old ones. -/
theorem toList_slots_eq_append {before after : Arena width α} {items : List (Handle width × α)}
    (size_eq : after.size = before.size + items.length)
    (kept : ∀ handle : Handle width, handle.toNat < before.size →
      after.get? handle = before.get? handle)
    (numbers : items.map (fun item => item.1.toNat) = List.range' before.size items.length)
    (found : ∀ item ∈ items, after.get? item.1 = some item.2) :
    after.slots.toList = before.slots.toList ++ items.map Prod.snd := by
  refine List.ext_getElem? fun position => ?_
  rw [List.getElem?_append, Array.length_toList, Array.getElem?_toList, Array.getElem?_toList]
  split
  case isTrue old =>
    obtain ⟨handle, rfl⟩ :=
      Handle.exists_toNat_eq (Nat.le_trans (Nat.le_of_lt old) before.size_le_slotLimit)
    rw [← get?_eq, ← get?_eq, kept handle old]
  case isFalse notOld =>
    change ¬position < before.size at notOld
    obtain ⟨place, rfl⟩ := Nat.exists_eq_add_of_le (Nat.le_of_not_lt notOld)
    change after.slots[before.size + place]? =
      (items.map Prod.snd)[before.size + place - before.size]?
    rw [Nat.add_sub_cancel_left, List.getElem?_map]
    cases placed : items[place]? with
    | none =>
        have behind := List.getElem?_eq_none_iff.mp placed
        have beyond : after.size ≤ before.size + place := by omega
        exact Array.getElem?_eq_none beyond
    | some item =>
        obtain ⟨bound, rfl⟩ := List.getElem?_eq_some_iff.mp placed
        have number : items[place].1.toNat = before.size + place := by
          have same := congrArg (fun list : List Nat => list[place]?) numbers
          simpa [bound, List.getElem?_range'] using same
        rw [← number, ← get?_eq, found _ (List.getElem_mem bound)]
        rfl

end Values

section Nodes

variable {width : Nat} {before grown after : Arena width (Node width)} {names : List String}
variable {order : List (Handle width)}

/-- Nodes with these names were put behind the others and linked in their order, from this
head on. -/
structure Appended (before : Arena width (Node width)) (names : List String)
    (head : Handle width) (after : Arena width (Node width)) : Prop where
  capacity_eq : after.capacity = before.capacity
  head_of_no_names : names = [] → head = .nil
  head_of_names : names ≠ [] → head ≠ .nil ∧ head.toNat = before.size
  chain : ∃ items, items.map (fun item => item.1.toNat) = List.range' before.size names.length ∧
    items.map (fun item => item.2.name) = names ∧ Closes after head items ∧
      after.slots.toList = before.slots.toList ++ items.map Prod.snd

theorem appended_writeLinks
    (inserted : Store.insertAll (names.map Node.ofName) before = (.ok order, grown))
    (numbers : order.map Handle.toNat = List.range' before.size names.length)
    (slots : grown.slots.toList = before.slots.toList ++ names.map Node.ofName)
    (sameCapacity : grown.capacity = before.capacity) :
    Appended before names (order.headD .nil) (writeLinks order grown) := by
  have assembled := assembled_of_inserted inserted
  obtain ⟨items, handles, named, closes⟩ := assembled.chain
  have length : items.length = names.length := by rw [← named, List.length_map]
  have itemNumbers : items.map (fun item => item.1.toNat) =
      List.range' before.size items.length := by
    rw [length, ← numbers, ← handles, List.map_map]
    rfl
  refine ⟨(Framed.frame_writeLinks order grown).trans sameCapacity, ?_, ?_, items, ?_, named,
    closes, toList_slots_eq_append ?_ ?_ itemNumbers ?_⟩
  · rintro rfl
    rw [List.map_eq_nil_iff.mp numbers, List.headD_nil]
  · intro notNone
    obtain ⟨name, others, rfl⟩ := List.exists_cons_of_ne_nil notNone
    rw [List.length_cons, List.range'_succ] at numbers
    obtain ⟨first, rest, rfl, number, -⟩ := List.map_eq_cons_iff.mp numbers
    obtain ⟨node, held⟩ :=
      Store.contains_iff.mp ((connectable_insertAll inserted).1.occupied first List.mem_cons_self)
    exact ⟨Store.ne_nil_of_get? held, number⟩
  · rw [itemNumbers, length]
  · rw [size_writeLinks, length, size, ← Array.length_toList, slots, List.length_append,
      Array.length_toList, List.length_map, size]
  · intro handle old
    apply assembled.outside
    intro member
    have new : handle.toNat ∈ List.range' before.size names.length := by
      rw [← numbers]
      exact List.mem_map_of_mem member
    rw [List.mem_range'_1] at new
    omega
  · exact fun item member => closes.yields.get?_of_mem member

/-- Assembling a chain in an arena appends its nodes, linked in the order of their names, if
there is room for all of them.  Otherwise it appends as many as there is room for, without
links, and hands back the next one. -/
theorem assemble_appends (names : List String) (arena : Arena width (Node width)) :
    (arena.size + names.length ≤ arena.capacity →
        ∃ head after, Chain.assemble (names.map Node.ofName) arena = (.ok head, after) ∧
          Appended arena names head after) ∧
      (arena.capacity < arena.size + names.length →
        ∃ rejected after, Chain.assemble (names.map Node.ofName) arena =
            (.error ⟨Node.ofName rejected⟩, after) ∧
          names[arena.capacity - arena.size]? = some rejected ∧
            after.capacity = arena.capacity ∧
              after.slots.toList = arena.slots.toList ++
                (names.take (arena.capacity - arena.size)).map Node.ofName) := by
  constructor
  · intro room
    have roomForAll : arena.size + (names.map Node.ofName : List (Node width)).length ≤
        arena.capacity := by rwa [List.length_map]
    obtain ⟨order, grown, inserted, numbers, slots, capacity⟩ := insertAll_of_room roomForAll
    rw [List.length_map] at numbers
    exact ⟨_, _, assemble_of_inserted inserted,
      appended_writeLinks inserted numbers slots capacity⟩
  · intro beyond
    have tooMany : arena.capacity <
        arena.size + (names.map Node.ofName : List (Node width)).length := by
      rwa [List.length_map]
    obtain ⟨rejected, after, full, next, slots, capacity⟩ := insertAll_of_overflow tooMany
    rw [List.getElem?_map, Option.map_eq_some_iff] at next
    obtain ⟨name, named, rfl⟩ := next
    rw [← List.map_take] at slots
    exact ⟨name, after, assemble_of_full full, named, capacity, slots⟩

/-- Two slots are left, and to both of them old links lead.  Two nodes without names of their
own just fit; of three the last one is handed back. -/
theorem assemble_appends_full :
    let arena : Arena 8 (Node 8) :=
      ⟨#[⟨"a", ⟨3⟩⟩, ⟨"b", ⟨2⟩⟩], 4, by decide, by decide, by decide⟩
    (arena.size + ["", ""].length ≤ arena.capacity ∧
        ∃ head after, Chain.assemble (["", ""].map Node.ofName) arena = (.ok head, after) ∧
          Appended arena ["", ""] head after) ∧
      (arena.capacity < arena.size + ["", "", "c"].length ∧
        ∃ rejected after, Chain.assemble (["", "", "c"].map Node.ofName) arena =
            (.error ⟨Node.ofName rejected⟩, after) ∧
          ["", "", "c"][arena.capacity - arena.size]? = some rejected) := by
  intro arena
  have room : arena.size + ["", ""].length ≤ arena.capacity := by decide
  have beyond : arena.capacity < arena.size + ["", "", "c"].length := by decide
  obtain ⟨rejected, after, refused, next, -⟩ := (assemble_appends ["", "", "c"] arena).2 beyond
  exact ⟨⟨room, (assemble_appends ["", ""] arena).1 room⟩, beyond, rejected, after, refused, next⟩

end Nodes

end Arena

end ArenaChain
