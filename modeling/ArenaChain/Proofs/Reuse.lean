import ArenaChain.Proofs.Assembly
import ArenaChain.Proofs.Linking
import ArenaChain.Store.Pool

/-!
# Chains in slots that were given up

A store that has been in use for a while has vacant slots here and there, and links of other
nodes may still lead to them.  If it takes slots again, assembling a chain fills the vacant ones
first, the one that was given up last before the others, and then slots that were never taken.
The new chain runs through them in this order, whatever their numbers.

Which slots these are is told from the history of the store alone.  A history can be kept while
the store changes (`History.enter`), and it stays the history of the store whatever the change
(`Since.perform`).  So it is the history that says where a chain is assembled
(`assemble_reuses_slots`).
-/

namespace ArenaChain

open Chain

namespace RemovalStore

/-- What is done to a store of nodes that gives up single slots: nodes are put in as they are,
chains are made, single slots or all of them are given up, single nodes are changed, and attempts
at linking are made. -/
inductive Change (width : Nat) where
  | insert (node : Node width)
  | assemble (nodes : List (Node width))
  | remove (handle : Handle width)
  | clear
  | modify (change : Node width → Node width) (handle : Handle width)
  | link (linking : Linking width)

variable {σ : Type} {width : Nat} [RemovalStore σ width (Node width)]

/-- The store after a change, be it carried out or refused. -/
def Change.perform : Change width → σ → σ
  | .insert node, store => (Store.insertAll [node] store).2
  | .assemble nodes, store => (Chain.assemble nodes store).2
  | .remove handle, store => (RemovalStore.remove handle store).2
  | .clear, store => Store.clear store
  | .modify change handle, store => Store.modify change handle store
  | .link linking, store => (linking.attempt store).2

/-- What becomes of a store by these changes. -/
def after (changes : List (Change width)) (store : σ) : σ :=
  changes.foldl (fun store change => change.perform store) store

end RemovalStore

namespace History

open RemovalStore

section Values

variable {σ α : Type} {width : Nat} [RemovalStore σ width α]

/-- The history after values were put in, up to the first that did not fit. -/
def enterAll : List α → σ → History width → History width
  | [], _, past => past
  | value :: values, store, past =>
    match Store.insert value store with
    | .error _ => past
    | .ok (handle, grown) => enterAll values grown (past.take handle)

end Values

variable {σ : Type} {width : Nat} [RemovalStore σ width (Node width)]

/-- The history of a store after a change.  Clearing begins a new one; removal from a vacant slot
gives up nothing. -/
def enter (past : History width) (store : σ) : Change width → History width
  | .insert node => past.enterAll [node] store
  | .assemble nodes => past.enterAll nodes store
  | .remove handle => if Store.contains store handle then past.free handle else past
  | .clear => .blank
  | .modify _ _ | .link _ => past

/-- The history of a store after these changes. -/
def enterRun : List (Change width) → σ → History width → History width
  | [], _, past => past
  | change :: changes, store, past =>
    enterRun changes (change.perform store) (past.enter store change)

end History

namespace Since

section Steps

variable {σ α : Type} {width : Nat} [RemovalStore σ width α]
variable {outset : σ → Prop} {store : σ} {past : History width}

theorem insertAll (since : Since outset store past) (values : List α) :
    Since outset (Store.insertAll values store).2 (past.enterAll values store) := by
  induction values generalizing store past with
  | nil => exact since
  | cons value values ih =>
      rw [History.enterAll]
      cases inserted : Store.insert value store with
      | error overflow =>
          rw [Store.insertAll_of_full inserted]
          exact since
      | ok placed =>
          rw [Store.insertAll_of_inserted inserted]
          exact ih (since.insert inserted)

variable [Linked α width]

theorem writeLinks (since : Since outset store past) (order : List (Handle width)) :
    Since outset (writeLinks order store) past := by
  induction order generalizing store with
  | nil => exact since
  | cons handle others ih =>
      rw [writeLinks_cons]
      exact ih (since.modify _ _)

theorem attempt (since : Since outset store past) (linking : Linking width) :
    Since outset (linking.attempt store).2 past := by
  rw [linking.store_attempt]
  exact since.writeLinks _

theorem assemble (since : Since outset store past) (values : List α) :
    Since outset (Chain.assemble values store).2 (past.enterAll values store) := by
  have grew := since.insertAll values
  rcases inserted : Store.insertAll values store with ⟨overflow | order, grown⟩
  · rw [inserted] at grew
    rwa [assemble_of_full inserted]
  · rw [inserted] at grew
    rw [assemble_of_inserted inserted]
    exact grew.writeLinks order

end Steps

section Changes

open RemovalStore

variable {σ : Type} {width : Nat} [RemovalStore σ width (Node width)]
variable {store : σ} {past : History width}

/-- Whatever the change, what was entered is the history of the store. -/
theorem perform (since : Since Blank store past) (change : Change width) :
    Since Blank (change.perform store) (past.enter store change) := by
  cases change with
  | insert node => exact since.insertAll [node]
  | assemble nodes => exact since.assemble nodes
  | remove handle =>
      rw [History.enter, Change.perform]
      split
      case isTrue occupied =>
        obtain ⟨node, held⟩ := Store.contains_iff.mp occupied
        exact since.remove held
      case isFalse vacant => exact since.removeVacant (Option.not_isSome_iff_eq_none.mp vacant)
  | clear => exact .outset (.cleared store)
  | modify change handle => exact since.modify change handle
  | link linking => exact since.attempt linking

theorem run (since : Since Blank store past) (changes : List (Change width)) :
    Since Blank (after changes store) (past.enterRun changes store) := by
  induction changes generalizing store past with
  | nil => exact since
  | cons change changes ih => exact ih (since.perform change)

end Changes

section Room

variable {σ α : Type} {width : Nat}

/-- Values go into the slots in line, one after the other, and then into slots never taken. -/
theorem insertAll_of_room [RecyclingStore σ width α] {values : List α} {store : σ}
    {past : History width} (since : Since Blank store past) (room : past.Room values.length) :
    ∃ fresh grown,
      Store.insertAll values store = (.ok (past.line.take values.length ++ fresh), grown) ∧
        fresh.map Handle.toNat = List.range' past.reach (values.length - past.line.length) := by
  induction values generalizing store past with
  | nil => exact ⟨[], store, by simp [Store.insertAll], by simp⟩
  | cons value values ih =>
      rw [History.Room, List.length_cons] at room
      have roomNow : past.Room 1 := by
        rw [History.Room]
        omega
      obtain ⟨handle, longer, inserted, taken⟩ := since.exists_insert_eq_ok roomNow value
      -- As long as slots are in line the reach stays, and the room for the other values is what
      -- it was; once none is left, the values take one new slot after the other.
      rcases taken with ⟨others, line, next⟩ | ⟨exhausted, atEnd, next⟩
      · rw [line, List.length_cons] at room ⊢
        have roomNext : (past.take handle).Room values.length := by
          simp only [History.Room, next]
          omega
        obtain ⟨fresh, grown, rest, numbers⟩ := ih (since.insert inserted) roomNext
        rw [next] at rest numbers
        refine ⟨fresh, grown, ?_, ?_⟩
        · rw [Store.insertAll_of_inserted inserted, rest]
          rfl
        · rw [numbers, List.length_cons, Nat.add_sub_add_right]
      · rw [exhausted, List.length_nil] at room ⊢
        have roomNext : (past.take handle).Room values.length := by
          simp only [History.Room, next, List.length_nil]
          omega
        obtain ⟨fresh, grown, rest, numbers⟩ := ih (since.insert inserted) roomNext
        rw [next] at rest numbers
        refine ⟨handle :: fresh, grown, ?_, ?_⟩
        · rw [Store.insertAll_of_inserted inserted, rest]
          simp [Except.map]
        · rw [List.map_cons, numbers, atEnd]
          rfl

end Room

end Since

namespace RecyclingStore

open RemovalStore

variable {σ : Type} {width : Nat} [RecyclingStore σ width (Node width)]

/-- After any changes of a store that was empty, a chain is assembled in the slots that were given
up last, and then in slots that were never taken.  Whatever links lead to them from the nodes that
were there before, these nodes stay as they are, and the chain runs through the new ones in their
order. -/
theorem assemble_reuses_slots (changes : List (Change width)) (names : List String)
    (room : (History.blank.enterRun changes (empty : σ)).Room names.length) :
    let store : σ := after changes empty
    let past := History.blank.enterRun changes (empty : σ)
    ∃ fresh assembled,
      fresh.map Handle.toNat = List.range' past.reach (names.length - past.line.length) ∧
        let order := past.line.take names.length ++ fresh
        Chain.assemble (names.map Node.ofName) store = (.ok (order.headD .nil), assembled) ∧
          Assembled store names order assembled ∧
          ∀ handle node, Store.get? store handle = some node →
            Store.get? assembled handle = some node := by
  intro store past
  have since : Since Blank store past := Since.run (.outset .empty) changes
  have roomForAll : past.Room (names.map Node.ofName : List (Node width)).length := by
    rwa [List.length_map]
  obtain ⟨fresh, grown, inserted, numbers⟩ := since.insertAll_of_room roomForAll
  rw [List.length_map] at inserted numbers
  have assembled := assembled_of_inserted inserted
  exact ⟨fresh, _, numbers, assemble_of_inserted inserted, assembled,
    fun handle node => assembled.get?_of_occupied⟩

/-- Of five linked nodes two are given up, the one behind the other first, after its slot was
taken and given up before.  The nodes in front of them still lead there.  Of three new nodes,
two of one name, these slots take the first two. -/
theorem assemble_reuses_slots_backwards :
    let changes : List (Change 64) :=
      [.assemble (["a", "b", "c", "d", "e"].map Node.ofName), .remove ⟨3⟩, .insert ⟨"f", ⟨1⟩⟩,
        .remove ⟨1⟩, .remove ⟨3⟩]
    let pool : Pool 64 (Node 64) := after changes empty
    let past := History.blank.enterRun changes (empty : Pool 64 (Node 64))
    past.Room ["", "x", "x"].length ∧ past = ⟨[⟨3⟩, ⟨1⟩], 5⟩ ∧
      (pool.get? ⟨0⟩).map Node.next = some ⟨1⟩ ∧ (pool.get? ⟨2⟩).map Node.next = some ⟨3⟩ ∧
        ∃ assembled, Chain.assemble (["", "x", "x"].map Node.ofName) pool = (.ok ⟨3⟩, assembled) ∧
          Assembled pool ["", "x", "x"] [⟨3⟩, ⟨1⟩, ⟨5⟩] assembled := by
  intro changes pool past
  have line : past.line = [⟨3⟩, ⟨1⟩] := by decide
  have reach : past.reach = 5 := by decide
  have room : past.Room ["", "x", "x"].length := by
    rw [History.Room, line, reach]
    decide
  obtain ⟨fresh, assembled, numbers, assembles, chain, -⟩ :=
    assemble_reuses_slots changes ["", "x", "x"] room
  rw [line, reach] at numbers
  obtain ⟨last, others, rfl, number, rest⟩ := List.map_eq_cons_iff.mp numbers
  obtain rfl : others = [] := List.map_eq_nil_iff.mp rest
  obtain rfl : last = ⟨5⟩ := Handle.toNat_inj.mp number
  rw [line] at assembles chain
  exact ⟨room, History.ext line reach, by decide, by decide, assembled, assembles, chain⟩

end RecyclingStore

end ArenaChain
