import ArenaChain.Proofs.SessionCorrespondence
import ArenaChain.Store.Arena

/-!
# Handles of another width

How many bits a handle has settles how many slots can have one, and which word is the end
marker.  It settles nothing else.  Read a handle as the number of the slot that it names, the
end marker as none at all (`Handle.slot?`): then a session on an arena goes the same way with
handles of another width, as long as both widths have a handle for every slot of the arena.

The arena may be so large that its last slot has the largest number below an end marker.
-/

namespace ArenaChain

variable {v w width : Nat}

namespace Handle

/-- The number of the slot that is named; the end marker names none. -/
def slot? (handle : Handle width) : Option Nat :=
  if handle = .nil then none else some handle.toNat

theorem slot?_eq_none_iff {handle : Handle width} : handle.slot? = none ↔ handle = .nil := by
  simp [slot?]

/-- Handles that name the same slot are both the end marker or have the same number. -/
theorem slot?_eq_iff {handle : Handle v} {other : Handle w} :
    handle.slot? = other.slot? ↔
      handle = .nil ∧ other = .nil ∨ handle ≠ .nil ∧ other ≠ .nil ∧ handle.toNat = other.toNat := by
  unfold slot?
  split <;> split <;> simp_all

theorem slot?_inj {first second : Handle width} :
    first.slot? = second.slot? ↔ first = second := by
  constructor
  · intro same
    rcases slot?_eq_iff.mp same with ⟨rfl, rfl⟩ | ⟨-, -, number⟩
    · rfl
    · exact toNat_inj.mp number
  · rintro rfl
    rfl

/-- The handles that one width has in common with another: the end marker, and those whose
number is below the other end marker as well. -/
theorem exists_slot?_eq_iff {handle : Handle v} :
    (∃ other : Handle w, handle.slot? = other.slot?) ↔
      handle = .nil ∨ handle.toNat < slotLimit w := by
  constructor
  · rintro ⟨other, same⟩
    rcases slot?_eq_iff.mp same with ⟨isNil, -⟩ | ⟨-, otherNamed, number⟩
    · exact .inl isNil
    · exact .inr (number ▸ ne_nil_iff.mp otherNamed)
  · rintro (rfl | below)
    · exact ⟨.nil, slot?_eq_iff.mpr (.inl ⟨rfl, rfl⟩)⟩
    · by_cases isNil : handle = .nil
      · exact ⟨.nil, slot?_eq_iff.mpr (.inl ⟨isNil, rfl⟩)⟩
      · obtain ⟨other, number⟩ := exists_toNat_eq (Nat.le_of_lt below)
        have otherNamed : other ≠ .nil := ne_nil_iff.mpr (number ▸ below)
        exact ⟨other, slot?_eq_iff.mpr (.inr ⟨isNil, otherNamed, number.symm⟩)⟩

end Handle

/-- Handles stand for each other if they name the same slot or none, and nodes if they have
the same name and such links. -/
def Correspondence.resizing : Correspondence v w (Node v) (Node w) where
  Handles handle other := handle.slot? = other.slot?
  Values node other := node.name = other.name ∧ node.next.slot? = other.next.slot?
  nil := by rw [Handle.slot?_eq_none_iff.mpr rfl, Handle.slot?_eq_none_iff.mpr rfl]
  biUnique := by
    constructor
    · intro handle again other same sameToo
      exact Handle.slot?_inj.mp (same.trans sameToo.symm)
    · intro handle other again same sameToo
      exact Handle.slot?_inj.mp (same.symm.trans sameToo)
  next nodes := nodes.2
  withNext targets nodes := ⟨nodes.1, targets⟩

open Correspondence

/-- The same arena with handles of another width: of the same capacity, and with the same
nodes in the same slots. -/
structure Resized (arena : Arena v (Node v)) (other : Arena w (Node w)) : Prop where
  capacity_eq : arena.capacity = other.capacity
  size_eq : arena.size = other.size
  slots : ∀ slot : Nat, Option.Rel resizing.Values arena.slots[slot]? other.slots[slot]?

namespace Resized

variable {arena : Arena v (Node v)} {other : Arena w (Node w)}

theorem stores (resized : Resized arena other) : resizing.Stores arena other := by
  intro handle otherHandle handles
  change Option.Rel _ (arena.get? handle) (other.get? otherHandle)
  rcases Handle.slot?_eq_iff.mp handles with ⟨rfl, rfl⟩ | ⟨-, -, number⟩
  · rw [Arena.get?, Arena.get?, if_pos rfl, if_pos rfl]
    exact .none
  · rw [Arena.get?_eq, Arena.get?_eq, number]
    exact resized.slots _

theorem writeLink (resized : Resized arena other) {handle target : Handle v}
    {otherHandle otherTarget : Handle w} (handles : resizing.Handles handle otherHandle)
    (targets : resizing.Handles target otherTarget) :
    Resized (Store.writeLink handle target arena)
      (Store.writeLink otherHandle otherTarget other) := by
  change Resized (arena.modify (Linked.withNext target) handle)
    (other.modify (Linked.withNext otherTarget) otherHandle)
  rcases Handle.slot?_eq_iff.mp handles with ⟨rfl, rfl⟩ | ⟨-, -, number⟩
  · rw [Arena.modify, Arena.modify, if_pos rfl, if_pos rfl]
    exact resized
  · refine ⟨?_, ?_, fun slot => ?_⟩
    · rw [Arena.capacity_modify, Arena.capacity_modify, resized.capacity_eq]
    · rw [Arena.size_modify, Arena.size_modify, resized.size_eq]
    · have nodes := resized.slots slot
      rw [Arena.slots_modify, Arena.slots_modify, Array.getElem?_modify, Array.getElem?_modify,
        number]
      split
      · generalize arena.slots[slot]? = found at nodes ⊢
        generalize other.slots[slot]? = otherFound at nodes ⊢
        cases nodes with
        | none => exact .none
        | some nodes => exact .some (resizing.withNext targets nodes)
      · exact nodes

theorem clear (resized : Resized arena other) :
    Resized (Store.clear arena) (Store.clear other) :=
  ⟨resized.capacity_eq, rfl, fun _ => .none⟩

/-- Both put a value into the slot of the same number, or both are full. -/
theorem insert (resized : Resized arena other) {node : Node v} {otherNode : Node w}
    (nodes : resizing.Values node otherNode) :
    Outcomes
      (fun overflow otherOverflow =>
        resizing.Values overflow.rejected otherOverflow.rejected)
      (fun placed otherPlaced => resizing.Handles placed.1 otherPlaced.1 ∧
        Resized placed.2 otherPlaced.2)
      (Store.insert node arena) (Store.insert otherNode other) := by
  change Outcomes _ _ (arena.insert node) (other.insert otherNode)
  have sameCapacity := resized.capacity_eq
  have sameSize := resized.size_eq
  have reach := arena.capacity_le
  have otherReach := other.capacity_le
  cases inserted : arena.insert node with
  | error overflow =>
      obtain ⟨full, rfl⟩ := Arena.insert_eq_error_iff.mp inserted
      have refused : other.insert otherNode = .error ⟨otherNode⟩ :=
        Arena.insert_eq_error_iff.mpr ⟨by omega, rfl⟩
      rw [refused]
      exact .error nodes
  | ok placed =>
      obtain ⟨handle, grown⟩ := placed
      obtain ⟨room, atEnd, slots, capacity⟩ := Arena.insert_eq_ok_iff.mp inserted
      cases otherInserted : other.insert otherNode with
      | error overflow =>
          have full := (Arena.insert_eq_error_iff.mp otherInserted).1
          omega
      | ok otherPlaced =>
          obtain ⟨otherHandle, otherGrown⟩ := otherPlaced
          obtain ⟨-, otherAtEnd, otherSlots, otherCapacity⟩ :=
            Arena.insert_eq_ok_iff.mp otherInserted
          have named : handle ≠ .nil := Handle.ne_nil_iff.mpr (by omega)
          have otherNamed : otherHandle ≠ .nil := Handle.ne_nil_iff.mpr (by omega)
          have number : handle.toNat = otherHandle.toNat := by omega
          have grownResized : Resized grown otherGrown := by
            refine ⟨by omega, ?_, fun slot => ?_⟩
            · rw [Arena.size, Arena.size, slots, otherSlots, Array.size_push, Array.size_push]
              exact congrArg (· + 1) sameSize
            · rw [slots, otherSlots, Array.getElem?_push, Array.getElem?_push]
              unfold Arena.size at sameSize
              rw [sameSize]
              split
              · exact .some nodes
              · exact resized.slots slot
          exact .ok ⟨Handle.slot?_eq_iff.mpr (.inr ⟨named, otherNamed, number⟩), grownResized⟩

theorem lockstep :
    resizing.Lockstep (Resized : Arena v (Node v) → Arena w (Node w) → Prop) where
  lookUp := stores
  writeLink resized handles targets := resized.writeLink handles targets
  insert resized nodes := resized.insert nodes
  clear := clear

theorem of_ofCapacity {capacity : Nat} (made : Arena.ofCapacity capacity = .ok arena)
    (otherMade : Arena.ofCapacity capacity = .ok other) : Resized arena other := by
  obtain ⟨noSlots, capacity_eq⟩ := Arena.of_ofCapacity made
  obtain ⟨noOtherSlots, otherCapacity_eq⟩ := Arena.of_ofCapacity otherMade
  refine ⟨capacity_eq.trans otherCapacity_eq.symm, ?_, fun slot => ?_⟩
  · rw [Arena.size, Arena.size, noSlots, noOtherSlots]
    rfl
  · rw [noSlots, noOtherSlots]
    exact .none

end Resized

namespace Session

/-- What a session is asked for it does in the same way with handles of another width, if
both widths have the handles for the capacity of the arena and for what is asked. -/
theorem width_makes_no_difference {capacity : Nat} (positive : 0 < capacity)
    (within : capacity ≤ Handle.slotLimit v) (withinOther : capacity ≤ Handle.slotLimit w) :
    (∀ handle : Handle v, (∃ other : Handle w, resizing.Handles handle other) ↔
        handle = .nil ∨ handle.toNat < Handle.slotLimit w) ∧
      ∃ (arena : Arena v (Node v)) (other : Arena w (Node w)),
        Arena.ofCapacity capacity = .ok arena ∧ Arena.ofCapacity capacity = .ok other ∧
          ∀ (bufferCapacity : Nat) (commands : List (Command v (Node v)))
            (otherCommands : List (Command w (Node w))),
            List.Forall₂ resizing.Commands commands otherCommands →
              List.Forall₂ (resizing.Steps Resized) (trace commands (start arena bufferCapacity))
                (trace otherCommands (start other bufferCapacity)) := by
  obtain ⟨arena, made⟩ := Arena.ofCapacity_eq_ok_iff.mpr ⟨positive, within⟩
  obtain ⟨other, otherMade⟩ := Arena.ofCapacity_eq_ok_iff.mpr ⟨positive, withinOther⟩
  refine ⟨fun handle => Handle.exists_slot?_eq_iff, arena, other, made, otherMade, ?_⟩
  intro bufferCapacity commands otherCommands asked
  have started : (resizing (v := v) (w := w)).Sessions Resized (start arena bufferCapacity)
      (start other bufferCapacity) :=
    ⟨.of_ofCapacity made otherMade, .empty bufferCapacity, resizing.nil⟩
  exact Resized.lockstep.trace started asked

/-- All the 255 slots that have handles of 8 bits are filled, and made a chain whose last
handle is the largest below the end marker. -/
theorem width_makes_no_difference_full :
    let names := List.replicate 255 "n"
    let commands : List (Command 8 (Node 8)) :=
      [.assemble (names.map Node.ofName), .insert ⟨"m", ⟨254⟩⟩, .lookUp ⟨254⟩, .lookUp .nil,
        .rebuild ⟨0⟩ 255, .newBuffer 255, .rebuild ⟨0⟩ 255, .writeLink ⟨254⟩ ⟨0⟩,
        .rebuild ⟨0⟩ 255, .connect [⟨254⟩, .nil], .reverseBuffer, .connectBuffer]
    let otherCommands : List (Command 16 (Node 16)) :=
      [.assemble (names.map Node.ofName), .insert ⟨"m", ⟨254⟩⟩, .lookUp ⟨254⟩, .lookUp .nil,
        .rebuild ⟨0⟩ 255, .newBuffer 255, .rebuild ⟨0⟩ 255, .writeLink ⟨254⟩ ⟨0⟩,
        .rebuild ⟨0⟩ 255, .connect [⟨254⟩, .nil], .reverseBuffer, .connectBuffer]
    (0 < 255 ∧ 255 ≤ Handle.slotLimit 8 ∧ 255 ≤ Handle.slotLimit 16 ∧
        List.Forall₂ resizing.Commands commands otherCommands) ∧
      ∃ (arena : Arena 8 (Node 8)) (other : Arena 16 (Node 16)),
        Arena.ofCapacity 255 = .ok arena ∧ Arena.ofCapacity 255 = .ok other ∧
          List.Forall₂ (resizing.Steps Resized) (trace commands (start arena 4))
            (trace otherCommands (start other 4)) := by
  intro names commands otherCommands
  have within : 255 ≤ Handle.slotLimit 8 := by decide
  have withinOther : 255 ≤ Handle.slotLimit 16 := by decide
  have asked : List.Forall₂ resizing.Commands commands otherCommands := by
    have nodes : List.Forall₂ resizing.Values (names.map Node.ofName : List (Node 8))
        (names.map Node.ofName : List (Node 16)) := by
      rw [List.forall₂_map_left_iff, List.forall₂_map_right_iff]
      exact List.forall₂_same.mpr fun _ _ => ⟨rfl, rfl⟩
    refine .cons (.assemble nodes) <| .cons (.insert ⟨rfl, by decide⟩) <|
      .cons (.lookUp rfl) <| .cons (.lookUp rfl) <| .cons (.rebuild rfl 255) <|
      .cons (.newBuffer 255) <| .cons (.rebuild rfl 255) <| .cons (.writeLink rfl rfl) <|
      .cons (.rebuild rfl 255) <| .cons (.connect (.cons rfl (.cons rfl .nil))) <|
      .cons .reverseBuffer <| .cons .connectBuffer .nil
  obtain ⟨-, arena, other, made, otherMade, same⟩ :=
    width_makes_no_difference (by decide) within withinOther
  exact ⟨⟨by decide, within, withinOther, asked⟩, arena, other, made, otherMade,
    same 4 commands otherCommands asked⟩

end Session

end ArenaChain
