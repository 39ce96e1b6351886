import ArenaChain.Proofs.LastOrder
import ArenaChain.Proofs.Translation
import Mathlib.Logic.Equiv.Basic

/-!
# Renaming handles

Let the values of a store be put into other slots, with the links renamed accordingly, and
let them have other names.  Whatever is done to chains then comes to the same, with the
handles renamed: there is no order among handles that could matter, and no name is looked
at.
-/

namespace ArenaChain

open Chain

variable {σ τ : Type} {width : Nat}

/-- New names for all handles; the end marker keeps its own. -/
structure Renaming (width : Nat) where
  perm : Equiv.Perm (Handle width)
  perm_nil : perm .nil = .nil

namespace Renaming

instance : CoeFun (Renaming width) fun _ => Handle width → Handle width :=
  ⟨fun naming => naming.perm⟩

/-- The same result of making a chain, with its head or the handle at fault renamed. -/
def result (naming : Renaming width) :
    Except (ChainError width) (Handle width) → Except (ChainError width) (Handle width)
  | .ok head => .ok (naming head)
  | .error error => .error (error.map naming)

variable [Store σ width (Node width)] [Store τ width (Node width)]

/-- A slot is occupied in the first store if its new name is in the second, and then the
links lead to the same slot; the names of the nodes need not have to do with each other. -/
def Renamed (naming : Renaming width) (first : σ) (second : τ) : Prop :=
  ∀ handle, (Store.get? second (naming handle)).map Node.next =
    (Store.get? first handle).map fun node => naming node.next

def SameNames (before after : σ) : Prop :=
  ∀ handle : Handle width,
    (Store.get? after handle).map Node.name = (Store.get? before handle).map Node.name

/-- Two stores afterwards that correspond, the names being what they were before. -/
structure StillRenamed (naming : Renaming width) (first : σ) (second : τ) (firstAfter : σ)
    (secondAfter : τ) : Prop where
  renamed : naming.Renamed firstAfter secondAfter
  names : SameNames first firstAfter
  otherNames : SameNames second secondAfter

/-- What became of two attempts is the same up to the names of the handles. -/
structure RenamedRebuild (naming : Renaming width) (first : σ) (second : τ)
    (rebuilt : Rebuild σ width) (other : Rebuild τ width) : Prop where
  result_eq : other.result = naming.result rebuilt.result
  capacity_eq : other.buffer.capacity = rebuilt.buffer.capacity
  filled_eq : other.buffer.filled = rebuilt.buffer.filled.map naming
  events_eq : other.events = rebuilt.events.map (Event.map naming)
  stores : StillRenamed naming first second rebuilt.store other.store

/-- Nodes stand for each other if their links do. -/
def correspondence (naming : Renaming width) :
    Correspondence width width (Node width) (Node width) where
  Handles handle other := naming handle = other
  Values node other := naming node.next = other.next
  nil := naming.perm_nil
  biUnique := by
    constructor
    · intro handle again other same sameToo
      exact naming.perm.injective (same.trans sameToo.symm)
    · intro handle other again same sameToo
      exact same.symm.trans sameToo
  next links := links
  withNext targets _ := targets

variable {naming : Renaming width} {first : σ} {second : τ}

theorem stores_iff :
    naming.correspondence.Stores first second ↔ naming.Renamed first second := by
  constructor
  · intro stores handle
    rcases stores.cases (rfl : naming handle = _) with
      ⟨vacant, vacantToo⟩ | ⟨node, other, found, foundToo, links⟩
    · rw [vacant, vacantToo]
      rfl
    · rw [found, foundToo, Option.map_some, Option.map_some]
      exact congrArg some (Eq.symm links)
  · rintro renamed handle _ rfl
    have same := renamed handle
    generalize Store.get? first handle = found at same ⊢
    generalize Store.get? second (naming handle) = otherFound at same ⊢
    cases found <;> cases otherFound <;> simp at same
    · exact .none
    · exact .some same.symm

theorem orders_iff {order other : List (Handle width)} :
    naming.correspondence.Orders order other ↔ order.map naming = other := by
  rw [← List.forall₂_eq_eq_eq, List.forall₂_map_left_iff]
  rfl

theorem translates (naming : Renaming width) : naming.correspondence.Translates naming :=
  fun _ _ same => same

theorem result_eq_of_results {result other : Except (ChainError width) (Handle width)}
    (results : naming.correspondence.Results result other) : naming.result result = other := by
  cases results with
  | ok handles => exact congrArg Except.ok handles
  | error errors => exact congrArg Except.error (naming.translates.error errors)

theorem sameNames_attempt (linking : Linking width) (store : σ) :
    SameNames store (linking.attempt store).2 := by
  intro handle
  rw [Linking.get?_attempt, Option.map_map]
  rfl

theorem stillRenamed_attempt {firstAfter : σ} {secondAfter : τ} (linking other : Linking width)
    (firstEq : (linking.attempt first).2 = firstAfter)
    (secondEq : (other.attempt second).2 = secondAfter)
    (stores : naming.correspondence.Stores firstAfter secondAfter) :
    StillRenamed naming first second firstAfter secondAfter := by
  subst firstEq secondEq
  exact ⟨stores_iff.mp stores, sameNames_attempt linking first, sameNames_attempt other second⟩

theorem traverse_renamed (renamed : naming.Renamed first second) (limit : Nat)
    (head : Handle width) :
    (traverse second limit (naming head)).items.map (fun item => (item.1, item.2.next)) =
        (traverse first limit head).items.map (fun item => (naming item.1, naming item.2.next)) ∧
      (traverse second limit (naming head)).cursor = naming (traverse first limit head).cursor := by
  have traversals := Correspondence.traverse (stores_iff.mpr renamed) limit (rfl : naming head = _)
  refine ⟨?_, traversals.cursor.symm⟩
  have items := traversals.items
  rw [← List.forall₂_eq_eq_eq, List.forall₂_map_left_iff, List.forall₂_map_right_iff]
  refine items.flip.imp ?_
  rintro other item ⟨handles, links⟩
  exact Prod.ext handles.symm links.symm

theorem renamedRebuild {rebuilt : Rebuild σ width} {other : Rebuild τ width}
    (rebuilds : naming.correspondence.Rebuilds naming.correspondence.Stores rebuilt other)
    (linking otherLinking : Linking width) (firstEq : (linking.attempt first).2 = rebuilt.store)
    (secondEq : (otherLinking.attempt second).2 = other.store) :
    RenamedRebuild naming first second rebuilt other where
  result_eq := (result_eq_of_results rebuilds.result).symm
  capacity_eq := rebuilds.buffer.capacity_eq.symm
  filled_eq := (orders_iff.mp rebuilds.buffer.filled).symm
  events_eq := (naming.translates.events rebuilds.events).symm
  stores := stillRenamed_attempt linking otherLinking firstEq secondEq rebuilds.store

/-- Renaming the handles, in the stores and in what is asked, renames them in all that comes
of it and changes nothing else. -/
theorem renaming_carries_over (renamed : naming.Renamed first second) (head : Handle width)
    (count : Nat) (order : List (Handle width)) {buffer other : OrderBuffer width}
    (sameCapacity : other.capacity = buffer.capacity)
    (sameOrder : other.filled = buffer.filled.map naming) :
    RenamedRebuild naming first second (rebuild head count buffer first)
        (rebuild (naming head) count other second) ∧
      RenamedRebuild naming first second (connectBuffer buffer first)
        (connectBuffer other second) ∧
      ((connect (order.map naming) second).1 = naming.result (connect order first).1 ∧
        StillRenamed naming first second (connect order first).2
          (connect (order.map naming) second).2) ∧
      ∀ limit,
        (traverse second limit (naming head)).items.map (fun item => (item.1, item.2.next)) =
            (traverse first limit head).items.map
              (fun item => (naming item.1, naming item.2.next)) ∧
          (traverse second limit (naming head)).cursor =
            naming (traverse first limit head).cursor := by
  have sim : naming.correspondence.Simulation (naming.correspondence.Stores : σ → τ → Prop) :=
    Correspondence.simulation_stores
  have stores := stores_iff.mpr renamed
  have buffers : naming.correspondence.Buffers buffer other :=
    ⟨sameCapacity.symm, orders_iff.mpr sameOrder.symm⟩
  refine ⟨?_, ?_, ?_, fun limit => traverse_renamed renamed limit head⟩
  · exact renamedRebuild (sim.rebuild stores rfl count buffers) (.rebuild head count buffer)
      (.rebuild (naming head) count other) rfl rfl
  · exact renamedRebuild (sim.connectBuffer stores buffers) (.connectBuffer buffer)
      (.connectBuffer other) rfl rfl
  · have orders : naming.correspondence.Orders order (order.map naming) := orders_iff.mpr rfl
    obtain ⟨results, storesAfter⟩ := sim.connect stores orders
    exact ⟨(result_eq_of_results results).symm,
      stillRenamed_attempt (.connect order) (.connect (order.map naming)) rfl rfl storesAfter⟩

/-- The slots 0 and 3 change their names, and so do 5 and 6, which are vacant; the chain from
4 breaks off at one of these. -/
theorem renaming_carries_over_small :
    let naming : Renaming 3 :=
      ⟨(Equiv.swap (⟨0⟩ : Handle 3) ⟨3⟩).trans (Equiv.swap ⟨5⟩ ⟨6⟩), by decide⟩
    let first : Arena 3 (Node 3) :=
      ⟨#[⟨"a", ⟨1⟩⟩, ⟨"b", ⟨2⟩⟩, ⟨"c", .nil⟩, ⟨"d", ⟨3⟩⟩, ⟨"e", ⟨6⟩⟩], 5,
        by decide, by decide, by decide⟩
    let second : Arena 3 (Node 3) :=
      ⟨#[⟨"v", ⟨0⟩⟩, ⟨"w", ⟨2⟩⟩, ⟨"x", .nil⟩, ⟨"y", ⟨1⟩⟩, ⟨"z", ⟨5⟩⟩], 5,
        by decide, by decide, by decide⟩
    let buffer := (record first ⟨0⟩ 3 (.empty 4)).buffer
    let other := (record second ⟨3⟩ 3 (.empty 4)).buffer
    (naming.Renamed first second ∧ other.capacity = buffer.capacity ∧
        other.filled = buffer.filled.map naming) ∧
      RenamedRebuild naming first second (rebuild ⟨4⟩ 3 buffer first)
        (rebuild (naming ⟨4⟩) 3 other second) ∧
      RenamedRebuild naming first second (connectBuffer buffer first)
        (connectBuffer other second) := by
  intro naming first second buffer other
  have renamed : naming.Renamed first second := by
    rintro ⟨word⟩
    revert word
    decide
  have sameCapacity : other.capacity = buffer.capacity := by decide
  have sameOrder : other.filled = buffer.filled.map naming := by decide
  have carried := renaming_carries_over renamed ⟨4⟩ 3 [] sameCapacity sameOrder
  exact ⟨⟨renamed, sameCapacity, sameOrder⟩, carried.1, carried.2.1⟩

end Renaming

end ArenaChain
