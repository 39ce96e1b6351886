import ArenaChain.Store

/-!
# Stores that give up single slots

A `RemovalStore` gives up slots one at a time, so a handle may come to name a different
value after its own was removed.

How such a store looks inside is left open.  Which slot a value takes that comes in is
said of the past of the store alone: which slots were given up and not taken again, and
how far the slots reach that were taken (`History`).  `Since` relates a store to what
happened to it from some moment on, step by step.  A `RecyclingStore` fills the slot that
was given up last; if none is left that was given up since the store was blank, it fills
the slot behind all that were ever taken.

Main statement: `Since.exists_insert_eq_ok` (which slot a value takes, wherever there is
room for it).
-/

namespace ArenaChain

/-- Stores that give up slots one at a time. -/
class RemovalStore (σ : Type) (width : outParam Nat) (α : outParam Type) extends
    Store σ width α where
  /-- A store that nothing was put into yet. -/
  empty : σ
  /-- Give up a slot and return what it held. -/
  remove : Handle width → σ → Option α × σ
  get?_empty : ∀ handle, get? empty handle = none
  fst_remove : ∀ handle store, (remove handle store).1 = get? store handle
  get?_remove : ∀ target store handle,
    get? (remove target store).2 handle = if handle = target then none else get? store handle

/-- What happened to the slots of a store from some moment on. -/
@[ext]
structure History (width : Nat) where
  /-- The slots that were given up and not taken again, the one given up last in front. -/
  line : List (Handle width)
  /-- The number after all slots that were taken. -/
  reach : Nat

namespace History

variable {width : Nat}

/-- A history in which nothing happened. -/
def blank : History width := ⟨[], 0⟩

/-- A slot is taken. -/
def take (handle : Handle width) (past : History width) : History width :=
  ⟨past.line.erase handle, max past.reach (handle.toNat + 1)⟩

/-- A slot in use is given up. -/
def free (handle : Handle width) (past : History width) : History width :=
  { past with line := handle :: past.line }

/-- There are handles for all the slots that so many values take. -/
def Room (past : History width) (count : Nat) : Prop :=
  past.reach + (count - past.line.length) ≤ Handle.slotLimit width

variable {past : History width} {handle : Handle width} {others : List (Handle width)}

theorem reach_le_take (past : History width) (handle : Handle width) :
    past.reach ≤ (past.take handle).reach :=
  Nat.le_max_left _ _

theorem toNat_lt_reach_take (past : History width) (handle : Handle width) :
    handle.toNat < (past.take handle).reach :=
  Nat.le_max_right _ _

theorem take_of_line (first : past.line = handle :: others) (below : handle.toNat < past.reach) :
    past.take handle = ⟨others, past.reach⟩ := by
  rw [take, first, List.erase_cons_head, Nat.max_eq_left below]

theorem take_of_reach (exhausted : past.line = []) (next : handle.toNat = past.reach) :
    past.take handle = ⟨[], past.reach + 1⟩ := by
  rw [take, exhausted, List.erase_nil, next, Nat.max_eq_right (Nat.le_succ _)]

end History

section Past

variable {σ α : Type} {width : Nat} [RemovalStore σ width α]

/-- Every slot of the store is as good as never taken. -/
inductive Blank : σ → Prop
  | empty : Blank (RemovalStore.empty : σ)
  | cleared (store : σ) : Blank (Store.clear store)

/-- A store and what happened to its slots since it was one that the outset describes. -/
inductive Since (outset : σ → Prop) : σ → History width → Prop
  | outset {store : σ} (begins : outset store) : Since outset store .blank
  | insert {store grown : σ} {past : History width} {value : α} {handle : Handle width}
      (since : Since outset store past)
      (inserted : Store.insert value store = .ok (handle, grown)) :
      Since outset grown (past.take handle)
  | remove {store : σ} {past : History width} {value : α} {handle : Handle width}
      (since : Since outset store past) (held : Store.get? store handle = some value) :
      Since outset (RemovalStore.remove handle store).2 (past.free handle)
  /-- Where nothing is held, nothing is given up. -/
  | removeVacant {store : σ} {past : History width} {handle : Handle width}
      (since : Since outset store past) (vacant : Store.get? store handle = none) :
      Since outset (RemovalStore.remove handle store).2 past
  | modify {store : σ} {past : History width} (since : Since outset store past)
      (change : α → α) (target : Handle width) :
      Since outset (Store.modify change target store) past

end Past

/-- Stores that take slots again before they take new ones. -/
class RecyclingStore (σ : Type) (width : outParam Nat) (α : outParam Type) extends
    RemovalStore σ width α where
  /-- What comes in takes the slot that was given up last. -/
  insert_of_line : ∀ {outset : σ → Prop} {store : σ} {past : History width}
    {handle : Handle width} {others : List (Handle width)} (value : α),
    Since outset store past → past.line = handle :: others →
      ∃ grown, insert value store = .ok (handle, grown)
  /-- If no slot is left that was given up, it takes the one behind all that were ever
  taken, as long as there is a handle for it. -/
  insert_of_reach : ∀ {store : σ} {past : History width} {handle : Handle width} (value : α),
    Since Blank store past → past.line = [] → handle ≠ .nil → handle.toNat = past.reach →
      ∃ grown, insert value store = .ok (handle, grown)

section Insertion

variable {σ α : Type} {width : Nat}

/-- What is found after a removal was there before. -/
theorem RemovalStore.get?_of_remove [RemovalStore σ width α] {store : σ}
    {target handle : Handle width} {value : α}
    (found : Store.get? (RemovalStore.remove target store).2 handle = some value) :
    Store.get? store handle = some value := by
  rw [RemovalStore.get?_remove] at found
  split at found
  case isTrue => cases found
  case isFalse => exact found

theorem Blank.get?_eq_none [RemovalStore σ width α] {store : σ} (blank : Blank store)
    (handle : Handle width) : Store.get? store handle = none := by
  cases blank with
  | empty => exact RemovalStore.get?_empty handle
  | cleared store => exact Store.get?_clear store handle

namespace Since

variable {store : σ} {past : History width}

/-- The slots in line and the slots in use were taken before. -/
theorem toNat_lt_reach [RemovalStore σ width α] (since : Since Blank store past) :
    (∀ handle ∈ past.line, handle.toNat < past.reach) ∧
      ∀ handle value, Store.get? store handle = some value → handle.toNat < past.reach := by
  induction since with
  | outset blank =>
      refine ⟨fun handle member => (List.not_mem_nil member).elim, fun handle value held => ?_⟩
      rw [blank.get?_eq_none] at held
      cases held
  | @insert store grown past value handle since inserted ih =>
      constructor
      · intro other member
        have below := ih.1 other (List.mem_of_mem_erase member)
        exact Nat.lt_of_lt_of_le below (past.reach_le_take handle)
      · intro other held found
        rw [Store.get?_insert _ _ _ _ inserted] at found
        split at found
        case isTrue same => exact same ▸ past.toNat_lt_reach_take handle
        case isFalse => exact Nat.lt_of_lt_of_le (ih.2 other held found) (past.reach_le_take handle)
  | @remove store past value handle since held ih =>
      constructor
      · intro other member
        rcases List.mem_cons.mp member with rfl | member
        · exact ih.2 other value held
        · exact ih.1 other member
      · exact fun other value found => ih.2 other value (RemovalStore.get?_of_remove found)
  | @removeVacant store past handle since vacant ih =>
      exact ⟨ih.1, fun other value found => ih.2 other value (RemovalStore.get?_of_remove found)⟩
  | @modify store past since change target ih =>
      refine ⟨ih.1, fun other value found => ?_⟩
      rw [Store.get?_modify] at found
      split at found
      case isTrue =>
        obtain ⟨before, held, -⟩ := Option.map_eq_some_iff.mp found
        exact ih.2 other before held
      case isFalse => exact ih.2 other value found

/-- Where there is room for a value, it takes the first slot in line, or if there is none the
slot behind all that were taken. -/
theorem exists_insert_eq_ok [RecyclingStore σ width α] (since : Since Blank store past)
    (room : past.Room 1) (value : α) :
    ∃ handle grown, Store.insert value store = .ok (handle, grown) ∧
      ((∃ others, past.line = handle :: others ∧ past.take handle = ⟨others, past.reach⟩) ∨
        past.line = [] ∧ handle.toNat = past.reach ∧ past.take handle = ⟨[], past.reach + 1⟩) := by
  cases line : past.line with
  | nil =>
      rw [History.Room, line, List.length_nil] at room
      obtain ⟨handle, next⟩ := Handle.exists_toNat_eq (Nat.le_of_lt room)
      have named : handle ≠ .nil := Handle.ne_nil_iff.mpr (next ▸ room)
      obtain ⟨grown, inserted⟩ := RecyclingStore.insert_of_reach value since line named next
      exact ⟨handle, grown, inserted, .inr ⟨rfl, next, History.take_of_reach line next⟩⟩
  | cons handle others =>
      have below : handle.toNat < past.reach := since.toNat_lt_reach.1 handle (by simp [line])
      obtain ⟨grown, inserted⟩ := RecyclingStore.insert_of_line value since line
      exact ⟨handle, grown, inserted, .inl ⟨others, rfl, History.take_of_line line below⟩⟩

end Since

end Insertion

end ArenaChain
