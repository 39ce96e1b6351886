import ArenaChain.Store.Recycling

/-!
# Pools

A pool keeps its vacant slots in a line.  A value that comes in takes the slot that was
given up last; only if there is none does the pool grow by a slot.

Main statements: `insert_eq_ok_iff` (which slot an insertion takes, and what becomes of
the vacant ones), `get?_remove` (removal empties that slot and no other) and
`exists_descends_of_since` (the line of a pool follows its history).  So a pool is a
`RecyclingStore`.
-/

namespace ArenaChain

/-- Slots of which some are vacant, the one given up last first in line. -/
@[ext]
structure Pool (width : Nat) (α : Type) where
  /-- Every slot taken so far, with its value unless it is vacant. -/
  slots : Array (Option α)
  /-- The vacant slots, in the order in which they will be taken. -/
  vacant : List (Handle width)
  size_le : slots.size ≤ Handle.slotLimit width
  nodup_vacant : vacant.Nodup
  mem_vacant : ∀ handle : Handle width, handle ∈ vacant ↔ slots[handle.toNat]? = some none

namespace Pool

variable {width : Nat} {α : Type}

/-- The pool that has no slots yet. -/
def empty : Pool width α where
  slots := #[]
  vacant := []
  size_le := Nat.zero_le _
  nodup_vacant := .nil
  mem_vacant := by simp

def size (pool : Pool width α) : Nat := pool.slots.countP Option.isSome

def isEmpty (pool : Pool width α) : Bool := pool.size == 0

def get? (pool : Pool width α) (handle : Handle width) : Option α :=
  pool.slots[handle.toNat]?.join

/-- Change the value in a slot; a vacant slot is left alone. -/
def modify (change : α → α) (handle : Handle width) (pool : Pool width α) : Pool width α :=
  { pool with
    slots := pool.slots.modify handle.toNat (Option.map change)
    size_le := by simpa using pool.size_le
    mem_vacant := by
      intro other
      rw [pool.mem_vacant, Array.getElem?_modify]
      split <;> simp }

/-- The slot that the next insertion takes: the one given up last, or else a new
one, as long as there is a handle for it. -/
def upcoming? (pool : Pool width α) : Option (Handle width) :=
  pool.vacant.head?.or (Handle.ofSlot? pool.slots.size)

/-- Put a value into the slot given up last, or else into a new slot. -/
def insert (value : α) (pool : Pool width α) :
    Except (Overflow α) (Handle width × Pool width α) :=
  match line : pool.vacant with
  | handle :: others =>
    .ok (handle,
      { slots := pool.slots.setIfInBounds handle.toNat (some value)
        vacant := others
        size_le := by simpa using pool.size_le
        nodup_vacant := (List.nodup_cons.mp (line ▸ pool.nodup_vacant)).2
        mem_vacant := by
          intro other
          have first := (List.nodup_cons.mp (line ▸ pool.nodup_vacant)).1
          have listed := pool.mem_vacant other
          rw [line, List.mem_cons] at listed
          rw [Array.getElem?_setIfInBounds]
          split
          case isTrue same =>
            rw [Handle.toNat_inj] at same
            subst same
            simp [first]
          case isFalse different =>
            rw [Handle.toNat_inj, eq_comm] at different
            simpa [different] using listed })
  | [] =>
    match named : Handle.ofSlot? pool.slots.size with
    | none => .error ⟨value⟩
    | some handle =>
      .ok (handle,
        { slots := pool.slots.push (some value)
          vacant := []
          size_le := by
            obtain ⟨notNil, atEnd⟩ := Handle.ofSlot?_eq_some_iff.mp named
            rw [Array.size_push, ← atEnd]
            exact Handle.ne_nil_iff.mp notNil
          nodup_vacant := .nil
          mem_vacant := by
            intro other
            have listed := pool.mem_vacant other
            rw [line] at listed
            rw [Array.getElem?_push]
            split
            · simp
            · exact listed })

/-- Give up a slot and return what it held; a vacant slot is left alone. -/
def remove (handle : Handle width) (pool : Pool width α) : Option α × Pool width α :=
  match held : pool.get? handle with
  | none => (none, pool)
  | some value =>
    (some value,
      { slots := pool.slots.setIfInBounds handle.toNat none
        vacant := handle :: pool.vacant
        size_le := by simpa using pool.size_le
        nodup_vacant := by
          refine List.nodup_cons.mpr ⟨?_, pool.nodup_vacant⟩
          rw [pool.mem_vacant]
          intro vacated
          simp [get?, vacated] at held
        mem_vacant := by
          intro other
          rw [List.mem_cons, pool.mem_vacant, Array.getElem?_setIfInBounds]
          split
          case isTrue same =>
            rw [Handle.toNat_inj] at same
            subst same
            have inBounds : handle.toNat < pool.slots.size := by
              unfold get? at held
              rw [Option.join_eq_some_iff] at held
              exact (Array.getElem?_eq_some_iff.mp held).1
            simp [inBounds]
          case isFalse different =>
            rw [Handle.toNat_inj, eq_comm] at different
            simp [different] })

/-- Forget every slot, also the vacant ones. -/
def clear (_ : Pool width α) : Pool width α := empty

theorem get?_eq_some_iff {pool : Pool width α} {handle : Handle width} {value : α} :
    pool.get? handle = some value ↔ pool.slots[handle.toNat]? = some (some value) :=
  Option.join_eq_some_iff

theorem get?_modify (change : α → α) (target : Handle width) (pool : Pool width α)
    (handle : Handle width) :
    (pool.modify change target).get? handle =
      if handle = target then (pool.get? handle).map change else pool.get? handle := by
  simp only [get?, modify, Array.getElem?_modify, Handle.toNat_inj, eq_comm]
  split
  · cases pool.slots[handle.toNat]? <;> rfl
  · rfl

theorem insert_eq_ok_iff {value : α} {pool grown : Pool width α} {handle : Handle width} :
    pool.insert value = .ok (handle, grown) ↔
      pool.upcoming? = some handle ∧ grown.vacant = pool.vacant.tail ∧
        grown.slots =
          if pool.vacant = [] then pool.slots.push (some value)
          else pool.slots.setIfInBounds handle.toNat (some value) := by
  unfold insert upcoming?
  split
  case h_1 first others line =>
    simp only [Except.ok.injEq, Prod.mk.injEq, Pool.ext_iff, line, List.head?_cons,
      Option.some_or, Option.some.injEq, List.tail_cons, reduceCtorEq, if_false]
    constructor
    · rintro ⟨rfl, slots, vacant⟩
      exact ⟨rfl, vacant.symm, slots.symm⟩
    · rintro ⟨rfl, vacant, slots⟩
      exact ⟨rfl, slots.symm, vacant.symm⟩
  case h_2 line =>
    split
    case h_1 beyond => simp [line, beyond]
    case h_2 fresh named =>
      simp only [Except.ok.injEq, Prod.mk.injEq, Pool.ext_iff, line, List.head?_nil,
        Option.none_or, List.tail_nil, if_true, named, Option.some.injEq]
      constructor
      · rintro ⟨atEnd, slots, vacant⟩
        exact ⟨atEnd, vacant.symm, slots.symm⟩
      · rintro ⟨atEnd, vacant, slots⟩
        exact ⟨atEnd, slots.symm, vacant.symm⟩

theorem insert_eq_error_iff {value : α} {pool : Pool width α} {overflow : Overflow α} :
    pool.insert value = .error overflow ↔ pool.upcoming? = none ∧ overflow = ⟨value⟩ := by
  unfold insert upcoming?
  split
  case h_1 line => simp [line]
  case h_2 line =>
    split
    case h_1 beyond => simp [line, beyond, eq_comm]
    case h_2 fresh named => simp [line, named]

/-- The slot that is taken next is vacant, or there is no vacant one and it is behind all
others. -/
theorem upcoming_cases {pool : Pool width α} {handle : Handle width}
    (upcoming : pool.upcoming? = some handle) :
    (∃ others, pool.vacant = handle :: others ∧ pool.slots[handle.toNat]? = some none) ∨
      pool.vacant = [] ∧ handle.toNat = pool.slots.size := by
  unfold upcoming? at upcoming
  cases line : pool.vacant with
  | nil =>
      rw [line, List.head?_nil, Option.none_or, Handle.ofSlot?_eq_some_iff] at upcoming
      exact .inr ⟨rfl, upcoming.2⟩
  | cons first others =>
      rw [line, List.head?_cons, Option.some_or, Option.some.injEq] at upcoming
      subst upcoming
      exact .inl ⟨others, rfl, (pool.mem_vacant first).mp (by simp [line])⟩

theorem get?_upcoming {pool : Pool width α} {handle : Handle width}
    (upcoming : pool.upcoming? = some handle) : pool.get? handle = none := by
  unfold get?
  rcases upcoming_cases upcoming with ⟨others, -, vacated⟩ | ⟨-, atEnd⟩
  · rw [vacated]
    rfl
  · rw [atEnd, Array.getElem?_eq_none (Nat.le_refl _)]
    rfl

theorem get?_insert {value : α} {pool grown : Pool width α} {handle : Handle width}
    (inserted : pool.insert value = .ok (handle, grown)) (other : Handle width) :
    grown.get? other = if other = handle then some value else pool.get? other := by
  obtain ⟨upcoming, -, slots⟩ := insert_eq_ok_iff.mp inserted
  unfold get?
  rw [slots]
  rcases upcoming_cases upcoming with ⟨others, line, vacated⟩ | ⟨line, atEnd⟩
  · have inBounds := (Array.getElem?_eq_some_iff.mp vacated).1
    simp only [line, reduceCtorEq, if_false, Array.getElem?_setIfInBounds, Handle.toNat_inj,
      inBounds, if_true, eq_comm]
    split <;> rfl
  · simp only [line, if_true, Array.getElem?_push, ← Handle.toNat_inj, atEnd]
    split <;> rfl

theorem fst_remove (handle : Handle width) (pool : Pool width α) :
    (pool.remove handle).1 = pool.get? handle := by
  unfold remove
  split
  case h_1 held => exact held.symm
  case h_2 value held => exact held.symm

/-- Removal empties the slot that it names and no other. -/
theorem get?_remove (target : Handle width) (pool : Pool width α) (handle : Handle width) :
    (pool.remove target).2.get? handle = if handle = target then none else pool.get? handle := by
  unfold remove
  split
  case h_1 held =>
    split
    case isTrue same => rw [same, held]
    case isFalse => rfl
  case h_2 value held =>
    have inBounds := (Array.getElem?_eq_some_iff.mp (get?_eq_some_iff.mp held)).1
    by_cases same : handle = target
    · subst same
      simp [get?, inBounds]
    · have different : target.toNat ≠ handle.toNat := by
        rwa [ne_eq, Handle.toNat_inj, eq_comm]
      simp [get?, same, different]

theorem remove_of_vacant {pool : Pool width α} {handle : Handle width}
    (vacant : pool.get? handle = none) : (pool.remove handle).2 = pool := by
  unfold remove
  split
  case h_1 => rfl
  case h_2 value held =>
    rw [vacant] at held
    cases held

theorem remove_of_occupied {pool : Pool width α} {handle : Handle width} {value : α}
    (held : pool.get? handle = some value) :
    (pool.remove handle).2.vacant = handle :: pool.vacant ∧
      (pool.remove handle).2.slots.size = pool.slots.size := by
  unfold remove
  split
  case h_1 absent =>
    rw [absent] at held
    cases held
  case h_2 => exact ⟨rfl, Array.size_setIfInBounds⟩

/-- An insertion takes the first vacant slot in line, or else a new one behind all others. -/
theorem insert_cases {value : α} {pool grown : Pool width α} {handle : Handle width}
    (inserted : pool.insert value = .ok (handle, grown)) :
    (pool.vacant = handle :: grown.vacant ∧ handle.toNat < pool.slots.size ∧
        grown.slots.size = pool.slots.size) ∨
      (pool.vacant = [] ∧ grown.vacant = [] ∧ handle.toNat = pool.slots.size ∧
        grown.slots.size = pool.slots.size + 1) := by
  obtain ⟨upcoming, vacant, slots⟩ := insert_eq_ok_iff.mp inserted
  rcases upcoming_cases upcoming with ⟨others, line, vacated⟩ | ⟨line, atEnd⟩
  · have inBounds := (Array.getElem?_eq_some_iff.mp vacated).1
    exact .inl ⟨by rw [vacant, line, List.tail_cons], inBounds, by simp [slots, line]⟩
  · exact .inr ⟨line, by rw [vacant, line, List.tail_nil], atEnd, by simp [slots, line]⟩

theorem exists_insert_eq_ok {pool : Pool width α} {handle : Handle width}
    (upcoming : pool.upcoming? = some handle) (value : α) :
    ∃ grown, pool.insert value = .ok (handle, grown) := by
  cases inserted : pool.insert value with
  | error overflow =>
      rw [(insert_eq_error_iff.mp inserted).1] at upcoming
      cases upcoming
  | ok placed =>
      obtain ⟨slot, grown⟩ := placed
      rw [(insert_eq_ok_iff.mp inserted).1, Option.some.injEq] at upcoming
      exact ⟨grown, by rw [upcoming]⟩

instance : Store (Pool width α) width α where
  get? := get?
  modify := modify
  insert := insert
  clear := clear
  extent pool := pool.slots.size
  get?_nil pool := by
    unfold get?
    rw [Handle.toNat_nil, Array.getElem?_eq_none pool.size_le]
    rfl
  toNat_lt_extent pool handle value found :=
    (Array.getElem?_eq_some_iff.mp (get?_eq_some_iff.mp found)).1
  get?_modify := get?_modify
  get?_clear pool handle := by simp [get?, clear, empty]
  vacant_of_insert value pool handle grown inserted :=
    get?_upcoming (insert_eq_ok_iff.mp inserted).1
  get?_insert value pool handle grown inserted := get?_insert inserted
  rejected_insert value pool overflow failed := by
    rw [(insert_eq_error_iff.mp failed).2]

instance : RemovalStore (Pool width α) width α where
  empty := empty
  remove := remove
  get?_empty handle := by simp [Store.get?, get?, empty]
  fst_remove := fst_remove
  get?_remove := get?_remove

/-- The slots that a pool has in line are those given up since `start`, and behind them what is
left of the slots that were in line then. -/
structure Descends (start pool : Pool width α) (past : History width) : Prop where
  size_eq : pool.slots.size = max start.slots.size past.reach
  vacant_eq : ∃ older, older <:+ start.vacant ∧ pool.vacant = past.line ++ older

namespace Descends

variable {start pool : Pool width α} {past : History width}

theorem refl (start : Pool width α) : Descends start start .blank where
  size_eq := (Nat.max_zero _).symm
  vacant_eq := ⟨start.vacant, List.suffix_refl _, rfl⟩

theorem insert {value : α} {handle : Handle width} {grown : Pool width α}
    (descends : Descends start pool past) (inserted : pool.insert value = .ok (handle, grown)) :
    Descends start grown (past.take handle) := by
  have size := descends.size_eq
  obtain ⟨older, suffix, vacant⟩ := descends.vacant_eq
  have taken := insert_cases inserted
  constructor
  · change grown.slots.size = max start.slots.size (max past.reach (handle.toNat + 1))
    omega
  · rcases taken with ⟨first, -, -⟩ | ⟨exhausted, stillExhausted, -, -⟩
    · rw [first] at vacant
      -- Either the slot was given up since, or none such is left and it was in line before.
      rcases List.cons_eq_append_iff.mp vacant with ⟨blank, rfl⟩ | ⟨others, line, rest⟩
      · exact ⟨grown.vacant, (List.suffix_cons _ _).trans suffix, by simp [History.take, blank]⟩
      · exact ⟨older, suffix, by simp [History.take, line, rest]⟩
    · rw [exhausted, eq_comm, List.append_eq_nil_iff] at vacant
      exact ⟨older, suffix, by simp [History.take, stillExhausted, vacant]⟩

theorem remove {value : α} {handle : Handle width} (descends : Descends start pool past)
    (held : pool.get? handle = some value) :
    Descends start (pool.remove handle).2 (past.free handle) := by
  obtain ⟨vacant, size⟩ := remove_of_occupied held
  obtain ⟨older, suffix, line⟩ := descends.vacant_eq
  refine ⟨size.trans descends.size_eq, older, suffix, ?_⟩
  rw [vacant, line]
  rfl

theorem modify (descends : Descends start pool past) (change : α → α) (target : Handle width) :
    Descends start (pool.modify change target) past where
  size_eq := Array.size_modify.trans descends.size_eq
  vacant_eq := descends.vacant_eq

end Descends

theorem exists_descends_of_since {outset : Pool width α → Prop} {pool : Pool width α}
    {past : History width} (since : Since outset pool past) :
    ∃ start, outset start ∧ Descends start pool past := by
  induction since with
  | outset begins => exact ⟨_, begins, .refl _⟩
  | insert since inserted ih =>
      obtain ⟨start, begins, descends⟩ := ih
      exact ⟨start, begins, descends.insert inserted⟩
  | remove since held ih =>
      obtain ⟨start, begins, descends⟩ := ih
      exact ⟨start, begins, descends.remove held⟩
  | removeVacant since vacant ih =>
      obtain ⟨start, begins, descends⟩ := ih
      exact ⟨start, begins, (remove_of_vacant vacant).symm ▸ descends⟩
  | modify since change target ih =>
      obtain ⟨start, begins, descends⟩ := ih
      exact ⟨start, begins, descends.modify change target⟩

theorem eq_empty_of_blank {pool : Pool width α} (blank : Blank pool) : pool = empty := by
  cases blank <;> rfl

instance : RecyclingStore (Pool width α) width α where
  insert_of_line {outset pool past handle others} value since line := by
    obtain ⟨start, -, descends⟩ := exists_descends_of_since since
    obtain ⟨older, -, vacant⟩ := descends.vacant_eq
    exact exists_insert_eq_ok (by rw [upcoming?, vacant, line]; rfl) value
  insert_of_reach {pool past handle} value since line named next := by
    obtain ⟨start, blank, descends⟩ := exists_descends_of_since since
    obtain rfl := eq_empty_of_blank blank
    obtain ⟨older, suffix, vacant⟩ := descends.vacant_eq
    have size : pool.slots.size = handle.toNat := by
      rw [descends.size_eq, next]
      exact Nat.zero_max _
    have exhausted : pool.vacant = [] := by
      rw [vacant, line, List.suffix_nil.mp suffix, List.nil_append]
    refine exists_insert_eq_ok ?_ value
    rw [upcoming?, exhausted, size, Handle.ofSlot?_toNat named]
    rfl

end Pool

end ArenaChain
