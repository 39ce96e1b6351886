import ArenaChain.Chain.Traversal
import Mathlib.Tactic.ByContra
import Mathlib.Tactic.Push

/-!
# How chains go on

Links lead from a handle in one way only, so a path is determined by its start
and its number of moves.  Three things can become of a chain: it closes at the
end marker, it breaks off at a vacant slot, or it is endless.  `Course` names
them and `exists_hasCourse_iff` shows that each chain has exactly one.

A chain that closes or breaks off passes no slot twice (`Path.nodup_of_vacant`).
A cursor with a limited number of moves covers a `Stretch` of a chain.
-/

namespace ArenaChain.Chain

variable {σ α : Type} {width : Nat} [Store σ width α] [Linked α width]

namespace Path

variable {store : σ} {head target other : Handle width} {passed others : List (Handle width)}

theorem nil_iff : Path store head [] target ↔ target = head := by
  constructor
  · intro path
    cases path
    rfl
  · rintro rfl
    exact .stay _

theorem cons_iff {handle : Handle width} :
    Path store head (handle :: passed) target ↔
      head = handle ∧ ∃ value, Store.get? store handle = some value ∧
        Path store (Linked.next value) passed target := by
  constructor
  · intro path
    cases path with
    | follow found onward => exact ⟨rfl, _, found, onward⟩
  · rintro ⟨rfl, value, found, onward⟩
    exact .follow found onward

theorem append_iff :
    Path store head (passed ++ others) target ↔
      ∃ middle, Path store head passed middle ∧ Path store middle others target := by
  induction passed generalizing head with
  | nil => simp [nil_iff]
  | cons handle passed ih =>
      simp only [List.cons_append, cons_iff, ih]
      constructor
      · rintro ⟨same, value, found, middle, before, after⟩
        exact ⟨middle, ⟨same, value, found, before⟩, after⟩
      · rintro ⟨middle, ⟨same, value, found, before⟩, after⟩
        exact ⟨same, value, found, middle, before, after⟩

theorem exists_cut (moves : Nat) (path : Path store head passed target) :
    ∃ middle, Path store head (passed.take moves) middle ∧
      Path store middle (passed.drop moves) target := by
  apply append_iff.mp
  rwa [List.take_append_drop]

theorem occupied_of_ne_nil (path : Path store head passed target) (moves : passed ≠ []) :
    ∃ value, Store.get? store head = some value := by
  cases path with
  | stay => exact absurd rfl moves
  | follow found onward => exact ⟨_, found⟩

/-- Paths with the same start and the same number of moves are the same. -/
theorem eq_of_length_eq (path : Path store head passed target)
    (again : Path store head others other) (same : passed.length = others.length) :
    passed = others ∧ target = other := by
  induction path generalizing others with
  | stay handle =>
      have empty : others = [] := List.eq_nil_of_length_eq_zero same.symm
      subst empty
      exact ⟨rfl, (nil_iff.mp again).symm⟩
  | follow found onward ih =>
      cases again with
      | stay => simp at same
      | follow foundAgain onwardAgain =>
          rw [found, Option.some.injEq] at foundAgain
          subst foundAgain
          obtain ⟨rfl, rfl⟩ := ih onwardAgain (by simpa using same)
          exact ⟨rfl, rfl⟩

/-- No path from the same start goes on behind a vacant slot. -/
theorem length_le_of_vacant (path : Path store head passed target)
    (vacant : Store.get? store target = none) (again : Path store head others other) :
    others.length ≤ passed.length := by
  by_contra longer
  obtain ⟨middle, before, after⟩ := again.exists_cut passed.length
  have sameLength : passed.length = (others.take passed.length).length := by
    rw [List.length_take]
    omega
  obtain ⟨-, rfl⟩ := path.eq_of_length_eq before sameLength
  have moves : others.drop passed.length ≠ [] := by
    rw [ne_eq, List.drop_eq_nil_iff]
    omega
  obtain ⟨value, found⟩ := after.occupied_of_ne_nil moves
  rw [vacant] at found
  cases found

/-- The paths to vacant slots from one start are all the same. -/
theorem eq_of_vacant (path : Path store head passed target)
    (vacant : Store.get? store target = none) (again : Path store head others other)
    (vacantAgain : Store.get? store other = none) :
    passed = others ∧ target = other := by
  have atLeast := path.length_le_of_vacant vacant again
  have atMost := again.length_le_of_vacant vacantAgain path
  exact path.eq_of_length_eq again (by omega)

theorem occupied_of_mem (path : Path store head passed target) {handle : Handle width}
    (member : handle ∈ passed) : ∃ value, Store.get? store handle = some value := by
  induction path with
  | stay => cases member
  | follow found onward ih =>
      rcases List.mem_cons.mp member with rfl | member
      · exact ⟨_, found⟩
      · exact ih member

/-- A path to a vacant slot passes no slot twice. -/
theorem nodup_of_vacant (path : Path store head passed target)
    (vacant : Store.get? store target = none) : passed.Nodup := by
  induction path with
  | stay => exact .nil
  | @follow handle target passed value found onward ih =>
      refine List.nodup_cons.mpr ⟨?_, ih vacant⟩
      intro member
      -- The path behind the second visit also starts at `handle` and leads to the
      -- vacant slot, so it is at least as long as the whole path, of which it is a part.
      obtain ⟨before, after, rfl⟩ := List.append_of_mem member
      obtain ⟨middle, -, again⟩ := append_iff.mp onward
      obtain ⟨rfl, -⟩ := cons_iff.mp again
      have bound := again.length_le_of_vacant vacant (.follow found onward)
      simp only [List.length_cons, List.length_append] at bound
      omega

/-- A chain that leads to a vacant slot does not lead back to its head. -/
theorem eq_nil_of_circle (path : Path store head passed target)
    (vacant : Store.get? store target = none) (circle : Path store head others head) :
    others = [] := by
  have around : Path store head (others ++ passed) target := append_iff.mpr ⟨head, circle, path⟩
  have same := (path.eq_of_vacant vacant around vacant).1
  exact List.append_left_eq_self.mp same.symm

theorem headD_eq (path : Path store head passed .nil) : passed.headD .nil = head := by
  cases path <;> rfl

end Path

/-- The links lead on for ever. -/
def Endless (store : σ) (head : Handle width) : Prop :=
  ∀ length, ∃ passed target, Path store head passed target ∧ passed.length = length

/-- What can become of a chain. -/
inductive Course (width : Nat) where
  /-- After so many slots comes the end marker. -/
  | closes (length : Nat)
  /-- After so many slots comes a vacant one. -/
  | breaksOff (length : Nat) (vacant : Handle width)
  | goesOn
  deriving DecidableEq

/-- What becomes of the chain with this head. -/
def HasCourse (store : σ) (head : Handle width) : Course width → Prop
  | .closes length => ∃ passed, Path store head passed .nil ∧ passed.length = length
  | .breaksOff length vacant =>
      vacant ≠ .nil ∧ Store.get? store vacant = none ∧
        ∃ passed, Path store head passed vacant ∧ passed.length = length
  | .goesOn => Endless store head

/-- The part of a chain that a cursor passes within so many moves: it stops before
they are used up only at a vacant slot. -/
structure Stretch (store : σ) (limit : Nat) (head : Handle width)
    (passed : List (Handle width)) (target : Handle width) : Prop where
  path : Path store head passed target
  length_le : passed.length ≤ limit
  stops : passed.length = limit ∨ Store.get? store target = none

theorem Stretch.of_vacant {store : σ} {head : Handle width}
    (vacant : Store.get? store head = none) (limit : Nat) : Stretch store limit head [] head :=
  ⟨.stay head, Nat.zero_le limit, .inr vacant⟩

theorem Stretch.follow {store : σ} {limit : Nat} {head target : Handle width}
    {passed : List (Handle width)} {value : α} (found : Store.get? store head = some value)
    (onward : Stretch store limit (Linked.next value) passed target) :
    Stretch store (limit + 1) head (head :: passed) target :=
  ⟨.follow found onward.path, Nat.succ_le_succ onward.length_le,
    onward.stops.imp_left (congrArg Nat.succ)⟩

theorem stretch_traverse (store : σ) (limit : Nat) (head : Handle width) :
    ∃ target,
      Stretch store limit head ((traverse store limit head).items.map Prod.fst) target := by
  obtain ⟨target, path, stop⟩ := path_traverse store limit head
  refine ⟨target, path, ?_, ?_⟩
  · rw [List.length_map]
    omega
  · rw [List.length_map]
    exact stop.imp And.right fun early => early.2.1

theorem exists_stretch (store : σ) (limit : Nat) (head : Handle width) :
    ∃ passed target, Stretch store limit head passed target :=
  ⟨_, stretch_traverse store limit head⟩

theorem items_traverse_of_path {store : σ} {head target : Handle width}
    {passed : List (Handle width)} (path : Path store head passed target)
    (vacant : Store.get? store target = none) {limit : Nat} (enough : passed.length ≤ limit) :
    (traverse store limit head).items.map Prod.fst = passed := by
  induction path generalizing limit with
  | stay handle =>
      cases limit with
      | zero => rfl
      | succ limit => rw [traverse_of_vacant limit vacant, List.map_nil]
  | @follow handle target passed value found onward ih =>
      cases limit with
      | zero => simp at enough
      | succ limit =>
          rw [traverse_of_occupied limit found, List.map_cons]
          rw [ih vacant (by simpa using enough)]

theorem Path.exists_stretch_take {store : σ} {limit : Nat} {head target : Handle width}
    {passed : List (Handle width)} (path : Path store head passed target)
    (enough : limit ≤ passed.length) :
    ∃ middle, Stretch store limit head (passed.take limit) middle ∧
      Path store middle (passed.drop limit) target := by
  obtain ⟨middle, before, after⟩ := path.exists_cut limit
  have moves : (passed.take limit).length = limit := by
    rw [List.length_take]
    omega
  exact ⟨middle, ⟨before, Nat.le_of_eq moves, .inl moves⟩, after⟩

theorem not_endless_of_vacant {store : σ} {head target : Handle width}
    {passed : List (Handle width)} (path : Path store head passed target)
    (vacant : Store.get? store target = none) : ¬ Endless store head := by
  intro endless
  obtain ⟨others, other, longer, length⟩ := endless (passed.length + 1)
  have bound := path.length_le_of_vacant vacant longer
  omega

theorem exists_vacant_of_not_endless {store : σ} {head : Handle width}
    (ends : ¬ Endless store head) :
    ∃ passed target, Path store head passed target ∧ Store.get? store target = none := by
  unfold Endless at ends
  push Not at ends
  obtain ⟨length, noPath⟩ := ends
  obtain ⟨passed, target, stretch⟩ := exists_stretch store length head
  refine ⟨passed, target, stretch.path, ?_⟩
  exact stretch.stops.resolve_left (noPath passed target stretch.path)

/-- The course of a chain of this length that leads to a vacant slot. -/
def Course.ending (length : Nat) (vacant : Handle width) : Course width :=
  if vacant = .nil then .closes length else .breaksOff length vacant

theorem hasCourse_iff {store : σ} {head : Handle width} {course : Course width} :
    HasCourse store head course ↔
      (course = .goesOn ∧ Endless store head) ∨
        ∃ passed target, Path store head passed target ∧
          Store.get? store target = none ∧ course = .ending passed.length target := by
  constructor
  · intro has
    cases course with
    | closes length =>
        obtain ⟨passed, path, rfl⟩ := has
        exact .inr ⟨passed, .nil, path, Store.get?_nil store, by simp [Course.ending]⟩
    | breaksOff length vacant =>
        obtain ⟨notNil, vacancy, passed, path, rfl⟩ := has
        exact .inr ⟨passed, vacant, path, vacancy, by simp [Course.ending, notNil]⟩
    | goesOn => exact .inl ⟨rfl, has⟩
  · rintro (⟨rfl, endless⟩ | ⟨passed, target, path, vacant, rfl⟩)
    · exact endless
    · unfold Course.ending
      split
      case isTrue isNil =>
        subst isNil
        exact ⟨passed, path, rfl⟩
      case isFalse notNil => exact ⟨notNil, vacant, passed, path, rfl⟩

theorem HasCourse.unique {store : σ} {head : Handle width} {first second : Course width}
    (has : HasCourse store head first) (hasToo : HasCourse store head second) :
    first = second := by
  rcases hasCourse_iff.mp has with ⟨rfl, endless⟩ | ⟨passed, target, path, vacant, rfl⟩ <;>
    rcases hasCourse_iff.mp hasToo with ⟨rfl, endlessToo⟩ | ⟨others, other, again, vacantToo, rfl⟩
  · rfl
  · exact absurd endless (not_endless_of_vacant again vacantToo)
  · exact absurd endlessToo (not_endless_of_vacant path vacant)
  · obtain ⟨rfl, rfl⟩ := path.eq_of_vacant vacant again vacantToo
    rfl

/-- Every chain has one course and no other. -/
theorem exists_hasCourse_iff (store : σ) (head : Handle width) :
    ∃ course, ∀ other, HasCourse store head other ↔ other = course := by
  have exists_hasCourse : ∃ course, HasCourse store head course := by
    by_cases endless : Endless store head
    · exact ⟨.goesOn, endless⟩
    · obtain ⟨passed, target, path, vacant⟩ := exists_vacant_of_not_endless endless
      exact ⟨_, hasCourse_iff.mpr (.inr ⟨passed, target, path, vacant, rfl⟩)⟩
  obtain ⟨course, has⟩ := exists_hasCourse
  refine ⟨course, fun other => ⟨fun hasToo => hasToo.unique has, ?_⟩⟩
  rintro rfl
  exact has

end ArenaChain.Chain
