import ArenaChain.Chain.Rebuild
import ArenaChain.Proofs.Path
import ArenaChain.Store.Arena

/-!
# The outcome of rebuilding a chain

Recording covers a stretch of the chain, and where the stretch stops settles
whether there is a fault (`record_of_stretch`).  So the capacity of the buffer,
the declared number of nodes and the course of the chain settle the result of
`rebuild`, for every chain, also for a cyclic or a broken one.  Its events follow from
the result and from what is left in the buffer (`events_rebuild`).
-/

namespace ArenaChain.Chain

variable {σ α : Type} {width : Nat} [Store σ width α] [Linked α width]
variable {store : σ} {head target : Handle width} {passed : List (Handle width)}
variable {count : Nat} {buffer : OrderBuffer width}

/-- What is wrong with a chain whose recording stops at `target` after so many
nodes. -/
def stopFault? (declared reached : Nat) (target : Handle width) : Option (ChainError width) :=
  if target = .nil then
    if reached = declared then none else some (.endsEarly declared reached)
  else if reached = declared then some (.runsOn declared)
  else some (.absent target)

theorem stopFault?_eq_none_iff {declared reached : Nat} :
    stopFault? declared reached target = none ↔ target = .nil ∧ reached = declared := by
  unfold stopFault?
  split <;> split <;> simp_all

/-- The reports of these nodes, the first of them in the slot at `position`. -/
def recordings (passed : List (Handle width)) (position : Nat) : List (Event width) :=
  (passed.zipIdx position).map fun item => .recorded item.1 item.2

theorem recordings_cons (handle : Handle width) (position : Nat) :
    recordings (handle :: passed) position =
      .recorded handle position :: recordings passed (position + 1) := by
  simp [recordings]

theorem recordOnward_of_occupied {declared remaining : Nat} {cursor : Handle width} {value : α}
    {longer : OrderBuffer width} (found : Store.get? store cursor = some value)
    (pushed : buffer.push cursor = .ok longer) :
    recordOnward store declared (remaining + 1) cursor buffer =
      { recordOnward store declared remaining (Linked.next value) longer with
        events := .recorded cursor buffer.length ::
          (recordOnward store declared remaining (Linked.next value) longer).events } := by
  have named : cursor ≠ .nil := Store.ne_nil_of_get? found
  simp only [recordOnward, named, if_false, found, pushed]

/-- There is room for every node that is still expected, so that pushing cannot
fail: the nodes recorded and those expected make up the declared number. -/
theorem recordOnward_of_stretch {declared remaining : Nat} {cursor : Handle width}
    (stretch : Stretch store remaining cursor passed target)
    (expected : buffer.length + remaining = declared) (room : declared ≤ buffer.capacity) :
    (recordOnward store declared remaining cursor buffer).fault? =
        stopFault? declared (buffer.length + passed.length) target ∧
      (recordOnward store declared remaining cursor buffer).buffer.filled =
        buffer.filled ++ passed ∧
      (recordOnward store declared remaining cursor buffer).events =
        recordings passed buffer.length := by
  -- A move adds the node to the buffer and takes one off those expected, so that
  -- `expected` holds again for the longer buffer.
  induction remaining generalizing cursor passed buffer with
  | zero =>
      have empty : passed = [] := List.eq_nil_of_length_eq_zero (by simpa using stretch.length_le)
      subst empty
      obtain rfl := Path.nil_iff.mp stretch.path
      unfold recordOnward stopFault?
      split <;> simp_all [recordings]
  | succ remaining ih =>
      cases passed with
      | nil =>
          obtain rfl := Path.nil_iff.mp stretch.path
          have vacant : Store.get? store target = none := stretch.stops.resolve_left (by simp)
          have short : buffer.length ≠ declared := by omega
          unfold recordOnward stopFault?
          split <;> simp [vacant, short, recordings]
      | cons handle passed =>
          obtain ⟨rfl, value, found, onward⟩ := Path.cons_iff.mp stretch.path
          have rest : Stretch store remaining (Linked.next value) passed target :=
            ⟨onward, by simpa using stretch.length_le, by simpa using stretch.stops⟩
          have roomNow : buffer.length < buffer.capacity := by omega
          obtain ⟨longer, pushed⟩ := OrderBuffer.exists_push_eq_ok cursor roomNow
          obtain ⟨-, sameCapacity, appended⟩ := OrderBuffer.push_eq_ok_iff.mp pushed
          have oneMore := OrderBuffer.length_of_push pushed
          have expectedNext : longer.length + remaining = declared := by omega
          have roomNext : declared ≤ longer.capacity := by omega
          obtain ⟨fault, filled, events⟩ := ih rest expectedNext roomNext
          have reached : longer.length + passed.length =
              buffer.length + (passed.length + 1) := by omega
          rw [reached] at fault
          rw [appended, List.append_assoc, List.singleton_append] at filled
          rw [oneMore] at events
          rw [recordOnward_of_occupied found pushed, recordings_cons, List.length_cons]
          exact ⟨fault, filled, congrArg _ events⟩

theorem record_of_stretch (stretch : Stretch store count head passed target)
    (within : count ≤ buffer.capacity) :
    (record store head count buffer).fault? = stopFault? count passed.length target ∧
      (record store head count buffer).buffer.filled = passed ∧
      (record store head count buffer).events = recordings passed 0 := by
  have expected : buffer.clear.length + count = count := by simp
  have room : count ≤ buffer.clear.capacity := by simpa using within
  have spec := recordOnward_of_stretch stretch expected room
  rw [OrderBuffer.length_clear, OrderBuffer.filled_clear, Nat.zero_add, List.nil_append] at spec
  exact spec

theorem result_rebuild_of_stretch (stretch : Stretch store count head passed target)
    (within : count ≤ buffer.capacity) :
    (rebuild head count buffer store).result =
      (stopFault? count passed.length target).elim (.ok head) .error := by
  obtain ⟨fault, filled, -⟩ := record_of_stretch stretch within
  cases stop : stopFault? count passed.length target with
  | some error =>
      rw [rebuild_of_fault within (fault.trans stop)]
      rfl
  | none =>
      obtain ⟨rfl, -⟩ := stopFault?_eq_none_iff.mp stop
      rw [rebuild_of_no_fault within (fault.trans stop), filled, stretch.path.headD_eq]
      rfl

theorem filled_rebuild_of_stretch (stretch : Stretch store count head passed target)
    (within : count ≤ buffer.capacity) :
    (rebuild head count buffer store).buffer.filled = passed := by
  rw [buffer_rebuild within]
  exact (record_of_stretch stretch within).2.1

theorem result_rebuild_eq_ok_iff (stretch : Stretch store count head passed target)
    (within : count ≤ buffer.capacity) :
    (rebuild head count buffer store).result = .ok head ↔
      target = .nil ∧ passed.length = count := by
  rw [result_rebuild_of_stretch stretch within, ← stopFault?_eq_none_iff]
  cases stopFault? count passed.length target <;> simp

/-- A chain that closes is rebuilt if its length is declared. -/
theorem rebuild_of_path (path : Path store head passed .nil)
    (within : passed.length ≤ buffer.capacity) :
    (rebuild head passed.length buffer store).result = .ok head ∧
      (rebuild head passed.length buffer store).buffer.filled = passed := by
  have whole : Stretch store passed.length head passed .nil := ⟨path, Nat.le_refl _, .inl rfl⟩
  exact ⟨(result_rebuild_eq_ok_iff whole within).mpr ⟨rfl, rfl⟩,
    filled_rebuild_of_stretch whole within⟩

/-- What is recorded without a fault is a whole chain of the declared length. -/
theorem path_of_no_fault (within : count ≤ buffer.capacity)
    (sound : (record store head count buffer).fault? = none) :
    Path store head (record store head count buffer).buffer.filled .nil ∧
      (record store head count buffer).buffer.length = count := by
  obtain ⟨passed, target, stretch⟩ := exists_stretch store count head
  obtain ⟨fault, filled, -⟩ := record_of_stretch stretch within
  obtain ⟨rfl, length⟩ := stopFault?_eq_none_iff.mp (fault.symm.trans sound)
  rw [← OrderBuffer.length_filled, filled]
  exact ⟨stretch.path, length⟩

/-- Only a chain recorded without a fault is rebuilt, and it keeps its head. -/
theorem rebuild_of_ok {newHead : Handle width}
    (made : (rebuild head count buffer store).result = .ok newHead) :
    count ≤ buffer.capacity ∧ (record store head count buffer).fault? = none ∧
      newHead = head := by
  rcases Nat.lt_or_ge buffer.capacity count with beyond | within
  · rw [rebuild_of_capacity_lt beyond] at made
    cases made
  · cases fault : (record store head count buffer).fault? with
    | some error =>
        rw [rebuild_of_fault within fault] at made
        cases made
    | none =>
        have path := (path_of_no_fault within fault).1
        rw [rebuild_of_no_fault within fault, Except.ok.injEq, path.headD_eq] at made
        exact ⟨within, rfl, made.symm⟩

/-- A chain with nodes behind the declared number of them runs on, whatever its
course from there. -/
theorem result_rebuild_of_runsOn {moves : List (Handle width)}
    (path : Path store head moves target) (beyond : count < moves.length)
    (within : count ≤ buffer.capacity) :
    (rebuild head count buffer store).result = .error (.runsOn count) := by
  obtain ⟨middle, stretch, onward⟩ := path.exists_stretch_take (Nat.le_of_lt beyond)
  have further : moves.drop count ≠ [] := by
    rw [ne_eq, List.drop_eq_nil_iff]
    omega
  obtain ⟨value, found⟩ := onward.occupied_of_ne_nil further
  have named : middle ≠ .nil := Store.ne_nil_of_get? found
  have reached : (moves.take count).length = count := by
    rw [List.length_take]
    omega
  rw [result_rebuild_of_stretch stretch within, reached]
  simp [stopFault?, named]

/-- What rebuilding a chain with this head, declared to have so many nodes, comes
to, if the buffer is large enough. -/
def Course.result (head : Handle width) (count : Nat) :
    Course width → Except (ChainError width) (Handle width)
  | .closes length =>
      if count < length then .error (.runsOn count)
      else if count = length then .ok head
      else .error (.endsEarly count length)
  | .breaksOff length vacant =>
      if count ≤ length then .error (.runsOn count) else .error (.absent vacant)
  | .goesOn => .error (.runsOn count)

theorem result_rebuild_of_hasCourse {course : Course width}
    (has : HasCourse store head course) (within : count ≤ buffer.capacity) :
    (rebuild head count buffer store).result = course.result head count := by
  cases course with
  | goesOn =>
      obtain ⟨passed, target, path, length⟩ := has (count + 1)
      exact result_rebuild_of_runsOn path (by omega) within
  | closes length =>
      obtain ⟨passed, path, rfl⟩ := has
      rw [Course.result]
      split
      case isTrue beyond => exact result_rebuild_of_runsOn path beyond within
      case isFalse notBeyond =>
        have stretch : Stretch store count head passed .nil :=
          ⟨path, by omega, .inr (Store.get?_nil store)⟩
        rw [result_rebuild_of_stretch stretch within]
        split
        case isTrue same => simp [stopFault?, same]
        case isFalse different => simp [stopFault?, Ne.symm different]
  | breaksOff length vacant =>
      obtain ⟨notNil, vacancy, passed, path, rfl⟩ := has
      rw [Course.result]
      split
      case isTrue bounded =>
        rcases Nat.lt_or_eq_of_le bounded with beyond | same
        · exact result_rebuild_of_runsOn path beyond within
        · have stretch : Stretch store count head passed vacant :=
            ⟨path, by omega, .inr vacancy⟩
          rw [result_rebuild_of_stretch stretch within]
          simp [stopFault?, notNil, same]
      case isFalse notBounded =>
        have stretch : Stretch store count head passed vacant :=
          ⟨path, by omega, .inr vacancy⟩
        have short : passed.length ≠ count := by omega
        rw [result_rebuild_of_stretch stretch within]
        simp [stopFault?, notNil, short]

theorem Course.result_ne_overCapacity (course : Course width) (head : Handle width)
    (count capacity required : Nat) :
    course.result head count ≠ .error (.overCapacity capacity required) := by
  cases course with
  | closes length =>
      rw [Course.result]
      split
      · simp
      · split <;> simp
  | breaksOff length vacant =>
      rw [Course.result]
      split <;> simp
  | goesOn => simp [Course.result]

theorem capacity_lt_of_overCapacity {capacity required : Nat}
    (rejected : (rebuild head count buffer store).result =
      .error (.overCapacity capacity required)) : buffer.capacity < count := by
  by_contra notBeyond
  obtain ⟨course, only⟩ := exists_hasCourse_iff store head
  rw [result_rebuild_of_hasCourse ((only course).mpr rfl) (Nat.le_of_not_lt notBeyond)] at rejected
  exact course.result_ne_overCapacity head count capacity required rejected

/-- The last event of a rebuild with this result. -/
def resultEvent (count : Nat) : Except (ChainError width) (Handle width) → Event width
  | .error error => .rejected error
  | .ok newHead => .finished newHead count

/-- A node is reported just before it is put into the buffer, and nothing comes in between. -/
theorem events_record (within : count ≤ buffer.capacity) :
    (record store head count buffer).events =
      recordings (record store head count buffer).buffer.filled 0 := by
  obtain ⟨passed, target, stretch⟩ := exists_stretch store count head
  obtain ⟨-, filled, events⟩ := record_of_stretch stretch within
  rw [filled, events]

/-- Whatever comes of a rebuild, its events can be read off what it left behind. -/
theorem events_rebuild (head : Handle width) (count : Nat) (buffer : OrderBuffer width)
    (store : σ) :
    (rebuild head count buffer store).events =
      .started head count ::
        (if buffer.capacity < count then []
          else recordings (rebuild head count buffer store).buffer.filled 0) ++
          [resultEvent count (rebuild head count buffer store).result] := by
  rcases Nat.lt_or_ge buffer.capacity count with beyond | within
  · rw [if_pos beyond, rebuild_of_capacity_lt beyond]
    rfl
  · rw [if_neg (Nat.not_lt.mpr within)]
    cases fault : (record store head count buffer).fault? with
    | some error =>
        rw [rebuild_of_fault within fault, events_record within]
        rfl
    | none =>
        rw [rebuild_of_no_fault within fault, events_record within]
        rfl

theorem length_filled_rebuild_le (within : count ≤ buffer.capacity) :
    (rebuild head count buffer store).buffer.filled.length ≤ count := by
  obtain ⟨passed, target, stretch⟩ := exists_stretch store count head
  rw [filled_rebuild_of_stretch stretch within]
  exact stretch.length_le

/-- However the links lead on, rebuilding reports the start, at most as many nodes
as were declared, and the end. -/
theorem length_events_rebuild_le (head : Handle width) (count : Nat)
    (buffer : OrderBuffer width) (store : σ) :
    (rebuild head count buffer store).events.length ≤ count + 2 := by
  rw [events_rebuild]
  split
  case isTrue => simp
  case isFalse notBeyond =>
    have bound : (rebuild head count buffer store).buffer.filled.length ≤ count :=
      length_filled_rebuild_le (Nat.le_of_not_lt notBeyond)
    simpa [recordings] using bound

/-- The result of rebuilding, for every store and every chain: too small a buffer
is noticed first, and otherwise the one course that the chain has settles it. -/
theorem result_rebuild_by_course (head : Handle width) (count : Nat)
    (buffer : OrderBuffer width) (store : σ) :
    ((rebuild head count buffer store).result =
        .error (.overCapacity buffer.capacity count) ↔ buffer.capacity < count) ∧
      (rebuild head count buffer store).events.length ≤ count + 2 ∧
      ∃ course, (∀ other, HasCourse store head other ↔ other = course) ∧
        (rebuild head count buffer store).result =
          if buffer.capacity < count then .error (.overCapacity buffer.capacity count)
          else course.result head count := by
  obtain ⟨course, only⟩ := exists_hasCourse_iff store head
  refine ⟨⟨capacity_lt_of_overCapacity, fun beyond => ?_⟩,
    length_events_rebuild_le head count buffer store, course, only, ?_⟩
  · rw [rebuild_of_capacity_lt beyond]
  · split
    case isTrue beyond => rw [rebuild_of_capacity_lt beyond]
    case isFalse notBeyond =>
      have has : HasCourse store head course := (only course).mpr rfl
      exact result_rebuild_of_hasCourse has (Nat.le_of_not_lt notBeyond)

/-- Two chains with a common tail (from 0 and from 3), a circle at 4, and a chain
from 5 that breaks off. -/
def tangle : Arena 8 (Node 8) where
  slots := #[⟨"a", ⟨1⟩⟩, ⟨"b", ⟨2⟩⟩, ⟨"c", .nil⟩, ⟨"d", ⟨1⟩⟩, ⟨"e", ⟨4⟩⟩, ⟨"f", ⟨6⟩⟩,
    ⟨"g", ⟨9⟩⟩]
  capacity := 8
  capacity_pos := by decide
  capacity_le := by decide
  size_le := by decide

example :
    (rebuild ⟨3⟩ 3 (.empty 4) tangle).result = .ok ⟨3⟩ ∧
      (rebuild ⟨4⟩ 3 (.empty 4) tangle).result = .error (.runsOn 3) ∧
      (rebuild ⟨5⟩ 2 (.empty 4) tangle).result = .error (.runsOn 2) ∧
      (rebuild ⟨5⟩ 3 (.empty 4) tangle).result = .error (.absent ⟨9⟩) ∧
      (rebuild ⟨0⟩ 4 (.empty 4) tangle).result = .error (.endsEarly 4 3) ∧
      (rebuild ⟨0⟩ 5 (.empty 4) tangle).result = .error (.overCapacity 4 5) :=
  ⟨rfl, rfl, rfl, rfl, rfl, rfl⟩

end ArenaChain.Chain
