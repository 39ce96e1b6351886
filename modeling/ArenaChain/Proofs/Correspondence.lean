import ArenaChain.Chain.Rebuild
import Mathlib.Data.List.Forall2

/-!
# Stores that correspond

Two stores can hold the same chains under different handles, with different values around
the links, or as stores of different kinds.  A `Correspondence` says which handles and which
values stand for each other.  All that is done to chains tells handles apart, compares them
with the end marker and follows links, and nothing else: on stores that correspond it has
results that correspond, and so do the stores afterwards.

How stores of two kinds correspond may involve more than look-up; a `Simulation` is any
relation between them that look-up follows and that writing links keeps.
-/

namespace ArenaChain

open Chain

/-- Outcomes that are both good or both bad, and correspond. -/
inductive Outcomes {ε ζ γ δ : Type} (Bad : ε → ζ → Prop) (Good : γ → δ → Prop) :
    Except ε γ → Except ζ δ → Prop
  | ok {first : γ} {second : δ} (good : Good first second) :
      Outcomes Bad Good (.ok first) (.ok second)
  | error {first : ε} {second : ζ} (bad : Bad first second) :
      Outcomes Bad Good (.error first) (.error second)

/-- Which handles and which values stand for each other. -/
structure Correspondence (v w : Nat) (α β : Type) [Linked α v] [Linked β w] where
  Handles : Handle v → Handle w → Prop
  Values : α → β → Prop
  nil : Handles .nil .nil
  biUnique : Relator.BiUnique Handles
  next : ∀ {value : α} {other : β}, Values value other →
    Handles (Linked.next value) (Linked.next other)
  withNext : ∀ {target : Handle v} {otherTarget : Handle w} {value : α} {other : β},
    Handles target otherTarget → Values value other →
      Values (Linked.withNext target value) (Linked.withNext otherTarget other)

namespace Correspondence

variable {v w : Nat} {α β σ τ : Type} [Linked α v] [Linked β w] [Store σ v α] [Store τ w β]

section Relations

variable (pairing : Correspondence v w α β)

/-- Look-up finds corresponding values, or none in either store. -/
def Stores (first : σ) (second : τ) : Prop :=
  ∀ ⦃handle : Handle v⦄ ⦃other : Handle w⦄, pairing.Handles handle other →
    Option.Rel pairing.Values (Store.get? first handle) (Store.get? second other)

def Orders : List (Handle v) → List (Handle w) → Prop := List.Forall₂ pairing.Handles

structure Buffers (first : OrderBuffer v) (second : OrderBuffer w) : Prop where
  capacity_eq : first.capacity = second.capacity
  filled : pairing.Orders first.filled second.filled

inductive Errors : ChainError v → ChainError w → Prop
  | overCapacity (capacity required : Nat) :
      Errors (.overCapacity capacity required) (.overCapacity capacity required)
  | endsEarly (declared found : Nat) :
      Errors (.endsEarly declared found) (.endsEarly declared found)
  | runsOn (declared : Nat) : Errors (.runsOn declared) (.runsOn declared)
  | absent {handle : Handle v} {other : Handle w} (handles : pairing.Handles handle other) :
      Errors (.absent handle) (.absent other)
  | repeated {handle : Handle v} {other : Handle w} (handles : pairing.Handles handle other) :
      Errors (.repeated handle) (.repeated other)

inductive Events : Event v → Event w → Prop
  | started {head : Handle v} {other : Handle w} (handles : pairing.Handles head other)
      (count : Nat) : Events (.started head count) (.started other count)
  | recorded {handle : Handle v} {other : Handle w} (handles : pairing.Handles handle other)
      (position : Nat) : Events (.recorded handle position) (.recorded other position)
  | rejected {error : ChainError v} {other : ChainError w} (errors : pairing.Errors error other) :
      Events (.rejected error) (.rejected other)
  | finished {head : Handle v} {other : Handle w} (handles : pairing.Handles head other)
      (count : Nat) : Events (.finished head count) (.finished other count)
  | connected {head : Handle v} {other : Handle w} (handles : pairing.Handles head other)
      (count : Nat) : Events (.connected head count) (.connected other count)

/-- The results of making a chain: its head, or why there is none. -/
def Results : Except (ChainError v) (Handle v) → Except (ChainError w) (Handle w) → Prop :=
  Outcomes pairing.Errors pairing.Handles

def Items : Handle v × α → Handle w × β → Prop := fun item other =>
  pairing.Handles item.1 other.1 ∧ pairing.Values item.2 other.2

structure Traversals (first : Traversal v α) (second : Traversal w β) : Prop where
  items : List.Forall₂ pairing.Items first.items second.items
  cursor : pairing.Handles first.cursor second.cursor

structure Recordings (first : Recording v) (second : Recording w) : Prop where
  fault : Option.Rel pairing.Errors first.fault? second.fault?
  buffer : pairing.Buffers first.buffer second.buffer
  events : List.Forall₂ pairing.Events first.events second.events

/-- What became of two attempts, where the stores afterwards are `related`. -/
structure Rebuilds (related : σ → τ → Prop) (first : Rebuild σ v) (second : Rebuild τ w) :
    Prop where
  result : pairing.Results first.result second.result
  store : related first.store second.store
  buffer : pairing.Buffers first.buffer second.buffer
  events : List.Forall₂ pairing.Events first.events second.events

/-- A relation between stores that look-up follows and that writing links keeps. -/
structure Simulation (related : σ → τ → Prop) : Prop where
  lookUp : ∀ {first : σ} {second : τ}, related first second → pairing.Stores first second
  writeLink : ∀ {first : σ} {second : τ} {handle target : Handle v} {other otherTarget : Handle w},
    related first second → pairing.Handles handle other → pairing.Handles target otherTarget →
      related (Store.writeLink handle target first) (Store.writeLink other otherTarget second)

end Relations

variable {pairing : Correspondence v w α β} {first : σ} {second : τ}
variable {handle target : Handle v} {other otherTarget : Handle w}
variable {order : List (Handle v)} {otherOrder : List (Handle w)}
variable {buffer : OrderBuffer v} {otherBuffer : OrderBuffer w}

theorem eq_iff {again : Handle v} {otherAgain : Handle w} (handles : pairing.Handles handle other)
    (handlesAgain : pairing.Handles again otherAgain) : handle = again ↔ other = otherAgain :=
  Relator.rel_eq pairing.biUnique handles handlesAgain

theorem eq_nil_iff (handles : pairing.Handles handle other) : handle = .nil ↔ other = .nil :=
  eq_iff handles pairing.nil

theorem Buffers.length_eq (buffers : pairing.Buffers buffer otherBuffer) :
    buffer.length = otherBuffer.length := by
  rw [← buffer.length_filled, buffers.filled.length_eq, otherBuffer.length_filled]

theorem headD_nil (orders : pairing.Orders order otherOrder) :
    pairing.Handles (order.headD .nil) (otherOrder.headD .nil) := by
  cases orders with
  | nil => exact pairing.nil
  | cons handles others => exact handles

theorem Stores.cases (stores : pairing.Stores first second)
    (handles : pairing.Handles handle other) :
    (Store.get? first handle = none ∧ Store.get? second other = none) ∨
      ∃ value otherValue, Store.get? first handle = some value ∧
        Store.get? second other = some otherValue ∧ pairing.Values value otherValue := by
  have found := stores handles
  generalize Store.get? first handle = firstFound at found
  generalize Store.get? second other = secondFound at found
  cases found with
  | none => exact .inl ⟨rfl, rfl⟩
  | some values => exact .inr ⟨_, _, rfl, rfl, values⟩

theorem contains_eq (stores : pairing.Stores first second)
    (handles : pairing.Handles handle other) :
    Store.contains first handle = Store.contains second other := by
  unfold Store.contains
  rcases stores.cases handles with ⟨vacant, vacantToo⟩ | ⟨value, otherValue, found, foundToo, -⟩
  · rw [vacant, vacantToo]
    rfl
  · rw [found, foundToo]
    rfl

theorem simulation_stores : pairing.Simulation (pairing.Stores : σ → τ → Prop) where
  lookUp stores := stores
  writeLink stores handles targets := by
    intro named otherNamed nameds
    rw [Store.get?_writeLink, Store.get?_writeLink, if_congr (eq_iff nameds handles) rfl rfl]
    rcases stores.cases nameds with ⟨vacant, vacantToo⟩ | ⟨value, other, found, foundToo, values⟩
    · rw [vacant, vacantToo]
      split <;> exact .none
    · rw [found, foundToo]
      split
      · exact .some (pairing.withNext targets values)
      · exact .some values

/-! ## What is done to chains -/

variable {related : σ → τ → Prop}

theorem traverse (stores : pairing.Stores first second) (limit : Nat)
    (handles : pairing.Handles handle other) :
    pairing.Traversals (Chain.traverse first limit handle) (Chain.traverse second limit other) := by
  induction limit generalizing handle other with
  | zero => exact ⟨.nil, handles⟩
  | succ limit ih =>
      rcases stores.cases handles with
        ⟨vacant, vacantToo⟩ | ⟨value, otherValue, found, foundToo, values⟩
      · rw [traverse_of_vacant limit vacant, traverse_of_vacant limit vacantToo]
        exact ⟨.nil, pairing.nil⟩
      · have onward := ih (pairing.next values)
        rw [traverse_of_occupied limit found, traverse_of_occupied limit foundToo]
        exact ⟨.cons ⟨handles, values⟩ onward.items, onward.cursor⟩

theorem Simulation.writeLinks (sim : pairing.Simulation related) (stores : related first second)
    (orders : pairing.Orders order otherOrder) :
    related (Chain.writeLinks order first) (Chain.writeLinks otherOrder second) := by
  induction orders generalizing first second with
  | nil => exact stores
  | cons handles others ih =>
      rw [writeLinks_cons, writeLinks_cons]
      exact ih (sim.writeLink stores handles (headD_nil others))

theorem orderFault? (stores : pairing.Stores first second) {seen : List (Handle v)}
    {otherSeen : List (Handle w)} (seens : pairing.Orders seen otherSeen)
    (orders : pairing.Orders order otherOrder) :
    Option.Rel pairing.Errors (Chain.orderFault? first seen order)
      (Chain.orderFault? second otherSeen otherOrder) := by
  induction orders generalizing seen otherSeen with
  | nil => exact .none
  | cons handles others ih =>
      have again := List.rel_mem pairing.biUnique handles seens
      rw [Chain.orderFault?, Chain.orderFault?, contains_eq stores handles, if_congr again rfl rfl]
      split
      · split
        · exact .some (.repeated handles)
        · exact ih (.cons handles seens)
      · exact .some (.absent handles)

theorem Simulation.connect (sim : pairing.Simulation related) (stores : related first second)
    (orders : pairing.Orders order otherOrder) :
    pairing.Results (Chain.connect order first).1 (Chain.connect otherOrder second).1 ∧
      related (Chain.connect order first).2 (Chain.connect otherOrder second).2 := by
  have faults := orderFault? (sim.lookUp stores) .nil orders
  unfold Chain.connect
  generalize Chain.orderFault? first [] order = fault at faults
  generalize Chain.orderFault? second [] otherOrder = otherFault at faults
  cases faults with
  | none => exact ⟨.ok (headD_nil orders), sim.writeLinks stores orders⟩
  | some errors => exact ⟨.error errors, stores⟩

theorem Simulation.connectBuffer (sim : pairing.Simulation related)
    (stores : related first second) (buffers : pairing.Buffers buffer otherBuffer) :
    pairing.Rebuilds related (Chain.connectBuffer buffer first)
      (Chain.connectBuffer otherBuffer second) := by
  have connections := sim.connect stores buffers.filled
  unfold Chain.connectBuffer
  generalize Chain.connect buffer.filled first = connection at connections
  generalize Chain.connect otherBuffer.filled second = otherConnection at connections
  obtain ⟨result, after⟩ := connection
  obtain ⟨otherResult, otherAfter⟩ := otherConnection
  obtain ⟨results, storesAfter⟩ := connections
  cases results with
  | ok heads =>
      rw [buffers.length_eq]
      exact ⟨.ok heads, storesAfter, buffers, .cons (.connected heads _) .nil⟩
  | error errors => exact ⟨.error errors, storesAfter, buffers, .nil⟩

theorem Buffers.push (buffers : pairing.Buffers buffer otherBuffer)
    (handles : pairing.Handles handle other) :
    Outcomes
      (fun overflow otherOverflow => pairing.Handles overflow.rejected otherOverflow.rejected)
      pairing.Buffers (buffer.push handle) (otherBuffer.push other) := by
  have capacity := buffers.capacity_eq
  have length := buffers.length_eq
  cases pushed : buffer.push handle with
  | ok longer =>
      obtain ⟨room, sameCapacity, appended⟩ := OrderBuffer.push_eq_ok_iff.mp pushed
      have roomToo : otherBuffer.length < otherBuffer.capacity := by omega
      obtain ⟨otherLonger, otherPushed⟩ := OrderBuffer.exists_push_eq_ok other roomToo
      obtain ⟨-, otherCapacity, otherAppended⟩ := OrderBuffer.push_eq_ok_iff.mp otherPushed
      rw [otherPushed]
      refine .ok ⟨by omega, ?_⟩
      rw [appended, otherAppended]
      exact List.rel_append buffers.filled (.cons handles .nil)
  | error overflow =>
      obtain ⟨full, rfl⟩ := OrderBuffer.push_eq_error_iff.mp pushed
      have refused : otherBuffer.push other = .error ⟨other⟩ :=
        OrderBuffer.push_eq_error_iff.mpr ⟨by omega, rfl⟩
      rw [refused]
      exact .error handles

theorem Buffers.clear (buffers : pairing.Buffers buffer otherBuffer) :
    pairing.Buffers buffer.clear otherBuffer.clear := by
  refine ⟨?_, ?_⟩
  · rw [OrderBuffer.capacity_clear, OrderBuffer.capacity_clear, buffers.capacity_eq]
  · rw [OrderBuffer.filled_clear, OrderBuffer.filled_clear]
    exact .nil

theorem recordOnward (stores : pairing.Stores first second) (declared remaining : Nat)
    (handles : pairing.Handles handle other) (buffers : pairing.Buffers buffer otherBuffer) :
    pairing.Recordings (Chain.recordOnward first declared remaining handle buffer)
      (Chain.recordOnward second declared remaining other otherBuffer) := by
  induction remaining generalizing handle other buffer otherBuffer with
  | zero =>
      rw [Chain.recordOnward, Chain.recordOnward, if_congr (eq_nil_iff handles) rfl rfl]
      split
      · exact ⟨.none, buffers, .nil⟩
      · exact ⟨.some (.runsOn declared), buffers, .nil⟩
  | succ remaining ih =>
      rw [Chain.recordOnward, Chain.recordOnward, if_congr (eq_nil_iff handles) rfl rfl]
      split
      · rw [buffers.length_eq]
        exact ⟨.some (.endsEarly declared _), buffers, .nil⟩
      · rcases stores.cases handles with
          ⟨vacant, vacantToo⟩ | ⟨value, otherValue, found, foundToo, values⟩
        · rw [vacant, vacantToo]
          exact ⟨.some (.absent handles), buffers, .nil⟩
        · rw [found, foundToo, buffers.length_eq, buffers.capacity_eq]
          have pushed := buffers.push handles
          generalize buffer.push handle = longer at pushed
          generalize otherBuffer.push other = otherLonger at pushed
          cases pushed with
          | ok longers =>
              have onward := ih (pairing.next values) longers
              exact ⟨onward.fault, onward.buffer, .cons (.recorded handles _) onward.events⟩
          | error =>
              exact ⟨.some (.overCapacity _ declared), buffers, .cons (.recorded handles _) .nil⟩

theorem record (stores : pairing.Stores first second) (declared : Nat)
    (handles : pairing.Handles handle other) (buffers : pairing.Buffers buffer otherBuffer) :
    pairing.Recordings (Chain.record first handle declared buffer)
      (Chain.record second other declared otherBuffer) :=
  recordOnward stores declared declared handles buffers.clear

theorem Simulation.rebuild (sim : pairing.Simulation related) (stores : related first second)
    (handles : pairing.Handles handle other) (count : Nat)
    (buffers : pairing.Buffers buffer otherBuffer) :
    pairing.Rebuilds related (Chain.rebuild handle count buffer first)
      (Chain.rebuild other count otherBuffer second) := by
  have recordings := record (sim.lookUp stores) count handles buffers
  unfold Chain.rebuild
  rw [buffers.capacity_eq]
  split
  case isTrue =>
      have errors : pairing.Errors (.overCapacity otherBuffer.capacity count)
          (.overCapacity otherBuffer.capacity count) := .overCapacity _ _
      exact ⟨.error errors, stores, buffers,
        .cons (.started handles count) (.cons (.rejected errors) .nil)⟩
  case isFalse =>
      generalize Chain.record first handle count buffer = recording at recordings
      generalize Chain.record second other count otherBuffer = otherRecording at recordings
      obtain ⟨fault, recorded, events⟩ := recording
      obtain ⟨otherFault, otherRecorded, otherEvents⟩ := otherRecording
      obtain ⟨faults, buffersAfter, eventsBetween⟩ := recordings
      have reports := List.Forall₂.cons (Events.started handles count) eventsBetween
      cases faults with
      | some errors =>
          exact ⟨.error errors, stores, buffersAfter,
            List.rel_append reports (.cons (.rejected errors) .nil)⟩
      | none =>
          have heads := headD_nil buffersAfter.filled
          exact ⟨.ok heads, sim.writeLinks stores buffersAfter.filled, buffersAfter,
            List.rel_append reports (.cons (.finished heads count) .nil)⟩

end Correspondence

end ArenaChain
