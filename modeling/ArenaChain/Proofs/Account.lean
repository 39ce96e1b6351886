import ArenaChain.Proofs.Outcome

/-!
# What the log tells

Rebuilding a chain is reported as it goes, from within the recording and around it.  When all
is done, the reports say no more and no less than what came of it: the start, the nodes that
the buffer now holds, and the result (`log_accounts_for_rebuild`).

An attempt to make a chain of the order in a buffer is reported only if it succeeds.  One that
is refused leaves no trace in the log (`outcome_told`).
-/

namespace ArenaChain.Chain

variable {σ α : Type} {width : Nat} [Store σ width α] [Linked α width]
variable {store : σ} {buffer : OrderBuffer width}

/-- The log of these events, if records down to the level of the threshold are wanted. -/
def logged (threshold : Log.Threshold) (events : List (Event width)) : List Log.Record :=
  (events.map Event.record).filter fun record => threshold.admits record.level

def startRecord (head : Handle width) (count : Nat) : Log.Record :=
  ⟨.debug, Event.target, "relink", [("head", .number head.toNat), ("node_count", .number count)]⟩

/-- The record of a node, with its slot of the buffer. -/
def nodeRecord (item : Handle width × Nat) : Log.Record :=
  ⟨.trace, Event.target, "snapshot",
    [("index", .number item.1.toNat), ("slot", .number item.2)]⟩

def rejectionRecord (error : ChainError width) : Log.Record :=
  ⟨.debug, Event.target, "relink rejected", [("err", .sentence error.message)]⟩

/-- The last record of a rebuild with this result. -/
def resultRecord (count : Nat) : Except (ChainError width) (Handle width) → Log.Record
  | .error error => rejectionRecord error
  | .ok newHead =>
    ⟨.debug, Event.target, "relinked",
      [("head", .number newHead.toNat), ("node_count", .number count)]⟩

/-- Records of every level are wanted down to the least important one. -/
theorem logged_trace (events : List (Event width)) :
    logged (.downTo .trace) events = events.map Event.record := by
  refine List.filter_eq_self.mpr fun record _ => ?_
  cases record.level <;> rfl

theorem record_started (head : Handle width) (count : Nat) :
    (Event.started head count).record = startRecord head count := rfl

theorem record_resultEvent (count : Nat) (result : Except (ChainError width) (Handle width)) :
    (resultEvent count result).record = resultRecord count result := by
  cases result <;> rfl

theorem map_record_recordings (passed : List (Handle width)) (position : Nat) :
    (recordings passed position).map Event.record = (passed.zipIdx position).map nodeRecord := by
  rw [recordings, List.map_map]
  rfl

/-- The log of a rebuild, for every store and every chain: the start; then the nodes that the
buffer holds afterwards, each with its slot, unless the buffer was too small and was left alone;
then the result. -/
theorem log_accounts_for_rebuild (head : Handle width) (count : Nat)
    (buffer : OrderBuffer width) (store : σ) :
    logged (.downTo .trace) (rebuild head count buffer store).events =
      startRecord head count ::
        (if buffer.capacity < count then []
          else (rebuild head count buffer store).buffer.filled.zipIdx.map nodeRecord) ++
          [resultRecord count (rebuild head count buffer store).result] := by
  rw [logged_trace, events_rebuild, List.map_append, List.map_cons, List.map_singleton,
    record_started, record_resultEvent, apply_ite (List.map Event.record),
    map_record_recordings, List.map_nil]

/-- A chain that breaks off is rejected after both of its nodes, though the buffer held three
handles before; too small a buffer is not looked into. -/
example :
    let buffer := (record tangle ⟨4⟩ 3 (.empty 4)).buffer
    (rebuild ⟨5⟩ 3 buffer tangle).events =
        [.started ⟨5⟩ 3, .recorded ⟨5⟩ 0, .recorded ⟨6⟩ 1, .rejected (.absent ⟨9⟩)] ∧
      (rebuild ⟨5⟩ 5 buffer tangle).events =
        [.started ⟨5⟩ 5, .rejected (.overCapacity 4 5)] :=
  ⟨rfl, rfl⟩

/-- Whether a record tells that an attempt was refused. -/
def isRejection (record : Log.Record) : Bool := record.message == "relink rejected"

/-- Whether a record tells that a chain was made. -/
def isCompletion (record : Log.Record) : Bool :=
  record.message == "relinked" || record.message == "relinked from buffer"

/-- A log tells the outcome of an attempt: a rejection once, with its error, or a completion
once, and not both. -/
def TellsOutcome (records : List Log.Record) :
    Except (ChainError width) (Handle width) → Prop
  | .error error =>
    records.filter isRejection = [rejectionRecord error] ∧ records.filter isCompletion = []
  | .ok _ => (∃ record, records.filter isCompletion = [record]) ∧ records.filter isRejection = []

/-- Of the log of a rebuild, records of other kinds than the first and those of nodes can only
be the last. -/
theorem filter_logged_rebuild (keep : Log.Record → Bool) (head : Handle width) (count : Nat)
    (buffer : OrderBuffer width) (store : σ) (notStart : keep (startRecord head count) = false)
    (notNode : ∀ item : Handle width × Nat, keep (nodeRecord item) = false) :
    (logged (.downTo .trace) (rebuild head count buffer store).events).filter keep =
      [resultRecord count (rebuild head count buffer store).result].filter keep := by
  have noNodes (items : List (Handle width × Nat)) :
      (items.map nodeRecord).filter keep = [] := by
    rw [List.filter_map, List.map_eq_nil_iff, List.filter_eq_nil_iff]
    intro item _
    simp [notNode]
  rw [logged_trace, events_rebuild, List.map_append, List.map_cons, List.map_singleton,
    record_started, record_resultEvent, List.cons_append,
    List.filter_cons_of_neg (Bool.eq_false_iff.mp notStart), List.filter_append]
  split
  · rfl
  · rw [map_record_recordings, noNodes, List.nil_append]

theorem tellsOutcome_rebuild (head : Handle width) (count : Nat) (buffer : OrderBuffer width)
    (store : σ) :
    TellsOutcome (logged (.downTo .trace) (rebuild head count buffer store).events)
      (rebuild head count buffer store).result := by
  have rejections := filter_logged_rebuild isRejection head count buffer store rfl fun _ => rfl
  have completions := filter_logged_rebuild isCompletion head count buffer store rfl fun _ => rfl
  cases result : (rebuild head count buffer store).result with
  | error error =>
      rw [result] at rejections completions
      exact ⟨rejections, completions⟩
  | ok newHead =>
      rw [result] at rejections completions
      exact ⟨⟨_, completions⟩, rejections⟩

theorem events_connectBuffer_of_error {error : ChainError width}
    (rejected : (connectBuffer buffer store).result = .error error) :
    (connectBuffer buffer store).events = [] := by
  unfold connectBuffer at rejected ⊢
  split
  case h_1 => rfl
  case h_2 linked =>
    rw [linked] at rejected
    cases rejected

theorem events_connectBuffer_of_ok {newHead : Handle width}
    (made : (connectBuffer buffer store).result = .ok newHead) :
    (connectBuffer buffer store).events = [.connected newHead buffer.length] := by
  unfold connectBuffer at made ⊢
  split
  case h_1 linked =>
    rw [linked] at made
    cases made
  case h_2 linked =>
    rw [linked] at made
    obtain rfl := Except.ok.inj made
    rfl

theorem tellsOutcome_connectBuffer_iff (buffer : OrderBuffer width) (store : σ) :
    TellsOutcome (logged (.downTo .trace) (connectBuffer buffer store).events)
        (connectBuffer buffer store).result ↔
      ∃ newHead, (connectBuffer buffer store).result = .ok newHead := by
  cases result : (connectBuffer buffer store).result with
  | error error =>
      rw [events_connectBuffer_of_error result]
      simp [TellsOutcome, logged]
  | ok newHead =>
      rw [events_connectBuffer_of_ok result]
      exact iff_of_true ⟨⟨_, rfl⟩, rfl⟩ ⟨newHead, rfl⟩

/-- The log tells the outcome of every rebuild.  Of attempts to make a chain of the order in a
buffer it tells only those that succeed: one that is rejected is not reported at all. -/
theorem outcome_told (head : Handle width) (count : Nat) (buffer : OrderBuffer width)
    (store : σ) :
    TellsOutcome (logged (.downTo .trace) (rebuild head count buffer store).events)
        (rebuild head count buffer store).result ∧
      (TellsOutcome (logged (.downTo .trace) (connectBuffer buffer store).events)
          (connectBuffer buffer store).result ↔
        ∃ newHead, (connectBuffer buffer store).result = .ok newHead) ∧
      ∀ error, (connectBuffer buffer store).result = .error error →
        (connectBuffer buffer store).events = [] :=
  ⟨tellsOutcome_rebuild head count buffer store, tellsOutcome_connectBuffer_iff buffer store,
    fun _ => events_connectBuffer_of_error⟩

/-- An order that names a slot three times is rejected, and the log does not tell. -/
theorem outcome_not_told_tangle :
    let buffer := (record tangle ⟨4⟩ 3 (.empty 4)).buffer
    (connectBuffer buffer tangle).result = .error (.repeated ⟨4⟩) ∧
      ¬ TellsOutcome (logged (.downTo .trace) (connectBuffer buffer tangle).events)
        (connectBuffer buffer tangle).result := by
  intro buffer
  have rejected : (connectBuffer buffer tangle).result = .error (.repeated ⟨4⟩) := rfl
  refine ⟨rejected, ?_⟩
  rw [rejected, events_connectBuffer_of_error rejected]
  rintro ⟨told, -⟩
  cases told

end ArenaChain.Chain
