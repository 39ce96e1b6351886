import ArenaChain.Proofs.Correspondence

/-!
# Handles that are translated

Where each handle stands for one other handle only, its translation, what corresponds to a
result is the translation of that result.
-/

namespace ArenaChain

variable {v w : Nat} {α β : Type}

/-- The same error, about translated handles. -/
def ChainError.map (translate : Handle v → Handle w) : ChainError v → ChainError w
  | .overCapacity capacity required => .overCapacity capacity required
  | .endsEarly declared found => .endsEarly declared found
  | .runsOn declared => .runsOn declared
  | .absent handle => .absent (translate handle)
  | .repeated handle => .repeated (translate handle)

/-- The same event, about translated handles. -/
def Chain.Event.map (translate : Handle v → Handle w) : Event v → Event w
  | .started head count => .started (translate head) count
  | .recorded handle position => .recorded (translate handle) position
  | .rejected error => .rejected (error.map translate)
  | .finished head count => .finished (translate head) count
  | .connected head count => .connected (translate head) count

theorem ChainError.map_id : ChainError.map (id : Handle v → Handle v) = id := by
  funext error
  cases error <;> rfl

theorem Chain.Event.map_id : Event.map (id : Handle v → Handle v) = id := by
  funext event
  cases event with
  | rejected error => exact congrArg Event.rejected (congrFun ChainError.map_id error)
  | _ => rfl

/-- Elements that stand for their images make up the image of the list. -/
theorem map_eq_of_forall₂ {γ δ : Type} {Related : γ → δ → Prop} {image : γ → δ}
    {first : List γ} {second : List δ}
    (unique : ∀ ⦃one : γ⦄ ⦃other : δ⦄, Related one other → image one = other)
    (related : List.Forall₂ Related first second) : first.map image = second := by
  rw [← List.forall₂_eq_eq_eq, List.forall₂_map_left_iff]
  exact related.imp unique

theorem map_eq_of_rel {γ δ : Type} {Related : γ → δ → Prop} {image : γ → δ}
    {first? : Option γ} {second? : Option δ}
    (unique : ∀ ⦃one : γ⦄ ⦃other : δ⦄, Related one other → image one = other)
    (related : Option.Rel Related first? second?) : first?.map image = second? := by
  cases related with
  | none => rfl
  | some related => exact congrArg some (unique related)

namespace Correspondence

variable [Linked α v]

section

variable [Linked β w] {pairing : Correspondence v w α β}
variable {translate : Handle v → Handle w}

/-- Each handle stands for its translation and for no other. -/
def Translates (pairing : Correspondence v w α β) (translate : Handle v → Handle w) : Prop :=
  ∀ ⦃handle : Handle v⦄ ⦃other : Handle w⦄, pairing.Handles handle other → translate handle = other

namespace Translates

theorem order (translates : pairing.Translates translate) {order : List (Handle v)}
    {other : List (Handle w)} (orders : pairing.Orders order other) :
    order.map translate = other :=
  map_eq_of_forall₂ translates orders

theorem error (translates : pairing.Translates translate) {error : ChainError v}
    {other : ChainError w} (errors : pairing.Errors error other) :
    error.map translate = other := by
  cases errors with
  | overCapacity capacity required => rfl
  | endsEarly declared found => rfl
  | runsOn declared => rfl
  | absent handles => exact congrArg ChainError.absent (translates handles)
  | repeated handles => exact congrArg ChainError.repeated (translates handles)

theorem event (translates : pairing.Translates translate) {event : Chain.Event v}
    {other : Chain.Event w} (events : pairing.Events event other) :
    event.map translate = other := by
  cases events with
  | started handles count => exact congrArg (Chain.Event.started · count) (translates handles)
  | recorded handles position =>
      exact congrArg (Chain.Event.recorded · position) (translates handles)
  | rejected errors => exact congrArg Chain.Event.rejected (translates.error errors)
  | finished handles count => exact congrArg (Chain.Event.finished · count) (translates handles)
  | connected handles count => exact congrArg (Chain.Event.connected · count) (translates handles)

theorem events (translates : pairing.Translates translate) {events : List (Chain.Event v)}
    {others : List (Chain.Event w)} (related : List.Forall₂ pairing.Events events others) :
    events.map (Chain.Event.map translate) = others :=
  map_eq_of_forall₂ (fun _ _ => translates.event) related

end Translates

end

/-! ## Handles that stand for themselves -/

/-- Handles and values stand for themselves. -/
def identical : Correspondence v v α α where
  Handles := Eq
  Values := Eq
  nil := rfl
  biUnique := ⟨fun _ _ _ same sameToo => same.trans sameToo.symm,
    fun _ _ _ same sameToo => same.symm.trans sameToo⟩
  next := congrArg Linked.next
  withNext targets values := congrArg₂ Linked.withNext targets values

namespace identical

theorem translates : (identical (α := α)).Translates (id : Handle v → Handle v) :=
  fun _ _ same => same

theorem orders (order : List (Handle v)) : (identical (α := α)).Orders order order :=
  List.forall₂_same.mpr fun _ _ => rfl

theorem buffers (buffer : OrderBuffer v) : (identical (α := α)).Buffers buffer buffer :=
  ⟨rfl, orders buffer.filled⟩

theorem eq_of_buffers {buffer other : OrderBuffer v}
    (related : (identical (α := α)).Buffers buffer other) : buffer = other := by
  have sameOrder := translates.order related.filled
  rw [List.map_id] at sameOrder
  exact OrderBuffer.ext_of_filled related.capacity_eq sameOrder

theorem eq_of_errors {error other : ChainError v}
    (related : (identical (α := α)).Errors error other) : error = other := by
  have same := translates.error related
  rwa [ChainError.map_id] at same

theorem eq_of_events {events others : List (Chain.Event v)}
    (related : List.Forall₂ (identical (α := α)).Events events others) : events = others := by
  have same := translates.events related
  rwa [Chain.Event.map_id, List.map_id] at same

theorem eq_of_recordings {recording other : Chain.Recording v}
    (related : (identical (α := α)).Recordings recording other) : recording = other := by
  have sameFault := map_eq_of_rel (fun _ _ errors => eq_of_errors errors) related.fault
  rw [Option.map_id'] at sameFault
  cases recording
  cases other
  simp only [Chain.Recording.mk.injEq]
  exact ⟨sameFault, eq_of_buffers related.buffer, eq_of_events related.events⟩

theorem eq_of_results {result other : Except (ChainError v) (Handle v)}
    (related : (identical (α := α)).Results result other) : result = other := by
  cases related with
  | ok same => exact congrArg Except.ok same
  | error errors => exact congrArg Except.error (eq_of_errors errors)

end identical

end Correspondence

end ArenaChain
