import ArenaChain.Proofs.Translation
import ArenaChain.Session

/-!
# Sessions on stores that correspond

Two sessions correspond if their stores, their buffers and the heads that they remember do.
If both are asked for the same, up to handles and values that stand for each other, then the
replies, the events and the sessions afterwards correspond again.

Which slots new values are put into, and whether there is room for them, is up to the store.
This much of a step has to be known of the two stores (`Supplies`); the rest follows.  Stores
that take values in and give them up in `Lockstep` go on to correspond through a whole session.
-/

namespace ArenaChain

variable {v w : Nat} {α β σ τ : Type} [Linked α v] [Linked β w] [Store σ v α] [Store τ w β]

namespace Session

/-- What a command puts into a store or takes out of it. -/
def Command.supply : Command v α → σ → Except (Overflow α) (List (Handle v)) × σ
  | .insert value, store => Store.insertAll [value] store
  | .assemble values, store => Store.insertAll values store
  | .clear, store => (.ok [], Store.clear store)
  | _, store => (.ok [], store)

/-- The steps of a session that carries out commands in turn. -/
def trace : List (Command v α) → Session σ v → List (Step σ v α)
  | [], _ => []
  | command :: commands, session =>
    session.step command :: trace commands (session.step command).session

/-- The same reply, about translated handles and values. -/
def Reply.map (translate : Handle v → Handle w) (image : α → β) : Reply v α → Reply w β
  | .done => .done
  | .truth answer => .truth answer
  | .handle named => .handle (translate named)
  | .filled handle? => .filled (handle?.map translate)
  | .value held? => .value (held?.map image)
  | .passed items first? second? =>
    .passed (items.map (Prod.map translate image)) (first?.map translate) (second?.map translate)
  | .storeFull rejected => .storeFull (image rejected)
  | .bufferFull rejected => .bufferFull (translate rejected)
  | .refused error => .refused (error.map translate)

omit [Linked α v] in
theorem Reply.map_id : Reply.map (id : Handle v → Handle v) (id : α → α) = id := by
  funext reply
  cases reply with
  | refused error => exact congrArg Reply.refused (congrFun ChainError.map_id error)
  | _ => simp [Reply.map]

theorem step_insert (value : α) (session : Session σ v) :
    session.step (.insert value) =
      match Store.insertAll [value] session.store with
      | (.error overflow, store) => { session with store }.answer (.storeFull overflow.rejected)
      | (.ok order, store) => { session with store }.answer (.handle (order.headD .nil)) := by
  rw [step, Store.insertAll]
  rcases Store.insert value session.store with overflow | ⟨handle, grown⟩ <;> rfl

theorem step_assemble (values : List α) (session : Session σ v) :
    session.step (.assemble values) =
      match Store.insertAll values session.store with
      | (.error overflow, store) => { session with store }.answer (.storeFull overflow.rejected)
      | (.ok order, store) =>
        { session with store := Chain.writeLinks order store, head := order.headD .nil }.answer
          (.handle (order.headD .nil)) := by
  rw [step, Chain.assemble]
  rcases Store.insertAll values session.store with ⟨overflow | order, grown⟩ <;> rfl

end Session

namespace Correspondence

section Relations

variable (pairing : Correspondence v w α β)

inductive Commands : Session.Command v α → Session.Command w β → Prop
  | insert {value : α} {other : β} (values : pairing.Values value other) :
      Commands (.insert value) (.insert other)
  | assemble {chain : List α} {others : List β}
      (values : List.Forall₂ pairing.Values chain others) :
      Commands (.assemble chain) (.assemble others)
  | clear : Commands .clear .clear
  | lookUp {handle : Handle v} {other : Handle w} (handles : pairing.Handles handle other) :
      Commands (.lookUp handle) (.lookUp other)
  | contains {handle : Handle v} {other : Handle w} (handles : pairing.Handles handle other) :
      Commands (.contains handle) (.contains other)
  | writeLink {handle target : Handle v} {other otherTarget : Handle w}
      (handles : pairing.Handles handle other) (targets : pairing.Handles target otherTarget) :
      Commands (.writeLink handle target) (.writeLink other otherTarget)
  | traverse {head : Handle v} {other : Handle w} (heads : pairing.Handles head other)
      (limit : Nat) : Commands (.traverse head limit) (.traverse other limit)
  | connect {order : List (Handle v)} {other : List (Handle w)}
      (orders : pairing.Orders order other) : Commands (.connect order) (.connect other)
  | rebuild {head : Handle v} {other : Handle w} (heads : pairing.Handles head other)
      (count : Nat) : Commands (.rebuild head count) (.rebuild other count)
  | connectBuffer : Commands .connectBuffer .connectBuffer
  | newBuffer (capacity : Nat) : Commands (.newBuffer capacity) (.newBuffer capacity)
  | push {handle : Handle v} {other : Handle w} (handles : pairing.Handles handle other) :
      Commands (.push handle) (.push other)
  | clearBuffer : Commands .clearBuffer .clearBuffer
  | bufferAt (position : Nat) : Commands (.bufferAt position) (.bufferAt position)
  | setBufferAt (position : Nat) {handle : Handle v} {other : Handle w}
      (handles : pairing.Handles handle other) :
      Commands (.setBufferAt position handle) (.setBufferAt position other)
  | reverseBuffer : Commands .reverseBuffer .reverseBuffer
  | rotateBuffer (distance : Nat) : Commands (.rotateBuffer distance) (.rotateBuffer distance)

inductive Replies : Session.Reply v α → Session.Reply w β → Prop
  | done : Replies .done .done
  | truth (answer : Bool) : Replies (.truth answer) (.truth answer)
  | handle {handle : Handle v} {other : Handle w} (handles : pairing.Handles handle other) :
      Replies (.handle handle) (.handle other)
  | filled {handle? : Option (Handle v)} {other? : Option (Handle w)}
      (handles : Option.Rel pairing.Handles handle? other?) :
      Replies (.filled handle?) (.filled other?)
  | value {value? : Option α} {other? : Option β}
      (values : Option.Rel pairing.Values value? other?) : Replies (.value value?) (.value other?)
  | passed {passed : List (Handle v × α)} {others : List (Handle w × β)}
      {first? second? : Option (Handle v)} {otherFirst? otherSecond? : Option (Handle w)}
      (items : List.Forall₂ pairing.Items passed others)
      (firsts : Option.Rel pairing.Handles first? otherFirst?)
      (seconds : Option.Rel pairing.Handles second? otherSecond?) :
      Replies (.passed passed first? second?) (.passed others otherFirst? otherSecond?)
  | storeFull {rejected : α} {other : β} (values : pairing.Values rejected other) :
      Replies (.storeFull rejected) (.storeFull other)
  | bufferFull {rejected : Handle v} {other : Handle w}
      (handles : pairing.Handles rejected other) :
      Replies (.bufferFull rejected) (.bufferFull other)
  | refused {error : ChainError v} {other : ChainError w} (errors : pairing.Errors error other) :
      Replies (.refused error) (.refused other)

/-- Sessions whose stores are `related`. -/
structure Sessions (related : σ → τ → Prop) (first : Session σ v) (second : Session τ w) :
    Prop where
  store : related first.store second.store
  buffer : pairing.Buffers first.buffer second.buffer
  head : pairing.Handles first.head second.head

structure Steps (related : σ → τ → Prop) (first : Session.Step σ v α)
    (second : Session.Step τ w β) : Prop where
  reply : pairing.Replies first.reply second.reply
  events : List.Forall₂ pairing.Events first.events second.events
  session : pairing.Sessions related first.session second.session

/-- New values are put into slots that stand for each other, or the first one for which there
is no room is the same, and the stores are `related` afterwards. -/
structure Supplies (related : σ → τ → Prop)
    (first : Except (Overflow α) (List (Handle v)) × σ)
    (second : Except (Overflow β) (List (Handle w)) × τ) : Prop where
  outcome : Outcomes
    (fun overflow otherOverflow => pairing.Values overflow.rejected otherOverflow.rejected)
    pairing.Orders first.1 second.1
  store : related first.2 second.2

/-- A simulation between stores that put new values into slots that stand for each other, or
have no room both, and that give up their slots together. -/
structure Lockstep (related : σ → τ → Prop) : Prop extends pairing.Simulation related where
  insert : ∀ {first : σ} {second : τ} {value : α} {other : β},
    related first second → pairing.Values value other →
      Outcomes
        (fun overflow otherOverflow => pairing.Values overflow.rejected otherOverflow.rejected)
        (fun placed otherPlaced => pairing.Handles placed.1 otherPlaced.1 ∧
          related placed.2 otherPlaced.2)
        (Store.insert value first) (Store.insert other second)
  clear : ∀ {first : σ} {second : τ}, related first second →
    related (Store.clear first) (Store.clear second)

end Relations

variable {pairing : Correspondence v w α β} {first : σ} {second : τ}
variable {handle : Handle v} {other : Handle w}
variable {buffer : OrderBuffer v} {otherBuffer : OrderBuffer w}

/-! ## Buffers -/

theorem Orders.getElem? {order : List (Handle v)} {otherOrder : List (Handle w)}
    (orders : pairing.Orders order otherOrder) (position : Nat) :
    Option.Rel pairing.Handles order[position]? otherOrder[position]? := by
  induction orders generalizing position with
  | nil => exact .none
  | cons handles others ih =>
      cases position with
      | zero => exact .some handles
      | succ position => simpa only [List.getElem?_cons_succ] using ih position

theorem Orders.set {order : List (Handle v)} {otherOrder : List (Handle w)}
    (orders : pairing.Orders order otherOrder) (handles : pairing.Handles handle other)
    (position : Nat) :
    pairing.Orders (order.set position handle) (otherOrder.set position other) := by
  induction orders generalizing position with
  | nil => exact .nil
  | cons headHandles others ih =>
      cases position with
      | zero => exact .cons handles others
      | succ position => exact .cons headHandles (ih position)

theorem Orders.rotateLeft {order : List (Handle v)} {otherOrder : List (Handle w)}
    (orders : pairing.Orders order otherOrder) (distance : Nat) :
    pairing.Orders (order.rotateLeft distance) (otherOrder.rotateLeft distance) := by
  unfold List.rotateLeft
  rw [orders.length_eq]
  dsimp only
  split
  · exact orders
  · exact List.rel_append (List.forall₂_drop _ orders) (List.forall₂_take _ orders)

theorem Buffers.empty (capacity : Nat) : pairing.Buffers (.empty capacity) (.empty capacity) := by
  refine ⟨?_, ?_⟩
  · rw [OrderBuffer.capacity_empty, OrderBuffer.capacity_empty]
  · rw [OrderBuffer.filled_empty, OrderBuffer.filled_empty]
    exact .nil

theorem Buffers.get? (buffers : pairing.Buffers buffer otherBuffer) (position : Nat) :
    Option.Rel pairing.Handles (buffer.get? position) (otherBuffer.get? position) := by
  rw [OrderBuffer.get?_eq, OrderBuffer.get?_eq]
  exact Orders.getElem? buffers.filled position

theorem Buffers.rearrange {change : List (Handle v) → List (Handle v)}
    {otherChange : List (Handle w) → List (Handle w)}
    (changes : ∀ order otherOrder, pairing.Orders order otherOrder →
      pairing.Orders (change order) (otherChange otherOrder))
    {keepsLength : ∀ order, (change order).length = order.length}
    {otherKeepsLength : ∀ order, (otherChange order).length = order.length}
    (buffers : pairing.Buffers buffer otherBuffer) :
    pairing.Buffers (buffer.rearrange change keepsLength)
      (otherBuffer.rearrange otherChange otherKeepsLength) := by
  refine ⟨?_, ?_⟩
  · rw [OrderBuffer.capacity_rearrange, OrderBuffer.capacity_rearrange, buffers.capacity_eq]
  · rw [OrderBuffer.filled_rearrange, OrderBuffer.filled_rearrange]
    exact changes _ _ buffers.filled

theorem Buffers.set (buffers : pairing.Buffers buffer otherBuffer)
    (handles : pairing.Handles handle other) (position : Nat) :
    pairing.Buffers (buffer.set position handle) (otherBuffer.set position other) :=
  buffers.rearrange fun _ _ orders => Orders.set orders handles position

theorem Buffers.reverse (buffers : pairing.Buffers buffer otherBuffer) :
    pairing.Buffers buffer.reverse otherBuffer.reverse :=
  buffers.rearrange fun _ _ orders => List.rel_reverse orders

theorem Buffers.rotateLeft (buffers : pairing.Buffers buffer otherBuffer) (distance : Nat) :
    pairing.Buffers (buffer.rotateLeft distance) (otherBuffer.rotateLeft distance) :=
  buffers.rearrange fun _ _ orders => Orders.rotateLeft orders distance

/-! ## Steps -/

theorem advance (stores : pairing.Stores first second) (handles : pairing.Handles handle other) :
    Option.Rel pairing.Items (Chain.advance first handle).1 (Chain.advance second other).1 ∧
      pairing.Handles (Chain.advance first handle).2 (Chain.advance second other).2 := by
  rcases stores.cases handles with
    ⟨vacant, vacantToo⟩ | ⟨value, otherValue, found, foundToo, values⟩
  · rw [Chain.advance_of_vacant vacant, Chain.advance_of_vacant vacantToo]
    exact ⟨.none, pairing.nil⟩
  · rw [Chain.advance_of_occupied found, Chain.advance_of_occupied foundToo]
    exact ⟨.some ⟨handles, values⟩, pairing.next values⟩

theorem handle_of_items {item? : Option (Handle v × α)} {other? : Option (Handle w × β)}
    (items : Option.Rel pairing.Items item? other?) :
    Option.Rel pairing.Handles (item?.map Prod.fst) (other?.map Prod.fst) := by
  cases items with
  | none => exact .none
  | some item => exact .some item.1

theorem Translates.reply {translate : Handle v → Handle w} {image : α → β}
    (translates : pairing.Translates translate)
    (images : ∀ ⦃value : α⦄ ⦃other : β⦄, pairing.Values value other → image value = other)
    {reply : Session.Reply v α} {otherReply : Session.Reply w β}
    (replies : pairing.Replies reply otherReply) : reply.map translate image = otherReply := by
  cases replies with
  | done => rfl
  | truth answer => rfl
  | handle handles => exact congrArg Session.Reply.handle (translates handles)
  | filled handles => exact congrArg Session.Reply.filled (map_eq_of_rel translates handles)
  | value values => exact congrArg Session.Reply.value (map_eq_of_rel images values)
  | passed items firsts seconds =>
      have sameItem (item : Handle v × α) (other : Handle w × β) (same : pairing.Items item other) :
          Prod.map translate image item = other :=
        Prod.ext (translates same.1) (images same.2)
      rw [Session.Reply.map, map_eq_of_forall₂ sameItem items, map_eq_of_rel translates firsts,
        map_eq_of_rel translates seconds]
  | storeFull values => exact congrArg Session.Reply.storeFull (images values)
  | bufferFull handles => exact congrArg Session.Reply.bufferFull (translates handles)
  | refused errors => exact congrArg Session.Reply.refused (translates.error errors)

theorem explore (stores : pairing.Stores first second) (handles : pairing.Handles handle other)
    (limit : Nat) :
    pairing.Replies (Session.explore first handle limit) (Session.explore second other limit) := by
  have traversals := traverse stores limit handles
  obtain ⟨firsts, onward⟩ := advance stores traversals.cursor
  obtain ⟨seconds, -⟩ := advance stores onward
  exact .passed traversals.items (handle_of_items firsts) (handle_of_items seconds)

variable {related before : σ → τ → Prop} {session : Session σ v} {otherSession : Session τ w}

omit [Store σ v α] [Store τ w β] in
theorem Sessions.answer {reply : Session.Reply v α} {otherReply : Session.Reply w β}
    (sessions : pairing.Sessions related session otherSession)
    (replies : pairing.Replies reply otherReply) :
    pairing.Steps related (session.answer reply) (otherSession.answer otherReply) :=
  ⟨replies, .nil, sessions⟩

omit [Store σ v α] [Store τ w β] in
theorem Sessions.adopt {rebuilt : Chain.Rebuild σ v} {otherRebuilt : Chain.Rebuild τ w}
    (rebuilds : pairing.Rebuilds related rebuilt otherRebuilt)
    (heads : pairing.Handles session.head otherSession.head) :
    pairing.Steps related (session.adopt rebuilt) (otherSession.adopt otherRebuilt) := by
  obtain ⟨result, store, buffer, events⟩ := rebuilt
  obtain ⟨otherResult, otherStore, otherBuffer, otherEvents⟩ := otherRebuilt
  obtain ⟨results, stores, buffers, reports⟩ := rebuilds
  cases results with
  | ok newHeads => exact ⟨.handle newHeads, reports, stores, buffers, newHeads⟩
  | error errors => exact ⟨.refused errors, reports, stores, buffers, heads⟩

theorem step_insert {value : α} {otherValue : β}
    (sessions : pairing.Sessions before session otherSession)
    (supplies : pairing.Supplies related (Store.insertAll [value] session.store)
      (Store.insertAll [otherValue] otherSession.store)) :
    pairing.Steps related (session.step (.insert value))
      (otherSession.step (.insert otherValue)) := by
  rw [Session.step_insert, Session.step_insert]
  generalize Store.insertAll [value] session.store = inserted at supplies
  generalize Store.insertAll [otherValue] otherSession.store = otherInserted at supplies
  obtain ⟨result, grown⟩ := inserted
  obtain ⟨otherResult, otherGrown⟩ := otherInserted
  obtain ⟨outcome, stores⟩ := supplies
  cases outcome with
  | ok orders =>
      exact Sessions.answer ⟨stores, sessions.buffer, sessions.head⟩ (.handle (headD_nil orders))
  | error values =>
      exact Sessions.answer ⟨stores, sessions.buffer, sessions.head⟩ (.storeFull values)

theorem Simulation.step_assemble (sim : pairing.Simulation related) {chain : List α}
    {otherChain : List β} (sessions : pairing.Sessions before session otherSession)
    (supplies : pairing.Supplies related (Store.insertAll chain session.store)
      (Store.insertAll otherChain otherSession.store)) :
    pairing.Steps related (session.step (.assemble chain))
      (otherSession.step (.assemble otherChain)) := by
  rw [Session.step_assemble, Session.step_assemble]
  generalize Store.insertAll chain session.store = inserted at supplies
  generalize Store.insertAll otherChain otherSession.store = otherInserted at supplies
  obtain ⟨result, grown⟩ := inserted
  obtain ⟨otherResult, otherGrown⟩ := otherInserted
  obtain ⟨outcome, stores⟩ := supplies
  cases outcome with
  | ok orders =>
      exact Sessions.answer ⟨sim.writeLinks stores orders, sessions.buffer, headD_nil orders⟩
        (.handle (headD_nil orders))
  | error values =>
      exact Sessions.answer ⟨stores, sessions.buffer, sessions.head⟩ (.storeFull values)

theorem Simulation.step_connect (sim : pairing.Simulation related)
    (sessions : pairing.Sessions related session otherSession) {order : List (Handle v)}
    {otherOrder : List (Handle w)} (orders : pairing.Orders order otherOrder) :
    pairing.Steps related (session.step (.connect order))
      (otherSession.step (.connect otherOrder)) := by
  have connections := sim.connect sessions.store orders
  rw [Session.step, Session.step]
  generalize Chain.connect order session.store = connection at connections
  generalize Chain.connect otherOrder otherSession.store = otherConnection at connections
  obtain ⟨result, after⟩ := connection
  obtain ⟨otherResult, otherAfter⟩ := otherConnection
  obtain ⟨results, stores⟩ := connections
  cases results with
  | ok heads => exact Sessions.answer ⟨stores, sessions.buffer, heads⟩ (.handle heads)
  | error errors =>
      exact Sessions.answer ⟨stores, sessions.buffer, sessions.head⟩ (.refused errors)

theorem step_push (sessions : pairing.Sessions related session otherSession)
    (handles : pairing.Handles handle other) :
    pairing.Steps related (session.step (.push handle)) (otherSession.step (.push other)) := by
  have pushed := sessions.buffer.push handles
  rw [Session.step, Session.step]
  generalize session.buffer.push handle = longer at pushed
  generalize otherSession.buffer.push other = otherLonger at pushed
  cases pushed with
  | ok buffers => exact Sessions.answer ⟨sessions.store, buffers, sessions.head⟩ .done
  | error rejected => exact sessions.answer (.bufferFull rejected)

/-- Sessions that correspond, asked for the same, do the same. -/
theorem Simulation.step (sim : pairing.Simulation related)
    (sessions : pairing.Sessions before session otherSession) {command : Session.Command v α}
    {otherCommand : Session.Command w β} (commands : pairing.Commands command otherCommand)
    (supplies : pairing.Supplies related (command.supply session.store)
      (otherCommand.supply otherSession.store)) :
    pairing.Steps related (session.step command) (otherSession.step otherCommand) := by
  obtain ⟨-, buffers, heads⟩ := id sessions
  cases commands with
  | insert values => exact step_insert sessions supplies
  | assemble values => exact sim.step_assemble sessions supplies
  | clear => exact Sessions.answer ⟨supplies.store, buffers, heads⟩ .done
  | lookUp handles =>
      exact Sessions.answer ⟨supplies.store, buffers, heads⟩
        (.value (sim.lookUp supplies.store handles))
  | contains handles =>
      have stores : pairing.Stores session.store otherSession.store := sim.lookUp supplies.store
      rw [Session.step, Session.step, contains_eq stores handles]
      exact Sessions.answer ⟨supplies.store, buffers, heads⟩ (.truth _)
  | writeLink handles targets =>
      have written := sim.writeLink supplies.store handles targets
      exact Sessions.answer ⟨written, buffers, heads⟩ (.value (sim.lookUp written handles))
  | traverse handles limit =>
      exact Sessions.answer ⟨supplies.store, buffers, heads⟩
        (explore (sim.lookUp supplies.store) handles limit)
  | connect orders => exact sim.step_connect ⟨supplies.store, buffers, heads⟩ orders
  | rebuild handles count =>
      exact Sessions.adopt (sim.rebuild supplies.store handles count buffers) heads
  | connectBuffer => exact Sessions.adopt (sim.connectBuffer supplies.store buffers) heads
  | newBuffer capacity => exact Sessions.answer ⟨supplies.store, .empty capacity, heads⟩ .done
  | push handles => exact step_push ⟨supplies.store, buffers, heads⟩ handles
  | clearBuffer => exact Sessions.answer ⟨supplies.store, buffers.clear, heads⟩ .done
  | bufferAt position =>
      exact Sessions.answer ⟨supplies.store, buffers, heads⟩ (.filled (buffers.get? position))
  | setBufferAt position handles =>
      rw [Session.step, Session.step, buffers.length_eq]
      exact Sessions.answer ⟨supplies.store, buffers.set handles position, heads⟩ (.truth _)
  | reverseBuffer => exact Sessions.answer ⟨supplies.store, buffers.reverse, heads⟩ .done
  | rotateBuffer distance =>
      exact Sessions.answer ⟨supplies.store, buffers.rotateLeft distance, heads⟩ .done

namespace Lockstep

theorem insertAll (lockstep : pairing.Lockstep related) (stores : related first second)
    {chain : List α} {otherChain : List β} (values : List.Forall₂ pairing.Values chain otherChain) :
    pairing.Supplies related (Store.insertAll chain first) (Store.insertAll otherChain second) := by
  induction values generalizing first second with
  | nil => exact ⟨.ok .nil, stores⟩
  | @cons value otherValue chain otherChain values others ih =>
      have inserted := lockstep.insert stores values
      rw [Store.insertAll, Store.insertAll]
      generalize Store.insert value first = placed at inserted
      generalize Store.insert otherValue second = otherPlaced at inserted
      cases inserted with
      | error rejected => exact ⟨.error rejected, stores⟩
      | @ok placed otherPlaced corresponding =>
          obtain ⟨handle, grown⟩ := placed
          obtain ⟨otherHandle, otherGrown⟩ := otherPlaced
          obtain ⟨handles, grownStores⟩ := corresponding
          have onward := ih grownStores
          dsimp only at onward ⊢
          generalize Store.insertAll chain grown = rest at onward
          generalize Store.insertAll otherChain otherGrown = otherRest at onward
          obtain ⟨result, final⟩ := rest
          obtain ⟨otherResult, otherFinal⟩ := otherRest
          obtain ⟨outcome, finals⟩ := onward
          cases outcome with
          | ok orders => exact ⟨.ok (.cons handles orders), finals⟩
          | error rejected => exact ⟨.error rejected, finals⟩

theorem supply (lockstep : pairing.Lockstep related) (stores : related first second)
    {command : Session.Command v α} {otherCommand : Session.Command w β}
    (commands : pairing.Commands command otherCommand) :
    pairing.Supplies related (command.supply first) (otherCommand.supply second) := by
  cases commands with
  | insert values => exact lockstep.insertAll stores (.cons values .nil)
  | assemble values => exact lockstep.insertAll stores values
  | clear => exact ⟨.ok .nil, lockstep.clear stores⟩
  | _ => exact ⟨.ok .nil, stores⟩

/-- Sessions in lockstep correspond after every step. -/
theorem trace (lockstep : pairing.Lockstep related)
    (sessions : pairing.Sessions related session otherSession)
    {commands : List (Session.Command v α)} {otherCommands : List (Session.Command w β)}
    (asked : List.Forall₂ pairing.Commands commands otherCommands) :
    List.Forall₂ (pairing.Steps related) (Session.trace commands session)
      (Session.trace otherCommands otherSession) := by
  induction asked generalizing session otherSession with
  | nil => exact .nil
  | cons same others ih =>
      have steps := lockstep.toSimulation.step sessions same (lockstep.supply sessions.store same)
      exact .cons steps (ih steps.session)

end Lockstep

end Correspondence

end ArenaChain
