import ArenaChain.Chain.Assembly
import ArenaChain.Chain.Rebuild

/-!
# Sessions

A session works on one store with one order buffer, and remembers the head of the
chain that it made last.  `Session.step` carries out a command: it replies, reports
what happened while a chain was rebuilt, and leaves a session behind.
-/

namespace ArenaChain

/-- A store, an order buffer and the head of the chain made last. -/
structure Session (σ : Type) (width : Nat) where
  store : σ
  buffer : OrderBuffer width
  head : Handle width

namespace Session

/-- What a session can be asked to do.  The commands from `newBuffer` on concern the
order buffer alone, those before it the store or both. -/
inductive Command (width : Nat) (α : Type) where
  | insert (value : α)
  | assemble (values : List α)
  | clear
  | lookUp (handle : Handle width)
  | contains (handle : Handle width)
  | writeLink (handle target : Handle width)
  | traverse (head : Handle width) (limit : Nat)
  | connect (order : List (Handle width))
  | rebuild (head : Handle width) (count : Nat)
  | connectBuffer
  | newBuffer (capacity : Nat)
  | push (handle : Handle width)
  | clearBuffer
  | bufferAt (position : Nat)
  | setBufferAt (position : Nat) (handle : Handle width)
  | reverseBuffer
  | rotateBuffer (distance : Nat)

/-- What a session replies. -/
inductive Reply (width : Nat) (α : Type) where
  /-- The command was carried out, and there is nothing to say about it. -/
  | done
  | truth (answer : Bool)
  /-- The slot that a value was put into, or the head of a chain. -/
  | handle (handle : Handle width)
  /-- The handle in a slot of the buffer, if that slot is filled. -/
  | filled (handle? : Option (Handle width))
  /-- The value in a slot of the store, if that slot is occupied. -/
  | value (value? : Option α)
  /-- The slots that were passed, and those that two further moves would pass. -/
  | passed (items : List (Handle width × α)) (first? second? : Option (Handle width))
  | storeFull (rejected : α)
  | bufferFull (rejected : Handle width)
  | refused (error : ChainError width)

/-- A reply, the events on the way to it, and the session afterwards. -/
structure Step (σ : Type) (width : Nat) (α : Type) where
  reply : Reply width α
  events : List (Chain.Event width)
  session : Session σ width

variable {σ α : Type} {width : Nat}

/-- A session on a store, with a blank buffer of this capacity and no chain. -/
def start (store : σ) (bufferCapacity : Nat) : Session σ width :=
  ⟨store, .empty bufferCapacity, .nil⟩

/-- A reply on the way to which nothing happened that is reported. -/
def answer (reply : Reply width α) (session : Session σ width) : Step σ width α :=
  ⟨reply, [], session⟩

/-- Adopt what became of an attempt to make a chain by way of the buffer. -/
def adopt (rebuilt : Chain.Rebuild σ width) (session : Session σ width) : Step σ width α :=
  let { result, store, buffer, events } := rebuilt
  match result with
  | .error error => ⟨.refused error, events, { session with store, buffer }⟩
  | .ok head => ⟨.handle head, events, ⟨store, buffer, head⟩⟩

/-- Move along a chain up to a limit, then twice more. -/
def explore [Store σ width α] [Linked α width] (store : σ) (head : Handle width)
    (limit : Nat) : Reply width α :=
  let traversal := Chain.traverse store limit head
  let first := Chain.advance store traversal.cursor
  let second := Chain.advance store first.2
  .passed traversal.items (first.1.map Prod.fst) (second.1.map Prod.fst)

def step [Store σ width α] [Linked α width] (command : Command width α)
    (session : Session σ width) : Step σ width α :=
  match command with
  | .insert value =>
    match Store.insert value session.store with
    | .error overflow => session.answer (.storeFull overflow.rejected)
    | .ok (handle, store) => { session with store }.answer (.handle handle)
  | .assemble values =>
    match Chain.assemble values session.store with
    | (.error overflow, store) => { session with store }.answer (.storeFull overflow.rejected)
    | (.ok head, store) => { session with store, head }.answer (.handle head)
  | .clear => { session with store := Store.clear session.store }.answer .done
  | .lookUp handle => session.answer (.value (Store.get? session.store handle))
  | .contains handle => session.answer (.truth (Store.contains session.store handle))
  | .writeLink handle target =>
    let store := Store.writeLink handle target session.store
    { session with store }.answer (.value (Store.get? store handle))
  | .traverse head limit => session.answer (explore session.store head limit)
  | .connect order =>
    match Chain.connect order session.store with
    | (.error error, store) => { session with store }.answer (.refused error)
    | (.ok head, store) => { session with store, head }.answer (.handle head)
  | .rebuild head count =>
    session.adopt (Chain.rebuild head count session.buffer session.store)
  | .connectBuffer => session.adopt (Chain.connectBuffer session.buffer session.store)
  | .newBuffer capacity => { session with buffer := .empty capacity }.answer .done
  | .push handle =>
    match session.buffer.push handle with
    | .error overflow => session.answer (.bufferFull overflow.rejected)
    | .ok buffer => { session with buffer }.answer .done
  | .clearBuffer => { session with buffer := session.buffer.clear }.answer .done
  | .bufferAt position => session.answer (.filled (session.buffer.get? position))
  | .setBufferAt position handle =>
    let within := decide (position < session.buffer.length)
    { session with buffer := session.buffer.set position handle }.answer (.truth within)
  | .reverseBuffer => { session with buffer := session.buffer.reverse }.answer .done
  | .rotateBuffer distance =>
    { session with buffer := session.buffer.rotateLeft distance }.answer .done

end Session

end ArenaChain
