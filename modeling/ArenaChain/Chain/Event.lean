import ArenaChain.ChainError
import ArenaChain.Log

/-!
# Events of rebuilding a chain

What is reported while a chain is rebuilt, as data.  `Event.record` gives the log
record of an event: the nodes one by one at the least important level, the rest
at the level above.
-/

namespace ArenaChain.Chain

/-- A step of rebuilding a chain that is worth a report. -/
inductive Event (width : Nat) where
  /-- A chain with this head and declared number of nodes is to be rebuilt. -/
  | started (head : Handle width) (count : Nat)
  /-- A node of the chain was put into this slot of the buffer. -/
  | recorded (handle : Handle width) (position : Nat)
  | rejected (error : ChainError width)
  /-- The chain was rebuilt and has this head and number of nodes. -/
  | finished (head : Handle width) (count : Nat)
  /-- The order in the buffer was made a chain of this head and number of nodes. -/
  | connected (head : Handle width) (count : Nat)
  deriving DecidableEq

namespace Event

variable {width : Nat}

def target : String := "nexus_chain::relink"

def record : Event width → Log.Record
  | started head count =>
    ⟨.debug, target, "relink", [("head", .number head.toNat), ("node_count", .number count)]⟩
  | recorded handle position =>
    ⟨.trace, target, "snapshot",
      [("index", .number handle.toNat), ("slot", .number position)]⟩
  | rejected error => ⟨.debug, target, "relink rejected", [("err", .sentence error.message)]⟩
  | finished head count =>
    ⟨.debug, target, "relinked", [("head", .number head.toNat), ("node_count", .number count)]⟩
  | connected head count =>
    ⟨.debug, target, "relinked from buffer",
      [("head", .number head.toNat), ("node_count", .number count)]⟩

end Event

end ArenaChain.Chain
