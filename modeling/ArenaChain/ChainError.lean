import ArenaChain.Handle
import ArenaChain.RecordText

/-!
# Why a chain cannot be linked

A chain is rebuilt from a declared number of nodes, and an order is linked only
if it names occupied slots, each once.  `ChainError` holds what can be wrong with
either, always with the numbers that show it.
-/

namespace ArenaChain

/-- What is wrong with a declared count or with an order of handles. -/
inductive ChainError (width : Nat) where
  /-- The buffer has fewer slots than nodes were declared. -/
  | overCapacity (capacity required : Nat)
  /-- The chain ended after fewer nodes than were declared. -/
  | endsEarly (declared found : Nat)
  /-- The chain goes on after as many nodes as were declared. -/
  | runsOn (declared : Nat)
  /-- A link or an order names a vacant slot. -/
  | absent (handle : Handle width)
  /-- An order names a slot that it has named before. -/
  | repeated (handle : Handle width)
  deriving DecidableEq

namespace ChainError

variable {width : Nat}

def message : ChainError width → String
  | overCapacity capacity required =>
    s!"buffer capacity {capacity} cannot hold {required} nodes"
  | endsEarly declared found => s!"chain declared {declared} nodes but ended after {found}"
  | runsOn declared => s!"chain declared {declared} nodes but continues past them"
  | absent handle => s!"index {handle} is not present in storage"
  | repeated handle => s!"index {handle} appears more than once"

/-- The short name of the kind of error. -/
def label : ChainError width → String
  | overCapacity .. => "BufferTooSmall"
  | endsEarly .. => "TooFewNodes"
  | runsOn _ => "TooManyNodes"
  | absent _ => "InvalidIndex"
  | repeated _ => "DuplicateIndex"

def fields : ChainError width → List (String × String)
  | overCapacity capacity required =>
    [("capacity", toString capacity), ("required", toString required)]
  | endsEarly declared found => [("declared", toString declared), ("found", toString found)]
  | runsOn declared => [("declared", toString declared)]
  | absent handle | repeated handle => [("index", toString handle)]

def describe (error : ChainError width) : String := recordText error.label error.fields

end ChainError

end ArenaChain
