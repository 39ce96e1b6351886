import ArenaChain.Handle

/-!
# Linked values

A value takes part in a chain when it carries one link to a successor.  The
class `Linked` asks for nothing else: no order, no payload.  Its instances here
are `Node`, a named value, and `Counted`, any linked value together with the
number of times that its link was written.
-/

namespace ArenaChain

/-- Values of type `α` carry a link, which reads back as it was last written. -/
class Linked (α : Type) (width : outParam Nat) where
  /-- The successor, or `Handle.nil` at the end of a chain. -/
  next : α → Handle width
  withNext : Handle width → α → α
  next_withNext : ∀ target value, next (withNext target value) = target

attribute [simp] Linked.next_withNext

@[ext]
structure Node (width : Nat) where
  name : String
  next : Handle width
  deriving DecidableEq

namespace Node

variable {width : Nat}

/-- The node of this name at the end of a chain. -/
def ofName (name : String) : Node width := ⟨name, .nil⟩

instance : Linked (Node width) width where
  next := Node.next
  withNext target node := { node with next := target }
  next_withNext _ _ := rfl

/-- Writing the link that a node already has changes nothing. -/
theorem withNext_next (node : Node width) : Linked.withNext (Linked.next node) node = node := rfl

@[simp]
theorem name_withNext (target : Handle width) (node : Node width) :
    (Linked.withNext target node).name = node.name := rfl

end Node

/-- A value together with the number of writes to its link. -/
@[ext]
structure Counted (α : Type) where
  value : α
  writes : Nat
  deriving DecidableEq

namespace Counted

variable {α : Type} {width : Nat}

/-- A value whose link has not been written yet. -/
def ofValue (value : α) : Counted α := ⟨value, 0⟩

instance [Linked α width] : Linked (Counted α) width where
  next counted := Linked.next counted.value
  withNext target counted := ⟨Linked.withNext target counted.value, counted.writes + 1⟩
  next_withNext target counted := Linked.next_withNext target counted.value

end Counted

end ArenaChain
