import ArenaChain.Proofs.Identity
import ArenaChain.Proofs.Linking
import ArenaChain.Proofs.Successor
import Mathlib.Data.List.Basic

/-!
# The last order decides

In a run of linkings each slot ends up with the link that it was given by the last order
connected that names it, or with its own if there is none (`get?_run`).  Rebuilding a chain
and failing leave every link as it is.

So two orders with no slot in common can be connected in either sequence, and an order need
not be connected at all if one that is connected later names all of its slots.
-/

namespace ArenaChain.Linking

open Chain

variable {width : Nat}

section LastLink

variable {orders others : List (List (Handle width))} {order : List (Handle width)}
variable {handle : Handle width}

/-- The link that a slot is given by the last of these orders that names it. -/
def lastLink? (orders : List (List (Handle width))) (handle : Handle width) :
    Option (Handle width) :=
  (orders.reverse.find? (handle ∈ ·)).map (successor · handle)

theorem lastLink?_append (orders others : List (List (Handle width))) (handle : Handle width) :
    lastLink? (orders ++ others) handle =
      (lastLink? others handle).or (lastLink? orders handle) := by
  simp [lastLink?, List.find?_append, Option.map_or]

theorem lastLink?_eq_none_iff :
    lastLink? orders handle = none ↔ ∀ order ∈ orders, handle ∉ order := by
  simp [lastLink?]

theorem lastLink?_singleton (order : List (Handle width)) (handle : Handle width) :
    lastLink? [order] handle = if handle ∈ order then some (successor order handle) else none := by
  by_cases member : handle ∈ order <;> simp [lastLink?, member]

end LastLink

variable {σ : Type} [Store σ width (Node width)] {store : σ}

/-- The node with another link, if there is one for it. -/
def relinked (target? : Option (Handle width)) (node : Node width) : Node width :=
  { node with next := target?.getD node.next }

theorem relinked_none : relinked (none : Option (Handle width)) = id := rfl

theorem relinked_comp (first second : Option (Handle width)) :
    relinked second ∘ relinked first = relinked (second.or first) := by
  funext node
  simp [relinked, Option.getD_or]

theorem get?_connect (order : List (Handle width)) (store : σ) (handle : Handle width) :
    Store.get? (Chain.connect order store).2 handle =
      (Store.get? store handle).map
        (relinked (lastLink? (accepted store (.connect order)).toList handle)) := by
  cases fault : orderFault? store [] order with
  | some error =>
      have refused : accepted store (.connect order) = none := by
        simp [accepted, order?, Option.filter, fault]
      simp [connect_of_fault fault, refused, lastLink?, relinked_none]
  | none =>
      have taken : accepted store (.connect order) = some order := by
        simp [accepted, order?, Option.filter, fault]
      rw [connect_of_no_fault fault, taken, get?_writeLinks (connectable_iff.mpr fault).nodup,
        Option.toList_some, lastLink?_singleton]
      split
      · rfl
      · rw [relinked_none, Option.map_id_apply]

theorem get?_attempt (linking : Linking width) (store : σ) (handle : Handle width) :
    Store.get? (linking.attempt store).2 handle =
      (Store.get? store handle).map
        (relinked (lastLink? (accepted store linking).toList handle)) := by
  cases linking with
  | connect order => exact get?_connect order store handle
  | connectBuffer buffer =>
      rw [attempt, store_connectBuffer]
      exact get?_connect buffer.filled store handle
  | rebuild head count buffer =>
      have none : accepted store (.rebuild head count buffer) = none := rfl
      rw [none, Option.toList_none, lastLink?, List.reverse_nil, List.find?_nil, Option.map_none,
        relinked_none, Option.map_id_apply]
      exact agree_rebuild head count buffer store handle

/-- Each slot has the link that the last order gave it which names it. -/
theorem get?_run (linkings : List (Linking width)) (store : σ) (handle : Handle width) :
    Store.get? (run linkings store) handle =
      (Store.get? store handle).map (relinked (lastLink? (imposed linkings store) handle)) := by
  induction linkings generalizing store with
  | nil => simp [run, imposed, lastLink?, relinked_none]
  | cons linking others ih =>
      have onward := ih (linking.attempt store).2
      rw [get?_attempt, Option.map_map, relinked_comp, ← lastLink?_append, ← imposed_cons] at onward
      exact onward

theorem lastLink?_imposed_append (linkings others : List (Linking width)) (store : σ)
    (handle : Handle width) :
    lastLink? (imposed (linkings ++ others) store) handle =
      (lastLink? (imposed others store) handle).or (lastLink? (imposed linkings store) handle) := by
  rw [imposed_append, lastLink?_append]

/-- An attempt at an order gives no link to a slot that the order does not name. -/
theorem lastLink?_imposed_eq_none {linking : Linking width} {order : List (Handle width)}
    {handle : Handle width} (imposes : linking.order? = some order) (outside : handle ∉ order)
    (store : σ) : lastLink? (imposed [linking] store) handle = none := by
  rw [imposed_singleton, lastLink?_eq_none_iff, accepted, imposes]
  intro taken member
  rw [Option.mem_toList, Option.filter_eq_some_iff] at member
  rwa [← Option.some.inj member.1]

section Framed

variable [Framed σ] {first second early late : Linking width}
variable {order otherOrder : List (Handle width)}

theorem frame_run (linkings : List (Linking width)) (store : σ) :
    Framed.frame (run linkings store) = Framed.frame store := by
  induction linkings generalizing store with
  | nil => rfl
  | cons linking others ih => exact (ih _).trans (frame_attempt linking store)

/-- Runs that give every slot the same last link have the same outcome. -/
theorem run_eq_of_lastLink? {linkings others : List (Linking width)}
    (same : ∀ handle, lastLink? (imposed linkings store) handle =
      lastLink? (imposed others store) handle) : run linkings store = run others store := by
  apply Framed.eq_of_agree
  · rw [frame_run, frame_run]
  · intro handle
    rw [get?_run, get?_run, same]

/-- Attempts at orders with no slot in common can change places. -/
theorem run_swap (imposes : first.order? = some order)
    (imposesToo : second.order? = some otherOrder) (disjoint : order.Disjoint otherOrder)
    (before after : List (Linking width)) (store : σ) :
    run (before ++ first :: second :: after) store =
      run (before ++ second :: first :: after) store := by
  have swap (store : σ) : run ([first] ++ [second]) store = run ([second] ++ [first]) store := by
    apply run_eq_of_lastLink?
    intro handle
    rw [lastLink?_imposed_append, lastLink?_imposed_append]
    by_cases member : handle ∈ order
    · rw [lastLink?_imposed_eq_none imposesToo (disjoint member)]
      simp
    · rw [lastLink?_imposed_eq_none imposes member]
      simp
  rw [run_append, run_append]
  exact congrArg (run after) (swap (run before store))

/-- An attempt makes no difference if an order that names all its slots is connected later. -/
theorem run_of_covered (imposes : early.order? = some order)
    (imposesToo : late.order? = some otherOrder) (covered : order ⊆ otherOrder)
    (before middle after : List (Linking width)) {newHead : Handle width}
    (made : (late.attempt (run (before ++ early :: middle) store)).1 = .ok newHead) :
    run (before ++ early :: middle ++ late :: after) store =
      run (before ++ middle ++ late :: after) store := by
  have skip : run ([early] ++ (middle ++ [late])) (run before store) =
      run (middle ++ [late]) (run before store) := by
    apply run_eq_of_lastLink?
    intro handle
    have taken := accepted_of_ok imposesToo made
    rw [accepted_run, ← accepted_run before] at taken
    have last : imposed [late] (run before store) = [otherOrder] := by
      rw [imposed_singleton, taken, Option.toList_some]
    rw [lastLink?_imposed_append, lastLink?_imposed_append, last, lastLink?_singleton]
    by_cases named : handle ∈ otherOrder
    · simp [named]
    · rw [lastLink?_imposed_eq_none imposes fun member => named (covered member)]
      simp
  have onward := congrArg (run after) skip
  simpa [run_append, run] using onward

/-- The last order connected that names a slot decides its link, whatever is attempted and
in whatever sequence. -/
theorem last_order_decides (linkings : List (Linking width)) (store : σ) :
    (∀ handle, Store.get? (run linkings store) handle =
        (Store.get? store handle).map fun node =>
          { node with next := (lastLink? (imposed linkings store) handle).getD node.next }) ∧
      (∀ (before after : List (Linking width)) (first second : Linking width)
          (order otherOrder : List (Handle width)),
        linkings = before ++ first :: second :: after →
        first.order? = some order → second.order? = some otherOrder → order.Disjoint otherOrder →
          run (before ++ second :: first :: after) store = run linkings store ∧
            (second.attempt (run before store)).1 =
              (second.attempt (run (before ++ [first]) store)).1 ∧
            (first.attempt (run (before ++ [second]) store)).1 =
              (first.attempt (run before store)).1) ∧
      ∀ (before middle after : List (Linking width)) (early late : Linking width)
          (order otherOrder : List (Handle width)) (newHead : Handle width),
        linkings = before ++ early :: middle ++ late :: after →
        early.order? = some order → late.order? = some otherOrder → order ⊆ otherOrder →
        (late.attempt (run (before ++ early :: middle) store)).1 = .ok newHead →
          run (before ++ middle ++ late :: after) store = run linkings store := by
  refine ⟨get?_run linkings store, ?_, ?_⟩
  · rintro before after first second order otherOrder rfl imposes imposesToo disjoint
    refine ⟨(run_swap imposes imposesToo disjoint before after store).symm, ?_, ?_⟩
    · rw [result_attempt_run imposesToo, result_attempt_run imposesToo]
    · rw [result_attempt_run imposes, result_attempt_run imposes]
  · rintro before middle after early late order otherOrder newHead rfl imposes imposesToo
      covered made
    exact (run_of_covered imposes imposesToo covered before middle after made).symm

/-- The order 6, 4 and the recorded order 0, 1, 2 are connected in either sequence; in the
end neither matters for 4 and 6, which the order 4, 6, 5 names. -/
theorem last_order_decides_tangle :
    let buffer := (record tangle ⟨0⟩ 3 (.empty 4)).buffer
    let first := Linking.connect [⟨6⟩, ⟨4⟩]
    let second := Linking.connectBuffer buffer
    let third := Linking.connect [⟨4⟩, ⟨6⟩, ⟨5⟩]
    let linkings := [first, second, .rebuild ⟨6⟩ 2 buffer, third, .connect [⟨4⟩, ⟨4⟩]]
    (lastLink? (imposed linkings tangle) ⟨6⟩ = some ⟨5⟩ ∧
        Store.get? (run linkings tangle) ⟨6⟩ = some ⟨"g", ⟨5⟩⟩) ∧
      ([⟨6⟩, ⟨4⟩].Disjoint buffer.filled ∧
        run [second, first, .rebuild ⟨6⟩ 2 buffer, third, .connect [⟨4⟩, ⟨4⟩]] tangle =
          run linkings tangle) ∧
      (third.attempt (run [first, second, .rebuild ⟨6⟩ 2 buffer] tangle)).1 = .ok ⟨4⟩ ∧
        run [second, .rebuild ⟨6⟩ 2 buffer, third, .connect [⟨4⟩, ⟨4⟩]] tangle =
          run linkings tangle := by
  intro buffer first second third linkings
  have disjoint : [⟨6⟩, ⟨4⟩].Disjoint buffer.filled := by
    have recorded : buffer.filled = [⟨0⟩, ⟨1⟩, ⟨2⟩] := by decide
    simp [recorded]
  have made : (third.attempt (run [first, second, .rebuild ⟨6⟩ 2 buffer] tangle)).1 = .ok ⟨4⟩ := by
    decide
  obtain ⟨links, swap, skip⟩ := last_order_decides linkings tangle
  refine ⟨⟨by decide, (links ⟨6⟩).trans (by decide)⟩, ⟨disjoint, ?_⟩, made, ?_⟩
  · exact (swap [] _ first second _ _ rfl rfl rfl disjoint).1
  · exact skip [] [second, .rebuild ⟨6⟩ 2 buffer] _ first third _ _ ⟨4⟩ rfl rfl rfl (by decide) made

end Framed

end ArenaChain.Linking
