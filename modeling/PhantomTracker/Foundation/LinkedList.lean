import Mathlib.Data.List.Basic

/-!
Contract: singly linked lists on a heap, as C programs build and walk them.

Owns: nodes at fresh addresses, the walk to the last node, appending behind it, a loop over
the nodes, the contents that a pointer leads to, and that on such contents the walks end
and appending appends.

Does not own: freeing nodes, or what a program keeps in them.
-/

namespace PhantomTracker.Foundation

/-- A node with the address of the next one, which is nothing for `NULL`. -/
structure Node (α : Type) where
  data : α
  next : Option Nat
deriving DecidableEq, Repr

/-- The nodes allocated so far. The address of a node is its position. -/
abbrev NodeHeap (α : Type) := List (Node α)

namespace NodeHeap

variable {α : Type}

/-! ## The operations -/

/-- A new node behind which nothing follows, or `NULL` when there is no memory. -/
def createNode (heap : NodeHeap α) (succeeds : Bool) (data : α) : NodeHeap α × Option Nat :=
  if succeeds then (heap ++ [⟨data, none⟩], some heap.length) else (heap, none)

/-- `temp->next = node`. -/
def setNext (heap : NodeHeap α) (temp : Nat) (node : Option Nat) : NodeHeap α :=
  heap.modify temp fun old => { old with next := node }

/-- `while (temp->next != NULL) temp = temp->next`, with a bound on its rounds. There is no
result while the loop has not ended, and none at an address that holds no node. -/
def lastNode (heap : NodeHeap α) : Nat → Nat → Option Nat
  | 0, _ => none
  | fuel + 1, temp =>
      match heap[temp]? with
      | none => none
      | some node =>
          match node.next with
          | none => some temp
          | some next => lastNode heap fuel next

/-- A new node hung on the last one. Without memory, the `NULL` that the last node holds
anyway is stored there. -/
def pushBack (heap : NodeHeap α) (succeeds : Bool) (data : α) (head : Option Nat) :
    Option (NodeHeap α × Option Nat) :=
  let created := heap.createNode succeeds data
  match head with
  | none => some created
  | some first =>
      (lastNode created.1 created.1.length first).map fun temp =>
        (setNext created.1 temp created.2, some first)

/-- `while (temp) { body; temp = temp->next; }`, with a bound on its rounds, for a body that
leaves the nodes alone. -/
def forEach {σ : Type} (heap : NodeHeap α) (body : σ → α → Option σ) :
    Nat → Option Nat → σ → Option σ
  | _, none, state => some state
  | 0, some _, _ => none
  | fuel + 1, some temp, state =>
      match heap[temp]? with
      | none => none
      | some node =>
          match body state node.data with
          | none => none
          | some following => forEach heap body fuel node.next following

/-! ## Contents -/

/-- The nodes from a pointer on, up to `NULL`, hold the given contents. -/
inductive Chain (heap : NodeHeap α) : Option Nat → List α → Prop where
  | nil : Chain heap none []
  | cons {temp : Nat} {node : Node α} {contents : List α} (found : heap[temp]? = some node)
      (rest : Chain heap node.next contents) : Chain heap (some temp) (node.data :: contents)

/-- A list whose nodes the heap has room for, so that no pointer leads back. -/
structure Holds (heap : NodeHeap α) (first : Nat) (contents : List α) : Prop where
  chain : heap.Chain (some first) contents
  length_le : contents.length ≤ heap.length

section Walks

variable {heap : NodeHeap α} {first last : Nat} {contents : List α} {fuel : Nat}

theorem Chain.head {data : α} (chain : heap.Chain (some first) (data :: contents)) :
    ∃ node, heap[first]? = some node ∧ node.data = data ∧ heap.Chain node.next contents := by
  cases chain with
  | cons found rest => exact ⟨_, found, rfl, rest⟩

/-- Later allocations leave a list alone. -/
theorem Chain.append {pointer : Option Nat} (chain : heap.Chain pointer contents)
    (others : NodeHeap α) : Chain (heap ++ others) pointer contents := by
  induction chain with
  | nil => exact .nil
  | cons found rest inductionHypothesis =>
      have below := (List.getElem?_eq_some_iff.mp found).1
      exact .cons ((List.getElem?_append_left below).trans found) inductionHypothesis

/-- The walk to the last node ends within as many rounds as the list has nodes, also when
nodes have been allocated since. -/
theorem Chain.exists_lastNode (chain : heap.Chain (some first) contents)
    (enough : contents.length ≤ fuel) (others : NodeHeap α) :
    ∃ last node, lastNode (heap ++ others) fuel first = some last ∧
      heap[last]? = some node ∧ node.next = none := by
  induction fuel generalizing first contents with
  | zero =>
      cases chain
      exact absurd enough (Nat.not_succ_le_zero _)
  | succ fuel inductionHypothesis =>
      cases chain with
      | @cons _ node contents found rest =>
          have below := (List.getElem?_eq_some_iff.mp found).1
          rw [lastNode, List.getElem?_append_left below, found]
          dsimp only
          cases next : node.next with
          | none => exact ⟨first, node, rfl, found, next⟩
          | some following =>
              rw [next] at rest
              exact inductionHypothesis rest (Nat.le_of_succ_le_succ enough)

theorem getElem?_setNext_ne {temp : Nat} (apart : last ≠ temp) (next : Option Nat) :
    (setNext heap last next)[temp]? = heap[temp]? := by
  unfold setNext
  rw [List.getElem?_modify]
  simp only [if_neg apart, id_map']

theorem getElem?_setNext_self {node : Node α} (found : heap[last]? = some node)
    (next : Option Nat) :
    (setNext heap last next)[last]? = some { node with next := next } := by
  unfold setNext
  rw [List.getElem?_modify, found]
  simp only [if_true, Option.map_eq_map, Option.map_some]

/-- Storing `NULL` in the last node changes nothing. -/
theorem setNext_none {node : Node α} (found : heap[last]? = some node)
    (ends : node.next = none) : setNext heap last none = heap := by
  apply List.ext_getElem?
  intro temp
  by_cases same : last = temp
  · subst same
    rw [getElem?_setNext_self found, found, ← ends]
  · exact getElem?_setNext_ne same none

/-- A new node hung on the last one extends the list. The induction follows the walk: every
node before the last one has a next node, so it is not the one that changes. -/
theorem Chain.setNext_last (chain : heap.Chain (some first) contents)
    (walk : heap.lastNode fuel first = some last) {fresh : Nat} {data : α}
    (created : heap[fresh]? = some ⟨data, none⟩) {node : Node α}
    (found : heap[last]? = some node) (ends : node.next = none) (apart : last ≠ fresh) :
    Chain (setNext heap last (some fresh)) (some first) (contents ++ [data]) := by
  induction fuel generalizing first contents with
  | zero => cases walk
  | succ fuel inductionHypothesis =>
      cases chain with
      | @cons _ firstNode contents foundFirst rest =>
          rw [lastNode, foundFirst] at walk
          dsimp only at walk
          cases next : firstNode.next with
          | none =>
              rw [next] at walk rest
              cases walk
              cases rest
              have newNode := (getElem?_setNext_ne apart (some fresh)).trans created
              have hung := getElem?_setNext_self foundFirst (some fresh)
              exact @Chain.cons _ _ _ { firstNode with next := some fresh } _ hung
                (.cons newNode .nil)
          | some following =>
              rw [next] at walk rest
              have other : last ≠ first := by
                rintro rfl
                cases found.symm.trans foundFirst
                cases ends.symm.trans next
              have kept := (getElem?_setNext_ne other (some fresh)).trans foundFirst
              refine .cons kept ?_
              rw [next]
              exact inductionHypothesis rest walk

theorem length_setNext (next : Option Nat) : (setNext heap last next).length = heap.length :=
  List.length_modify _ _ _

/-- Appending extends a list, or leaves it alone when there is no memory. -/
theorem Holds.pushBack (holds : heap.Holds first contents) (succeeds : Bool) (data : α) :
    ∃ after, heap.pushBack succeeds data (some first) = some (after, some first) ∧
      after.Holds first (if succeeds then contents ++ [data] else contents) := by
  cases succeeds with
  | false =>
      rcases holds.chain.exists_lastNode holds.length_le [] with ⟨last, node, walk, found, ends⟩
      rw [List.append_nil] at walk
      refine ⟨heap, ?_, holds⟩
      simp only [NodeHeap.pushBack, createNode, Bool.false_eq_true, if_false]
      rw [walk, Option.map_some, setNext_none found ends]
  | true =>
      have enough : contents.length ≤ (heap ++ [Node.mk data none]).length := by
        rw [List.length_append]
        exact Nat.le_succ_of_le holds.length_le
      rcases holds.chain.exists_lastNode enough [⟨data, none⟩] with
        ⟨last, node, walk, found, ends⟩
      have below := (List.getElem?_eq_some_iff.mp found).1
      refine ⟨setNext (heap ++ [⟨data, none⟩]) last (some heap.length), ?_, ?_, ?_⟩
      · simp only [NodeHeap.pushBack, createNode, if_true]
        rw [walk, Option.map_some]
      · exact (holds.chain.append _).setNext_last walk List.getElem?_concat_length
          ((List.getElem?_append_left below).trans found) ends (Nat.ne_of_lt below)
      · rw [if_pos rfl, length_setNext, List.length_append, List.length_append]
        exact Nat.succ_le_succ holds.length_le

/-- A loop over a list runs its body on the contents in their order. -/
theorem Chain.forEach {σ : Type} {body : σ → α → Option σ} {pointer : Option Nat}
    (chain : heap.Chain pointer contents) (enough : contents.length ≤ fuel) (state : σ) :
    heap.forEach body fuel pointer state = contents.foldlM body state := by
  induction chain generalizing fuel state with
  | nil => cases fuel <;> rfl
  | @cons temp node contents found rest inductionHypothesis =>
      cases fuel with
      | zero => exact absurd enough (Nat.not_succ_le_zero _)
      | succ fuel =>
          rw [NodeHeap.forEach, found, List.foldlM_cons]
          dsimp only
          cases body state node.data with
          | none => rfl
          | some following =>
              exact inductionHypothesis (Nat.le_of_succ_le_succ enough) following

/-- The list of one new node. -/
theorem Holds.singleton (data : α) : Holds (heap ++ [⟨data, none⟩]) heap.length [data] where
  chain := .cons List.getElem?_concat_length .nil
  length_le := by
    rw [List.length_append]
    exact Nat.le_add_left 1 heap.length

end Walks

end NodeHeap

end PhantomTracker.Foundation
