import MultiAssign.Syntax.Walk

/-!
# The walk by recursion

`Syntax/Walk.lean` walks through a tree with a stack.  This file says that the walk is the recursive
one: `walk_eq_preorder`, and with it `walk_eq`, the equation by which proofs go through a tree.  The
reason is that a stack is worked off one member after the other (`unstack_eq_flatMap`).

What a walk meets is closed under children, and it is the least such set: what is handed down from
parents to children holds all over a walk (`forall_mem_unstack`).
-/

namespace MultiAssign

/-- A stack is worked off member by member, by any walk that goes from a node to its children. -/
theorem unstack_eq_flatMap {α : Type} {children : α → List α} {size : α → Nat}
    {smaller : ∀ a, total size (children a) < size a} {walk : α → List α}
    (hwalk : ∀ a, walk a = a :: (children a).flatMap walk) (stack : List α) :
    unstack children size smaller stack = stack.flatMap walk := by
  fun_induction unstack children size smaller stack with
  | case1 => rfl
  | case2 a rest ih =>
    rw [ih, List.flatMap_append, List.flatMap_cons, hwalk a, List.cons_append]

section

variable {α : Type} {children : α → List α} {size : α → Nat}
  {smaller : ∀ a, total size (children a) < size a}

/-- What holds on the stack and is handed down to children holds of all that is visited. -/
theorem forall_mem_unstack {P : α → Prop} (hstep : ∀ a, P a → ∀ b ∈ children a, P b)
    (stack : List α) (hstack : ∀ a ∈ stack, P a) :
    ∀ a ∈ unstack children size smaller stack, P a := by
  fun_induction unstack children size smaller stack with
  | case1 => exact hstack
  | case2 a rest ih =>
    have ha := hstack a List.mem_cons_self
    have hrest : ∀ b ∈ children a ++ rest, P b := by
      intro b hb
      rcases List.mem_append.mp hb with hb | hb
      · exact hstep a ha b hb
      · exact hstack b (List.mem_cons_of_mem a hb)
    intro b hb
    rcases List.mem_cons.mp hb with rfl | hb
    · exact ha
    · exact ih hrest b hb

theorem mem_unstack_of_mem {stack : List α} {a : α} (h : a ∈ stack) :
    a ∈ unstack children size smaller stack := by
  fun_induction unstack children size smaller stack with
  | case1 => exact h
  | case2 b rest ih =>
    rcases List.mem_cons.mp h with rfl | h
    · exact List.mem_cons_self
    · exact List.mem_cons_of_mem b (ih (List.mem_append_right _ h))

theorem mem_unstack_of_mem_children {stack : List α} {a b : α}
    (ha : a ∈ unstack children size smaller stack) (hb : b ∈ children a) :
    b ∈ unstack children size smaller stack := by
  fun_induction unstack children size smaller stack with
  | case1 => exact absurd ha List.not_mem_nil
  | case2 c rest ih =>
    rcases List.mem_cons.mp ha with rfl | ha
    · exact List.mem_cons_of_mem a (mem_unstack_of_mem (List.mem_append_left rest hb))
    · exact List.mem_cons_of_mem c (ih ha)

end

namespace Node

theorem walk_eq_preorder (node : Node) : node.walk = node.preorder := by
  rw [walk, unstack_eq_flatMap preorder_eq, List.flatMap_singleton]

theorem walk_eq (node : Node) : node.walk = node :: node.children.flatMap walk := by
  rw [walk_eq_preorder, preorder_eq, funext walk_eq_preorder]

theorem walk_of_children_eq_nil {node : Node} (h : node.children = []) : node.walk = [node] := by
  rw [walk_eq, h, List.flatMap_nil]

theorem mem_walk_self (node : Node) : node ∈ node.walk := mem_unstack_of_mem List.mem_cons_self

theorem mem_walk_of_mem_children {node n c : Node} (h : n ∈ node.walk) (hc : c ∈ n.children) :
    c ∈ node.walk := mem_unstack_of_mem_children h hc

theorem mem_walk_trans {node n m : Node} (h : n ∈ node.walk) (hm : m ∈ n.walk) : m ∈ node.walk := by
  refine forall_mem_unstack (fun a ha b hb => mem_walk_of_mem_children ha hb) [n] ?_ m hm
  intro a ha
  rw [List.mem_singleton.mp ha]
  exact h

end Node

end MultiAssign
