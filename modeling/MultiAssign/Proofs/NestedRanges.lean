import MultiAssign.Proofs.Encoding
import MultiAssign.Proofs.Places
import MultiAssign.Proofs.ReadingRanges

/-!
# Ranges inside ranges

What is read from an arranged tree is laid out in the range of that tree (`Node.laidIn_ofConcrete`).
This file says it of the nodes and their parents (`Node.ranges_nested`): each node has a range
inside the text, and all but the root have it inside the range of their parent.  That is what a
search down a tree goes by when it passes over all that starts too late.

A parent is found by the way up, so the statement is about places.  They are the nodes of the walk,
one by one (`Place.map_node_walk`, in `Proofs/Places.lean`).
-/

namespace MultiAssign

/-- In a tree that is laid out, a place below the top has its range inside that of its parent. -/
theorem Laid.exists_parent {lo hi : Nat} {root : Node} (h : Laid lo hi [root]) {p : Place}
    (hp : p ∈ (Place.top root).walk) {s : Span} (hs : p.node.span = some s) :
    p = Place.top root ∨ ∃ q ∈ (Place.top root).walk, p.parent? = some q ∧
      ∃ t, q.node.span = some t ∧ t.Contains s := by
  rcases Place.eq_top_or_mem_children hp with htop | ⟨q, hq, hchild⟩
  · exact Or.inl htop
  · have hnode : q.node ∈ [root].flatMap Node.walk := by
      rw [List.flatMap_singleton]
      exact (Place.mem_walk_of_mem_walk hq).1
    obtain ⟨t, ht, _⟩ := h.inside q.node hnode
    have hinside := h.nested q.node hnode p.node (Place.node_mem_children hchild) t ht s hs
    exact Or.inr ⟨q, hq, Place.parent?_of_mem_children hchild, t, ht, hinside⟩

/-- **The ranges of a tree that was read are nested.**  If the concrete tree is arranged and ends in
the text, then every node that is read from it has a range in the text, and every node but the root
has it inside the range of its parent. -/
theorem Node.ranges_nested {source : Source} {tree : Concrete} {root : Node}
    (harranged : tree.Arranged) (hstop : tree.label.stop ≤ source.bytes.length)
    (hroot : Node.ofConcrete source tree = .ok root) :
    (∀ n ∈ root.walk, ∃ s, n.span = some s ∧ s.start ≤ s.stop ∧ s.stop ≤ source.chars.length) ∧
    (Place.top root).walk.map Place.node = root.walk ∧
    ∀ p ∈ (Place.top root).walk, p = Place.top root ∨
      ∃ q ∈ (Place.top root).walk, p.parent? = some q ∧
        ∃ s t, p.node.span = some s ∧ q.node.span = some t ∧ t.Contains s := by
  have hlaid := Node.laidIn_ofConcrete harranged hroot
  have hin : ∀ n ∈ root.walk,
      ∃ s, n.span = some s ∧ s.start ≤ s.stop ∧ s.stop ≤ source.chars.length := by
    intro n hn
    rw [← List.flatMap_singleton Node.walk root] at hn
    obtain ⟨s, hs, _, hle, hhi⟩ := hlaid.inside n hn
    exact ⟨s, hs, hle, Nat.le_trans hhi (source.charOffset_le_length hstop)⟩
  refine ⟨hin, Place.map_node_walk root, fun p hp => ?_⟩
  obtain ⟨s, hs, _⟩ := hin p.node (Place.mem_walk_of_mem_walk hp).1
  rcases hlaid.exists_parent hp hs with htop | ⟨q, hq, hparent, t, ht, hinside⟩
  · exact Or.inl htop
  · exact Or.inr ⟨q, hq, hparent, s, t, hs, ht, hinside⟩

/-- A text with a character of two bytes, a block and a trailing rescue. -/
def blockRescued : Source := Source.ofString "ü, b = f \x7b 1 \x7d, 2 rescue 3" "x.rb"

def blockRescuedTree : Concrete :=
  .mk ⟨"program", 0, 27, true, none⟩
    [.mk ⟨"assignment", 0, 27, true, none⟩
      [.mk ⟨"left_assignment_list", 0, 5, true, some "left"⟩
        [.mk ⟨"identifier", 0, 2, true, none⟩ [], .mk ⟨",", 2, 3, false, none⟩ [],
          .mk ⟨"identifier", 4, 5, true, none⟩ []],
        .mk ⟨"=", 6, 7, false, none⟩ [],
        .mk ⟨"right_assignment_list", 8, 27, true, some "right"⟩
          [.mk ⟨"call", 8, 15, true, none⟩
            [.mk ⟨"identifier", 8, 9, true, some "method"⟩ [],
              .mk ⟨"block", 10, 15, true, some "block"⟩
                [.mk ⟨"\x7b", 10, 11, false, none⟩ [],
                  .mk ⟨"block_body", 12, 13, true, some "body"⟩
                    [.mk ⟨"integer", 12, 13, true, none⟩ []],
                  .mk ⟨"\x7d", 14, 15, false, none⟩ []]],
            .mk ⟨",", 15, 16, false, none⟩ [],
            .mk ⟨"rescue_modifier", 17, 27, true, none⟩
              [.mk ⟨"integer", 17, 18, true, some "body"⟩ [],
                .mk ⟨"rescue", 19, 25, false, none⟩ [],
                .mk ⟨"integer", 26, 27, true, some "handler"⟩ []]]]]

/-- The ranges of its nodes in bytes, in the order of the walk. -/
def blockRescuedRanges : List (Nat × Nat) :=
  [(0, 27), (0, 27), (0, 18), (0, 2), (4, 5), (8, 18), (8, 15), (8, 15), (12, 13), (17, 18),
    (26, 27)]

/-- The list before the rescue has a range that no concrete node has, the block and its call have
the same one, and each lies inside its parent. -/
theorem Node.ranges_nested_rescued :
    blockRescuedTree.Arranged ∧ blockRescuedTree.label.stop ≤ blockRescued.bytes.length ∧
    ∃ root, Node.ofConcrete blockRescued blockRescuedTree = .ok root ∧
      root.preorder.map Node.span =
        blockRescuedRanges.map (fun range => some (blockRescued.spanOfBytes range.1 range.2)) ∧
      blockRescued.spanOfBytes 8 18 = ⟨7, 17⟩ ∧
      ∀ p ∈ (Place.top root).walk, p = Place.top root ∨
        ∃ q ∈ (Place.top root).walk, p.parent? = some q ∧
          ∃ s t, p.node.span = some s ∧ q.node.span = some t ∧ t.Contains s := by
  have harranged : blockRescuedTree.Arranged := by decide
  have hstop : blockRescuedTree.label.stop ≤ blockRescued.bytes.length := by decide
  have hread : (Node.ofConcrete blockRescued blockRescuedTree).map
      (fun root => root.preorder.map Node.span) =
        .ok (blockRescuedRanges.map fun range =>
          some (blockRescued.spanOfBytes range.1 range.2)) := rfl
  obtain ⟨root, hroot, hspans⟩ := map_eq_ok_iff.mp hread
  refine ⟨harranged, hstop, root, hroot, hspans, ?_, (ranges_nested harranged hstop hroot).2.2⟩
  decide +kernel

end MultiAssign
