import MultiAssign.Proofs.Walk

/-!
# Places of one tree

A place is a node with the way up from it.  The places that a walk from the top meets are those of
one tree: the top, and with a place its children (`walk_induction`).  So every place but the top has
its parent among them, and the way up of a place is made of its `ancestors`.  The nodes of the
places are those of the walk through the tree, one by one (`map_node_walk`).

In one tree the child indices on the way up tell places apart (`eq_of_path_eq`).  That is why
comparing them, as `encloses` does, amounts to looking for a place among the ancestors of another
(`encloses_iff`).
-/

namespace MultiAssign.Place

/-- The places on a way up, the nearest first. -/
def onWay : List (Node × Nat) → List Place
  | [] => []
  | (node, _) :: above => ⟨node, above⟩ :: onWay above

def ancestors (p : Place) : List Place := onWay p.above

variable {root : Node} {p q : Place}

theorem mem_children : q ∈ p.children ↔
    ∃ i child, p.node.children[i]? = some child ∧ q = ⟨child, (p.node, i) :: p.above⟩ := by
  rw [children, List.mem_map]
  constructor
  · rintro ⟨⟨child, i⟩, hchild, rfl⟩
    exact ⟨i, child, List.mem_zipIdx_iff_getElem?.mp hchild, rfl⟩
  · rintro ⟨i, child, hchild, rfl⟩
    exact ⟨(child, i), List.mem_zipIdx_iff_getElem?.mpr hchild, rfl⟩

theorem node_mem_children (h : q ∈ p.children) : q.node ∈ p.node.children := by
  obtain ⟨i, child, hchild, rfl⟩ := mem_children.mp h
  exact List.mem_of_getElem? hchild

theorem ancestors_of_mem_children (h : q ∈ p.children) : q.ancestors = p :: p.ancestors := by
  obtain ⟨i, child, _, rfl⟩ := mem_children.mp h
  rfl

theorem parent?_of_mem_children (h : q ∈ p.children) : q.parent? = some p := by
  obtain ⟨i, child, _, rfl⟩ := mem_children.mp h
  rfl

/-! ### The nodes of places -/

theorem map_node_children (p : Place) : p.children.map node = p.node.children := by
  rw [children, List.map_map]
  exact List.zipIdx_map_fst 0 p.node.children

theorem map_node_unstack (stack : List Place) :
    (unstack children size total_size_children_lt stack).map node =
      unstack Node.children Node.size Node.total_size_children_lt (stack.map node) := by
  fun_induction unstack children size total_size_children_lt stack with
  | case1 => rw [List.map_nil, unstack]
  | case2 p rest ih =>
    rw [List.map_cons, ih, List.map_append, map_node_children, List.map_cons, unstack]

/-- **The places of a tree are its nodes**, in the order of the walk. -/
theorem map_node_walk (root : Node) : (top root).walk.map node = root.walk :=
  map_node_unstack [top root]

/-! ### The places that a walk meets -/

theorem top_mem_walk (root : Node) : top root ∈ (top root).walk :=
  mem_unstack_of_mem List.mem_cons_self

theorem mem_walk_of_mem_children (hp : p ∈ (top root).walk) (hq : q ∈ p.children) :
    q ∈ (top root).walk := mem_unstack_of_mem_children hp hq

/-- What holds at the top and is handed down from a place to its children holds all over a tree. -/
theorem walk_induction {motive : Place → Prop} (htop : motive (top root))
    (hchild : ∀ p ∈ (top root).walk, motive p → ∀ q ∈ p.children, motive q) :
    ∀ p ∈ (top root).walk, motive p := by
  have hboth : ∀ p ∈ (top root).walk, p ∈ (top root).walk ∧ motive p := by
    refine forall_mem_unstack ?_ [top root] ?_
    · intro p hp q hq
      exact ⟨mem_walk_of_mem_children hp.1 hq, hchild p hp.1 hp.2 q hq⟩
    · intro p hp
      rw [List.mem_singleton.mp hp]
      exact ⟨top_mem_walk root, htop⟩
  exact fun p hp => (hboth p hp).2

theorem eq_top_or_mem_children (hp : p ∈ (top root).walk) :
    p = top root ∨ ∃ above ∈ (top root).walk, p ∈ above.children := by
  refine walk_induction (motive := fun p => p = top root ∨ ∃ above ∈ (top root).walk,
    p ∈ above.children) (Or.inl rfl) ?_ p hp
  intro above habove _ q hq
  exact Or.inr ⟨above, habove, hq⟩

theorem mem_walk_of_mem_walk (hp : p ∈ (top root).walk) :
    p.node ∈ root.walk ∧ ∀ a ∈ p.above, a.1 ∈ root.walk := by
  refine walk_induction (motive := fun p => p.node ∈ root.walk ∧ ∀ a ∈ p.above, a.1 ∈ root.walk)
    ⟨root.mem_walk_self, nofun⟩ ?_ p hp
  intro p _ ih q hq
  obtain ⟨i, child, hchild, rfl⟩ := mem_children.mp hq
  exact ⟨Node.mem_walk_of_mem_children ih.1 (List.mem_of_getElem? hchild),
    List.forall_mem_cons.mpr ih⟩

theorem ancestors_subset_walk (hp : p ∈ (top root).walk) : p.ancestors ⊆ (top root).walk := by
  refine walk_induction (motive := fun p => p.ancestors ⊆ (top root).walk) (List.nil_subset _) ?_
    p hp
  intro p hp ih q hq
  rw [ancestors_of_mem_children hq]
  exact List.cons_subset.mpr ⟨hp, ih⟩

theorem length_above_lt {a : Place} (h : a ∈ p.ancestors) : a.above.length < p.above.length := by
  have hway : ∀ above : List (Node × Nat), ∀ a ∈ onWay above, a.above.length < above.length := by
    intro above
    induction above with
    | nil => exact nofun
    | cons step above ih =>
      intro a ha
      rcases List.mem_cons.mp ha with rfl | ha
      · exact Nat.lt_succ_self _
      · exact Nat.lt_succ_of_lt (ih a ha)
  exact hway p.above a h

/-! ### Paths -/

theorem path_of_mem_children (h : q ∈ p.children) : ∃ i, q.path = i :: p.path := by
  obtain ⟨i, child, _, rfl⟩ := mem_children.mp h
  exact ⟨i, rfl⟩

/-- **In one tree the path tells places apart.** -/
theorem eq_of_path_eq (hp : p ∈ (top root).walk) (hq : q ∈ (top root).walk)
    (h : p.path = q.path) : p = q := by
  refine walk_induction (motive := fun p => ∀ q ∈ (top root).walk, p.path = q.path → p = q)
    ?_ ?_ p hp q hq h
  · intro q hq h
    rcases eq_top_or_mem_children hq with rfl | ⟨above, _, hq⟩
    · rfl
    · obtain ⟨i, hpath⟩ := path_of_mem_children hq
      rw [hpath] at h
      cases h
  · intro p hp ih p' hp' q hq h
    obtain ⟨i, child, hchild, rfl⟩ := mem_children.mp hp'
    rcases eq_top_or_mem_children hq with rfl | ⟨above, habove, hq⟩
    · cases h
    · obtain ⟨j, child', hchild', rfl⟩ := mem_children.mp hq
      obtain ⟨rfl, hpath⟩ : i = j ∧ p.path = above.path := List.cons.inj h
      obtain rfl := ih above habove hpath
      rw [hchild] at hchild'
      cases hchild'
      rfl

/-- **To enclose a place is to be that place or one of its ancestors.** -/
theorem encloses_iff (hp : p ∈ (top root).walk) (hq : q ∈ (top root).walk) :
    p.encloses q ↔ p = q ∨ p ∈ q.ancestors := by
  rw [encloses, List.isSuffixOf_iff_suffix]
  refine walk_induction (motive := fun q => p.path <:+ q.path ↔ p = q ∨ p ∈ q.ancestors) ?_ ?_ q hq
  · constructor
    · intro h
      exact Or.inl (eq_of_path_eq hp (top_mem_walk root) (List.suffix_nil.mp h))
    · rintro (rfl | h)
      · exact List.suffix_refl _
      · exact absurd h List.not_mem_nil
  · intro q hq ih q' hq'
    obtain ⟨i, hpath⟩ := path_of_mem_children hq'
    rw [hpath, List.suffix_cons_iff, ih, ancestors_of_mem_children hq', List.mem_cons, ← hpath]
    refine or_congr ⟨?_, ?_⟩ Iff.rfl
    · exact eq_of_path_eq hp (mem_walk_of_mem_children hq hq')
    · rintro rfl
      rfl

end MultiAssign.Place
