import MultiAssign.Proofs.Walk

/-!
# Trees laid out in a text

The nodes of a syntax tree carry the ranges that they were read from.  Trees are **laid out**
between two positions (`Laid`) if every node of them has a range there, inside the range of its
parent, and no two nodes overlap in part: their ranges lie apart or one in the other.

Siblings need not lie apart.  A call with a block has the call among its children, with the range of
the whole.  Therefore a tree is not laid out by comparing siblings, but put together: trees of which
no nodes overlap at all (`Separate`) are laid out together (`Laid.append`), and a node that covers
everything can be put over some of the trees (`Laid.cons`).
-/

namespace MultiAssign

namespace Span

def Contains (s t : Span) : Prop := s.start ≤ t.start ∧ t.stop ≤ s.stop

def Apart (s t : Span) : Prop := s.stop ≤ t.start ∨ t.stop ≤ s.start

/-- The ranges do not overlap in part. -/
def Laminar (s t : Span) : Prop := s.Apart t ∨ s.Contains t ∨ t.Contains s

theorem Apart.symm {s t : Span} (h : s.Apart t) : t.Apart s := Or.symm h

theorem Laminar.symm {s t : Span} (h : s.Laminar t) : t.Laminar s := h.imp Apart.symm Or.symm

theorem Contains.refl (s : Span) : s.Contains s := ⟨Nat.le_refl _, Nat.le_refl _⟩

theorem Contains.trans {s t u : Span} (h : s.Contains t) (h' : t.Contains u) : s.Contains u :=
  ⟨Nat.le_trans h.1 h'.1, Nat.le_trans h'.2 h.2⟩

instance (s t : Span) : Decidable (s.Contains t) :=
  inferInstanceAs (Decidable (s.start ≤ t.start ∧ t.stop ≤ s.stop))

instance (s t : Span) : Decidable (s.Apart t) :=
  inferInstanceAs (Decidable (s.stop ≤ t.start ∨ t.stop ≤ s.start))

instance (s t : Span) : Decidable (s.Laminar t) :=
  inferInstanceAs (Decidable (s.Apart t ∨ s.Contains t ∨ t.Contains s))

end Span

namespace Node

@[simp] theorem span_located (s : Span) (n : Node) : (n.located s).span = some s := by
  cases n <;> rfl

@[simp] theorem children_located (s : Span) (n : Node) : (n.located s).children = n.children := by
  cases n <;> rfl

end Node

/-- Trees that are laid out between two positions of a text. -/
structure Laid (lo hi : Nat) (trees : List Node) : Prop where
  /-- Every node has a range there. -/
  inside : ∀ n ∈ trees.flatMap Node.walk,
    ∃ s, n.span = some s ∧ lo ≤ s.start ∧ s.start ≤ s.stop ∧ s.stop ≤ hi
  /-- A node is inside its parent. -/
  nested : ∀ n ∈ trees.flatMap Node.walk, ∀ c ∈ n.children, ∀ s ∈ n.span, ∀ t ∈ c.span,
    s.Contains t
  /-- No two nodes overlap in part. -/
  laminar : ∀ n ∈ trees.flatMap Node.walk, ∀ m ∈ trees.flatMap Node.walk,
    ∀ s ∈ n.span, ∀ t ∈ m.span, s.Laminar t

/-- No node of the one list of trees overlaps with a node of the other. -/
def Separate (xs ys : List Node) : Prop :=
  ∀ n ∈ xs.flatMap Node.walk, ∀ m ∈ ys.flatMap Node.walk, ∀ s ∈ n.span, ∀ t ∈ m.span, s.Apart t

theorem Separate.symm {xs ys : List Node} (h : Separate xs ys) : Separate ys xs :=
  fun n hn m hm s hs t ht => (h m hm n hn t ht s hs).symm

theorem Separate.append_left {xs ys zs : List Node} (hx : Separate xs zs) (hy : Separate ys zs) :
    Separate (xs ++ ys) zs := by
  intro n hn
  rw [List.flatMap_append] at hn
  rcases List.mem_append.mp hn with hn | hn
  · exact hx n hn
  · exact hy n hn

namespace Laid

variable {lo hi lo' hi' : Nat} {xs ys : List Node}

theorem nil : Laid lo hi [] := ⟨nofun, nofun, nofun⟩

theorem mono (h : Laid lo hi xs) (hlo : lo' ≤ lo) (hhi : hi ≤ hi') : Laid lo' hi' xs where
  inside n hn := by
    obtain ⟨s, hs, hstart, hle, hstop⟩ := h.inside n hn
    exact ⟨s, hs, Nat.le_trans hlo hstart, hle, Nat.le_trans hstop hhi⟩
  nested := h.nested
  laminar := h.laminar

theorem bounds (h : Laid lo hi xs) {n : Node} (hn : n ∈ xs.flatMap Node.walk) {s : Span}
    (hs : s ∈ n.span) : lo ≤ s.start ∧ s.stop ≤ hi := by
  obtain ⟨s', hs', hstart, _, hstop⟩ := h.inside n hn
  rw [hs'] at hs
  cases hs
  exact ⟨hstart, hstop⟩

theorem of_mem_walk (h : Laid lo hi xs) (hsub : ∀ y ∈ ys, y ∈ xs.flatMap Node.walk) :
    Laid lo hi ys := by
  have hwalk : ∀ n ∈ ys.flatMap Node.walk, n ∈ xs.flatMap Node.walk := by
    intro n hn
    obtain ⟨y, hy, hn⟩ := List.mem_flatMap.mp hn
    obtain ⟨x, hx, hy⟩ := List.mem_flatMap.mp (hsub y hy)
    exact List.mem_flatMap.mpr ⟨x, hx, Node.mem_walk_trans hy hn⟩
  exact ⟨fun n hn => h.inside n (hwalk n hn), fun n hn => h.nested n (hwalk n hn),
    fun n hn m hm => h.laminar n (hwalk n hn) m (hwalk m hm)⟩

theorem separate (hx : Laid lo hi xs) (hy : Laid lo' hi' ys) (h : hi ≤ lo') : Separate xs ys := by
  intro n hn m hm s hs t ht
  exact Or.inl (Nat.le_trans (hx.bounds hn hs).2 (Nat.le_trans h (hy.bounds hm ht).1))

theorem append (hx : Laid lo hi xs) (hy : Laid lo hi ys) (h : Separate xs ys) :
    Laid lo hi (xs ++ ys) where
  inside n hn := by
    rw [List.flatMap_append] at hn
    rcases List.mem_append.mp hn with hn | hn
    · exact hx.inside n hn
    · exact hy.inside n hn
  nested n hn := by
    rw [List.flatMap_append] at hn
    rcases List.mem_append.mp hn with hn | hn
    · exact hx.nested n hn
    · exact hy.nested n hn
  laminar n hn m hm s hs t ht := by
    rw [List.flatMap_append] at hn hm
    rcases List.mem_append.mp hn with hn | hn <;> rcases List.mem_append.mp hm with hm | hm
    · exact hx.laminar n hn m hm s hs t ht
    · exact Or.inl (h n hn m hm s hs t ht)
    · exact Or.inl (h m hm n hn t ht s hs).symm
    · exact hy.laminar n hn m hm s hs t ht

/-- Trees of which the ones end before the others start are laid out together. -/
theorem append_of_le (hx : Laid lo hi xs) (hy : Laid lo' hi' ys) (h : hi ≤ lo') (hlo : lo ≤ lo')
    (hhi : hi ≤ hi') : Laid lo hi' (xs ++ ys) :=
  (hx.mono (Nat.le_refl lo) hhi).append (hy.mono hlo (Nat.le_refl hi')) (hx.separate hy h)

/-- Some of the trees can be put under a node that has all of the range. -/
theorem cons {n : Node} (h : Laid lo hi (n.children ++ xs)) (hspan : n.span = some ⟨lo, hi⟩)
    (hle : lo ≤ hi) : Laid lo hi (n :: xs) := by
  have hwalk : (n :: xs).flatMap Node.walk = n :: (n.children ++ xs).flatMap Node.walk := by
    rw [List.flatMap_cons, Node.walk_eq, List.flatMap_append, List.cons_append]
  refine ⟨?_, ?_, ?_⟩ <;> rw [hwalk]
  · intro m hm
    rcases List.mem_cons.mp hm with rfl | hm
    · exact ⟨_, hspan, Nat.le_refl lo, hle, Nat.le_refl hi⟩
    · exact h.inside m hm
  · intro m hm c hc s hs t ht
    rcases List.mem_cons.mp hm with rfl | hm
    · rw [hspan] at hs
      cases hs
      have hc' : c ∈ (m.children ++ xs).flatMap Node.walk :=
        List.mem_flatMap.mpr ⟨c, List.mem_append_left xs hc, c.mem_walk_self⟩
      exact h.bounds hc' ht
    · exact h.nested m hm c hc s hs t ht
  · intro m hm m' hm' s hs t ht
    rcases List.mem_cons.mp hm with rfl | hm <;> rcases List.mem_cons.mp hm' with rfl | hm'
    · rw [hs] at ht
      cases ht
      exact Or.inr (Or.inl ⟨Nat.le_refl _, Nat.le_refl _⟩)
    · rw [hspan] at hs
      cases hs
      exact Or.inr (Or.inl (h.bounds hm' ht))
    · rw [hspan] at ht
      cases ht
      exact Or.inr (Or.inr (h.bounds hm hs))
    · exact h.laminar m hm m' hm' s hs t ht

theorem node {n : Node} (h : Laid lo hi n.children) (hspan : n.span = some ⟨lo, hi⟩)
    (hle : lo ≤ hi) : Laid lo hi [n] := by
  rw [← List.append_nil n.children] at h
  exact h.cons hspan hle

end Laid

end MultiAssign
