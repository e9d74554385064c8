import MultiAssign.Proofs.Places
import Mathlib.Data.List.Nodup
import Mathlib.Data.List.Pairwise
import Mathlib.Data.List.Perm.Subperm
import Mathlib.Logic.Function.Iterate
import Mathlib.Logic.Relation

/-!
# The walk as a loop, and the links to parents

A walk is a loop over a stack that grows at its end: a turn (`turn`) takes the last member off,
deals with it, and puts others there.  This file follows two such loops through a tree
(`Node.walk_in_preorder`).  The one pushes the children of a node in reverse and collects what it
takes off; it ends with the walk.  The other pushes them as they are, so that it goes from right to
left, and links each child to the node that it has taken off (`Place.link`).  It ends with a link
for every place but the top (`Place.exists_links`), and by these links the walk is in preorder.

Of a stack three things are needed.  It is worked off member by member (`unstack_append`), so that
what is below a member comes right behind it (`exists_run_of_unstack`).  What is visited has been on
the stack from the start or has its parent before it (`mem_or_exists_parent_of_unstack`).  And if
the members lie beside each other, nothing is visited twice (`Place.nodup_map_path_unstack`).
-/

namespace MultiAssign

open Relation (TransGen)

/-! ### Working off a stack -/

section

variable {α σ : Type} {children push : α → List α} {size : α → Nat}
  {smaller : ∀ a, total size (children a) < size a}

/-- A turn of a loop over a stack that grows at its end: the last member is taken off, `deal` is
done with it, and what it brings is pushed. -/
def turn (push : α → List α) (deal : α → σ → σ) (state : List α × σ) : List α × σ :=
  match state.1.getLast? with
  | none => state
  | some a => (state.1.dropLast ++ push a, deal a state.2)

theorem turn_concat (deal : α → σ → σ) (stack : List α) (a : α) (s : σ) :
    turn push deal (stack ++ [a], s) = (stack ++ push a, deal a s) := by
  simp [turn]

/-- **The loop ends**, after as many turns as there are members to visit, and it deals with them in
the order in which they are visited. -/
theorem iterate_turn (smaller : ∀ a, total size (children a) < size a)
    (hpush : ∀ a, push a = (children a).reverse) (deal : α → σ → σ) (stack : List α) (s : σ) :
    (turn push deal)^[(unstack children size smaller stack).length] (stack.reverse, s) =
      ([], (unstack children size smaller stack).foldl (fun s a => deal a s) s) := by
  fun_induction unstack children size smaller stack generalizing s with
  | case1 => rfl
  | case2 a rest ih =>
    rw [List.length_cons, Function.iterate_succ_apply, List.reverse_cons, turn_concat, hpush,
      ← List.reverse_append, ih, List.foldl_cons]

theorem length_unstack (hsize : ∀ a, size a = total size (children a) + 1) (stack : List α) :
    (unstack children size smaller stack).length = total size stack := by
  fun_induction unstack children size smaller stack with
  | case1 => rfl
  | case2 a rest ih =>
    have := hsize a
    rw [List.length_cons, ih, total_append, total]
    omega

theorem unstack_append (as bs : List α) :
    unstack children size smaller (as ++ bs) =
      unstack children size smaller as ++ unstack children size smaller bs := by
  fun_induction unstack children size smaller as with
  | case1 => rfl
  | case2 a rest ih =>
    rw [List.cons_append, unstack, ← List.append_assoc, ih, List.cons_append]

/-- What is on the stack is visited in the order of the stack. -/
theorem sublist_unstack (stack : List α) : stack.Sublist (unstack children size smaller stack) := by
  fun_induction unstack children size smaller stack with
  | case1 => exact List.Sublist.refl _
  | case2 a rest ih => exact ((List.sublist_append_right _ _).trans ih).cons_cons a

theorem exists_run_of_unstack {stack before after : List α} {a : α}
    (h : unstack children size smaller stack = before ++ a :: after) :
    ∃ rest, a :: after = unstack children size smaller [a] ++ rest := by
  fun_induction unstack children size smaller stack generalizing before with
  | case1 => simp at h
  | case2 b stack ih =>
    cases before with
    | nil =>
      obtain ⟨rfl, rfl⟩ := List.cons.inj h
      refine ⟨unstack children size smaller stack, ?_⟩
      rw [unstack_append, unstack, List.append_nil, List.cons_append]
    | cons c before => exact ih (List.cons.inj h).2

/-- What is visited was on the stack, or it is pushed by something visited before. -/
theorem mem_or_exists_parent_of_unstack {stack before after : List α} {a : α}
    (h : unstack children size smaller stack = before ++ a :: after) :
    a ∈ stack ∨ ∃ b ∈ before, a ∈ children b := by
  fun_induction unstack children size smaller stack generalizing before with
  | case1 => simp at h
  | case2 b stack ih =>
    cases before with
    | nil =>
      obtain ⟨rfl, _⟩ := List.cons.inj h
      exact Or.inl List.mem_cons_self
    | cons c before =>
      obtain ⟨rfl, htail⟩ := List.cons.inj h
      rcases ih htail with hmem | ⟨d, hd, hchild⟩
      · rcases List.mem_append.mp hmem with hchild | hmem
        · exact Or.inr ⟨b, List.mem_cons_self, hchild⟩
        · exact Or.inl (List.mem_cons_of_mem b hmem)
      · exact Or.inr ⟨d, List.mem_cons_of_mem b hd, hchild⟩

end

theorem total_reverse {α : Type} (size : α → Nat) (as : List α) :
    total size as.reverse = total size as := by
  induction as with
  | nil => rfl
  | cons a as ih =>
    rw [List.reverse_cons, total_append, ih]
    simp only [total]
    omega

namespace Place

variable {root : Node} {p q : Place}

/-! ### Places are visited once -/

/-- Neither of two places is the other or lies above it. -/
def Beside (p q : Place) : Prop := ¬ p.path <:+ q.path ∧ ¬ q.path <:+ p.path

theorem Beside.of_mem_children {r : Place} (h : p.Beside r) (hq : q ∈ p.children) : q.Beside r := by
  obtain ⟨i, hpath⟩ := path_of_mem_children hq
  rw [Beside, hpath, List.suffix_cons_iff]
  refine ⟨fun hsuffix => h.1 ((List.suffix_cons i p.path).trans hsuffix), ?_⟩
  rintro (heq | hsuffix)
  · exact h.1 (heq ▸ List.suffix_cons i p.path)
  · exact h.2 hsuffix

theorem pairwise_beside_children (p : Place) : p.children.Pairwise Beside := by
  rw [List.pairwise_iff_getElem]
  intro i j hi hj hij
  have hpath : ∀ k (hk : k < p.children.length), p.children[k].path = k :: p.path := by
    intro k hk
    simp [children, path]
  have hne : ¬ (i :: p.path) = (j :: p.path) := by
    intro h
    exact absurd (List.cons.inj h).1 (Nat.ne_of_lt hij)
  rw [Beside, hpath i hi, hpath j hj]
  constructor
  · intro h
    exact hne (h.eq_of_length rfl)
  · intro h
    exact hne (h.eq_of_length rfl).symm

theorem exists_suffix_of_mem_unstack {stack : List Place}
    (h : q ∈ unstack children size total_size_children_lt stack) :
    ∃ a ∈ stack, a.path <:+ q.path := by
  refine forall_mem_unstack (P := fun q => ∃ a ∈ stack, a.path <:+ q.path) ?_ stack ?_ q h
  · rintro b ⟨a, ha, hsuffix⟩ c hc
    obtain ⟨i, hpath⟩ := path_of_mem_children hc
    exact ⟨a, ha, hpath ▸ hsuffix.trans (List.suffix_cons i b.path)⟩
  · intro a ha
    exact ⟨a, ha, List.suffix_refl _⟩

/-- **Nothing is visited twice** from a stack of places that lie beside each other. -/
theorem nodup_map_path_unstack {stack : List Place} (h : stack.Pairwise Beside) :
    ((unstack children size total_size_children_lt stack).map path).Nodup := by
  fun_induction unstack children size total_size_children_lt stack with
  | case1 => exact List.nodup_nil
  | case2 p rest ih =>
    obtain ⟨hp, hrest⟩ := List.pairwise_cons.mp h
    rw [List.map_cons, List.nodup_cons]
    constructor
    · -- what comes later lies below a child of `p` or below another member, and `p` does not
      intro hmem
      obtain ⟨q, hq, hpath⟩ := List.mem_map.mp hmem
      obtain ⟨a, ha, hsuffix⟩ := exists_suffix_of_mem_unstack hq
      rw [hpath] at hsuffix
      rcases List.mem_append.mp ha with ha | ha
      · obtain ⟨i, hlonger⟩ := path_of_mem_children ha
        have := hsuffix.length_le
        rw [hlonger, List.length_cons] at this
        omega
      · exact (hp a ha).2 hsuffix
    · refine ih (List.pairwise_append.mpr ⟨pairwise_beside_children p, hrest, ?_⟩)
      intro c hc r hr
      exact (hp r hr).of_mem_children hc

theorem nodup_map_path_walk (root : Node) : ((top root).walk.map path).Nodup :=
  nodup_map_path_unstack (List.pairwise_singleton _ _)

theorem nodup_walk (root : Node) : (top root).walk.Nodup := (nodup_map_path_walk root).of_map

/-! ### What lies below a place -/

theorem mem_walk_iff (hq : q ∈ (top root).walk) : q ∈ p.walk ↔ q = p ∨ p ∈ q.ancestors := by
  constructor
  · refine forall_mem_unstack (P := fun q => q = p ∨ p ∈ q.ancestors) ?_ [p] ?_ q
    · intro a ha b hb
      rw [ancestors_of_mem_children hb, List.mem_cons]
      exact Or.inr (ha.imp Eq.symm id)
    · intro a ha
      exact Or.inl (List.mem_singleton.mp ha)
  · rintro (rfl | h)
    · exact mem_unstack_of_mem List.mem_cons_self
    · refine walk_induction (motive := fun q => p ∈ q.ancestors → q ∈ p.walk) nofun ?_ q hq h
      intro b _ ih c hc h
      rw [ancestors_of_mem_children hc, List.mem_cons] at h
      rcases h with rfl | h
      · exact mem_unstack_of_mem_children (mem_unstack_of_mem List.mem_cons_self) hc
      · exact mem_unstack_of_mem_children (ih h) hc

theorem not_mem_ancestors_self (p : Place) : p ∉ p.ancestors :=
  fun h => Nat.lt_irrefl _ (length_above_lt h)

/-- **What lies below a place is visited right behind it.** -/
theorem exists_run {before after : List Place} (h : (top root).walk = before ++ p :: after) :
    ∃ run rest, after = run ++ rest ∧ p.walk = p :: run ∧
      ∀ q ∈ (top root).walk, q ∈ run ↔ p ∈ q.ancestors := by
  obtain ⟨rest, hrun⟩ := exists_run_of_unstack h
  have hnodup := nodup_walk root
  rw [unstack, List.cons_append, List.cons_inj_right] at hrun
  have hwalk : p.walk = p :: unstack children size total_size_children_lt (p.children ++ []) := by
    rw [walk, unstack]
  refine ⟨_, rest, hrun, hwalk, fun q hq => ?_⟩
  have hself : p ∉ unstack children size total_size_children_lt (p.children ++ []) := by
    intro hmem
    rw [h, hrun] at hnodup
    have := (List.nodup_cons.mp (List.nodup_append.mp hnodup).2.1).1
    exact this (List.mem_append_left _ hmem)
  have hmem := mem_walk_iff (p := p) hq
  rw [hwalk, List.mem_cons] at hmem
  constructor
  · intro hrun
    rcases hmem.mp (Or.inr hrun) with rfl | habove
    · exact absurd hrun hself
    · exact habove
  · intro habove
    rcases hmem.mpr (Or.inr habove) with rfl | hrun
    · exact absurd habove (not_mem_ancestors_self q)
    · exact hrun

theorem children_sublist_walk (hp : p ∈ (top root).walk) :
    p.children.Sublist (top root).walk := by
  obtain ⟨before, after, h⟩ := List.append_of_mem hp
  obtain ⟨run, rest, hafter, hwalk, _⟩ := exists_run h
  have hrun : run = unstack children size total_size_children_lt p.children := by
    rw [walk, unstack, List.append_nil] at hwalk
    exact (List.cons.inj hwalk).2.symm
  rw [h, hafter, hrun]
  exact ((sublist_unstack _).trans (List.sublist_append_left _ _)).trans
    ((List.sublist_cons_self _ _).trans (List.sublist_append_right _ _))

/-! ### Links -/

/-- The links to parents that are set so far: the path of a place leads to that of its parent. -/
def Links := List Nat → Option (List Nat)

def Links.none : Links := fun _ => Option.none

def Links.set (links : Links) (child parent : List Nat) : Links :=
  fun path => if path = child then some parent else links path

def link (p : Place) (links : Links) : Links :=
  p.children.foldl (fun links c => links.set c.path p.path) links

theorem link_apply (p : Place) (links : Links) (path : List Nat) :
    p.link links path = if path ∈ p.children.map Place.path then some p.path else links path := by
  rw [link]
  generalize p.children = cs
  induction cs generalizing links with
  | nil => rfl
  | cons c cs ih =>
    rw [List.foldl_cons, ih, List.map_cons]
    by_cases hc : path = c.path
    · simp [Links.set, hc]
    · simp [Links.set, hc]

/-- A link once set is kept: nothing but the parent of a place has its path as that of a child. -/
theorem foldl_link_of_set {links : Links} {path : List Nat} (h : links path = some path.tail)
    (ps : List Place) : ps.foldl (fun links p => p.link links) links path = some path.tail := by
  induction ps generalizing links with
  | nil => exact h
  | cons p ps ih =>
    have hkept : p.link links path = some path.tail := by
      rw [link_apply]
      split
      · next hmem =>
        obtain ⟨c, hc, rfl⟩ := List.mem_map.mp hmem
        obtain ⟨i, hpath⟩ := path_of_mem_children hc
        rw [hpath, List.tail_cons]
      · exact h
    exact ih hkept

theorem foldl_link_of_mem {ps : List Place} (hp : p ∈ ps) (hq : q ∈ p.children) (links : Links) :
    ps.foldl (fun links p => p.link links) links q.path = some p.path := by
  obtain ⟨before, after, rfl⟩ := List.append_of_mem hp
  obtain ⟨i, hpath⟩ := path_of_mem_children hq
  rw [List.foldl_append, List.foldl_cons, foldl_link_of_set, hpath, List.tail_cons]
  rw [link_apply, if_pos (List.mem_map_of_mem hq), hpath, List.tail_cons]

theorem foldl_link_nil (ps : List Place) (links : Links) :
    ps.foldl (fun links p => p.link links) links [] = links [] := by
  induction ps generalizing links with
  | nil => rfl
  | cons p ps ih =>
    rw [List.foldl_cons, ih, link_apply, if_neg]
    intro hmem
    obtain ⟨c, hc, hnil⟩ := List.mem_map.mp hmem
    obtain ⟨i, hpath⟩ := path_of_mem_children hc
    rw [hpath] at hnil
    cases hnil

theorem size_eq (p : Place) : p.size = total size p.children + 1 := by
  rw [size, Node.size_eq, ← map_node_children, total_map]
  rfl

/-- Every place of a tree but the top is linked to its parent. -/
structure Links.Complete (links : Links) (root : Node) : Prop where
  top : links [] = Option.none
  child : ∀ p ∈ (Place.top root).walk, ∀ q ∈ p.children, links q.path = some p.path

/-- **The loop that sets the links ends, and with all links set**, though it goes from right to
left. -/
theorem exists_links (root : Node) : ∃ links : Links, links.Complete root ∧
    (turn children link)^[root.size] ([top root], Links.none) = ([], links) := by
  have hsize : ∀ p : Place, p.size = total size p.children.reverse + 1 := by
    intro p
    rw [total_reverse, size_eq]
  have hsmaller : ∀ p : Place, total size p.children.reverse < p.size := by
    intro p
    rw [hsize p]
    omega
  have hpush : ∀ p : Place, p.children = p.children.reverse.reverse :=
    fun p => (List.reverse_reverse p.children).symm
  have hloop := iterate_turn hsmaller hpush link [top root] Links.none
  rw [length_unstack hsize, List.reverse_singleton] at hloop
  refine ⟨_, ⟨?_, ?_⟩, hloop⟩
  · exact foldl_link_nil _ _
  · intro p hp q hq
    refine foldl_link_of_mem ?_ hq _
    -- the other order meets the same places
    refine walk_induction ?_ ?_ p hp
    · exact mem_unstack_of_mem List.mem_cons_self
    · intro a _ ha b hb
      exact mem_unstack_of_mem_children ha (List.mem_reverse.mpr hb)

namespace Links.Complete

variable {links : Links} (h : links.Complete root)
include h

theorem eq_some_iff (hp : p ∈ (Place.top root).walk) (hq : q ∈ (Place.top root).walk) :
    links q.path = some p.path ↔ q ∈ p.children := by
  constructor
  · intro hlink
    rcases eq_top_or_mem_children hq with rfl | ⟨above, habove, hchild⟩
    · rw [show (Place.top root).path = [] from rfl, h.top] at hlink
      cases hlink
    · rw [h.child above habove q hchild] at hlink
      rwa [← eq_of_path_eq habove hp (Option.some.inj hlink)]
  · exact h.child p hp q

theorem transGen_iff (hp : p ∈ (Place.top root).walk) (hq : q ∈ (Place.top root).walk) :
    TransGen (fun a b => links a = some b) q.path p.path ↔ p ∈ q.ancestors := by
  refine walk_induction (motive := fun q =>
    TransGen (fun a b => links a = some b) q.path p.path ↔ p ∈ q.ancestors) ?_ ?_ q hq
  · constructor
    · intro hup
      obtain ⟨b, hb, _⟩ := TransGen.head'_iff.mp hup
      rw [show (Place.top root).path = [] from rfl, h.top] at hb
      cases hb
    · exact nofun
  · intro a ha ih b hb
    have hlink := h.child a ha b hb
    rw [TransGen.head'_iff, ancestors_of_mem_children hb, List.mem_cons, ← ih]
    constructor
    · rintro ⟨c, hc, hup⟩
      obtain rfl : a.path = c := Option.some.inj (hlink.symm.trans hc)
      rcases Relation.reflTransGen_iff_eq_or_transGen.mp hup with heq | hup
      · exact Or.inl (eq_of_path_eq hp ha heq)
      · exact Or.inr hup
    · rintro (rfl | hup)
      · exact ⟨_, hlink, .refl⟩
      · exact ⟨_, hlink, hup.to_reflTransGen⟩

theorem filter_walk (hp : p ∈ (Place.top root).walk) :
    ((Place.top root).walk.filter fun q => links q.path = some p.path) = p.children := by
  have hmem : ∀ q ∈ (Place.top root).walk, links q.path = some p.path ↔ q ∈ p.children :=
    fun q hq => h.eq_some_iff hp hq
  have hsublist : p.children.Sublist
      ((Place.top root).walk.filter fun q => links q.path = some p.path) := by
    have hfilter := (children_sublist_walk hp).filter fun q => decide (links q.path = some p.path)
    rwa [List.filter_eq_self.mpr] at hfilter
    intro q hq
    exact decide_eq_true (h.child p hp q hq)
  refine (hsublist.eq_of_length_le ?_).symm
  refine (List.Nodup.subperm ((nodup_walk root).filter _) ?_).length_le
  intro q hq
  obtain ⟨hq, hlink⟩ := List.mem_filter.mp hq
  exact (hmem q hq).mp (of_decide_eq_true hlink)

theorem exists_parent_before {before after : List Place}
    (hsplit : (Place.top root).walk = before ++ q :: after) (hbefore : before ≠ []) :
    ∃ p ∈ before, links q.path = some p.path := by
  rcases mem_or_exists_parent_of_unstack hsplit with htop | ⟨p, hp, hchild⟩
  · -- the top would be visited twice
    obtain rfl := List.mem_singleton.mp htop
    have hnodup := nodup_walk root
    have hhead : ∃ tail, (Place.top root).walk = Place.top root :: tail := by
      rw [walk, unstack]
      exact ⟨_, rfl⟩
    obtain ⟨tail, htail⟩ := hhead
    obtain ⟨a, before, rfl⟩ := List.exists_cons_of_ne_nil hbefore
    rw [htail] at hsplit hnodup
    obtain ⟨_, rfl⟩ := List.cons.inj hsplit
    exact absurd (List.mem_append_right before List.mem_cons_self) (List.nodup_cons.mp hnodup).1
  · exact ⟨p, hp, h.child p (hsplit ▸ List.mem_append_left _ hp) q hchild⟩

end Links.Complete

end Place

namespace Node

/-- **The walk is in preorder.**  The loop over a stack ends, with the walk: the node, followed by
the walks of its children in order.  Its places are told apart by their paths.  The loop that sets
the links to parents ends as well, and by its links every place but the first has its parent
somewhere before it, what lies below a place comes right behind it without a gap, and the nodes
whose parent is a place stand in the order of its children. -/
theorem walk_in_preorder (root : Node) :
    (turn (fun n => n.children.reverse) fun n visited => visited ++ [n])^[root.size] ([root], []) =
      ([], root.walk) ∧
    root.walk = root :: root.children.flatMap walk ∧
    (Place.top root).walk.map Place.node = root.walk ∧
    ((Place.top root).walk.map Place.path).Nodup ∧
    ∃ links : Place.Links,
      (turn Place.children Place.link)^[root.size] ([Place.top root], .none) = ([], links) ∧
      (∀ before q after, (Place.top root).walk = before ++ q :: after → before ≠ [] →
        ∃ p ∈ before, links q.path = some p.path) ∧
      (∀ before p after, (Place.top root).walk = before ++ p :: after →
        ∃ run rest, after = run ++ rest ∧ ∀ q ∈ (Place.top root).walk,
          TransGen (fun a b => links a = some b) q.path p.path ↔ q ∈ run) ∧
      ∀ p ∈ (Place.top root).walk,
        ((Place.top root).walk.filter fun q => links q.path = some p.path).map Place.node =
          p.node.children := by
  obtain ⟨links, hlinks, hloop⟩ := Place.exists_links root
  refine ⟨?_, root.walk_eq, Place.map_node_walk root, Place.nodup_map_path_walk root, links, hloop,
    ?_, ?_, ?_⟩
  · have hwalk := iterate_turn total_size_children_lt (fun _ => rfl)
      (fun n visited => visited ++ [n]) [root] []
    have hcollect : ∀ l : List Node, l.foldl (fun visited n => visited ++ [n]) [] = l := by
      intro l
      rw [List.foldl_append_eq_append, List.nil_append, ← List.flatMap_def, List.flatMap_singleton']
    rwa [length_unstack size_eq, hcollect, List.reverse_singleton] at hwalk
  · exact fun before q after => hlinks.exists_parent_before
  · intro before p after h
    obtain ⟨run, rest, hafter, _, hrun⟩ := Place.exists_run h
    refine ⟨run, rest, hafter, fun q hq => ?_⟩
    have hp : p ∈ (Place.top root).walk := h ▸ List.mem_append_right _ List.mem_cons_self
    rw [hlinks.transGen_iff hp hq, hrun q hq]
  · intro p hp
    rw [hlinks.filter_walk hp, Place.map_node_children]

/-- The expression `(foo(a + bar[b]))`. -/
def indexedSum : Node :=
  .other none "parenthesized_statements"
    [.send none none "foo"
      [.other none "binary"
        [.var none .localVar "a",
          .send none (some (.var none .localVar "bar")) "[]" [.var none .localVar "b"]] ["+"]]] []

def indexedSumPaths : List (List Nat) :=
  [[], [0], [0, 0], [0, 0, 0], [1, 0, 0], [0, 1, 0, 0], [1, 1, 0, 0]]

/-- The index is the fifth place.  Its parent comes before it and its parts behind it. -/
theorem walk_in_preorder_index :
    (Place.top indexedSum).walk.map Place.path = indexedSumPaths ∧
    ∃ links : Place.Links, ∃ before q after,
      (Place.top indexedSum).walk = before ++ q :: after ∧ before ≠ [] ∧ q.path = [1, 0, 0] ∧
      (∃ p ∈ before, links q.path = some p.path) ∧
      (∃ run rest, after = run ++ rest ∧ ∀ r ∈ (Place.top indexedSum).walk,
        TransGen (fun a b => links a = some b) r.path q.path ↔ r ∈ run) ∧
      ((Place.top indexedSum).walk.filter fun r => links r.path = some q.path).map Place.node =
        q.node.children := by
  have hpaths : (Place.top indexedSum).walk.map Place.path =
      indexedSumPaths.take 4 ++ indexedSumPaths.drop 4 := by
    decide +kernel
  obtain ⟨_, _, _, _, links, _, hparent, hrun, horder⟩ := walk_in_preorder indexedSum
  obtain ⟨before, rest, hwalk, hbefore, hrest⟩ := List.map_eq_append_iff.mp hpaths
  obtain ⟨q, after, rfl, hq, _⟩ := List.map_eq_cons_iff.mp hrest
  have hne : before ≠ [] := by
    rintro rfl
    cases hbefore
  have hmem : q ∈ (Place.top indexedSum).walk :=
    hwalk ▸ List.mem_append_right _ List.mem_cons_self
  exact ⟨hpaths, links, before, q, after, hwalk, hne, hq, hparent _ _ _ hwalk hne,
    hrun _ _ _ hwalk, horder q hmem⟩

end Node

end MultiAssign
