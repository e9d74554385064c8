import MultiAssign.Proofs.KnownNames
import MultiAssign.Proofs.Laid
import MultiAssign.Proofs.Places

/-!
# The local variables that a place can see

A local variable is visible at a place if it was assigned before, in the same scope, and not in a
block that the place is outside of.  `Place.visibleLocals` searches the scope for such assignments
from the top, and passes over whatever starts too late, opens a scope of its own, or is a block that
the place is not in.  `visibleLocals_assigned_before` says that it finds all of them, and no others.

Both halves go along the way from the scope down to an assignment.  With a step down, what is
`InSight` stays in sight exactly if the search goes on there (`inSight_iff_of_mem_children`).  So
whatever it looks at is in sight (`inSight_of_mem_seen`).  The other half has to see that the search
is not cut off early (`mem_seen_of_inSight`): what stands above an assignment starts no later than
it, hence before the place, because ranges are nested and not empty.
-/

namespace MultiAssign

/-- Every node of the tree has a range that is not empty, inside the range of its parent. -/
structure Node.Spanned (root : Node) : Prop where
  range : ∀ n ∈ root.walk, ∃ s ∈ n.span, s.start < s.stop
  inside : ∀ n ∈ root.walk, ∀ c ∈ n.children, ∀ s ∈ n.span, ∀ t ∈ c.span, s.Contains t

theorem Node.spanned_iff_preorder {root : Node} : root.Spanned ↔
    (∀ n ∈ root.preorder, ∃ s ∈ n.span, s.start < s.stop) ∧
      ∀ n ∈ root.preorder, ∀ c ∈ n.children, ∀ s ∈ n.span, ∀ t ∈ c.span, s.Contains t := by
  rw [← walk_eq_preorder]
  exact ⟨fun h => ⟨h.range, h.inside⟩, fun h => ⟨h.1, h.2⟩⟩

instance (root : Node) : Decidable root.Spanned := decidable_of_iff' _ Node.spanned_iff_preorder

/-- The node is an assignment, and one of its targets is the local variable of this name. -/
def Node.Assigns (name : String) : Node → Prop
  | assign _ target _ _ => ∃ s, var s .localVar name ∈ target.leaves
  | multiAssign _ targets _ => ∃ s, var s .localVar name ∈ leavesList targets
  | _ => False

theorem Node.mem_declaredLocals_iff {name : String} {n : Node} :
    name ∈ n.declaredLocals ↔ n.Assigns name := by
  cases n with
  | assign _ target _ _ => exact mem_localNames_iff_leaf target
  | multiAssign _ targets _ => exact mem_localNamesList_iff_leaf targets
  | _ => simp [declaredLocals, Assigns]

theorem Node.Assigns.opensScope {name : String} {n : Node} (h : n.Assigns name) :
    n.opensScope = false := by
  cases n with
  | assign | multiAssign => rfl
  | _ => exact absurd h id

theorem Node.Assigns.isBlock {name : String} {n : Node} (h : n.Assigns name) :
    n.isBlock = false := by
  cases n with
  | assign | multiAssign => rfl
  | _ => exact absurd h id

namespace Place

/-- The range of `a` ends before that of `p` starts. -/
def EndsBefore (a p : Place) : Prop :=
  ∃ s t, a.node.span = some s ∧ p.node.span = some t ∧ s.stop ≤ t.start

/-- The place stands in this scope: of the places above it that open a scope, it is the nearest. -/
def StandsIn (p scope : Place) : Prop :=
  p.ancestors.find? (fun a => a.node.opensScope) = some scope

/-- `a` stands in the scope, and below the scope in no block that `p` is outside of. -/
structure InSight (p scope a : Place) : Prop where
  standsIn : a.StandsIn scope
  blocks : ∀ b ∈ a.ancestors, b.node.isBlock → scope ∈ b.ancestors → b ∈ p.ancestors

variable {root : Node} {p q scope : Place}

/-! ### Scopes -/

theorem scope?_eq_find? (p : Place) :
    p.scope? = p.ancestors.find? fun a => a.node.opensScope := by
  have hway : ∀ above : List (Node × Nat),
      nearestScope? above = (onWay above).find? fun a => a.node.opensScope := by
    intro above
    induction above with
    | nil => rfl
    | cons step above ih =>
      rw [nearestScope?, onWay, List.find?_cons, ih]
      cases step.1.opensScope <;> rfl
  exact hway p.above

theorem StandsIn.mem_ancestors (h : p.StandsIn scope) : scope ∈ p.ancestors :=
  List.mem_of_find?_eq_some h

theorem standsIn_of_opensScope (h : q ∈ p.children) (hopens : p.node.opensScope) :
    q.StandsIn p := by
  rw [StandsIn, ancestors_of_mem_children h, List.find?_cons, hopens]

theorem standsIn_iff_of_not_opensScope (h : q ∈ p.children) (hopens : p.node.opensScope = false) :
    q.StandsIn scope ↔ p.StandsIn scope := by
  rw [StandsIn, ancestors_of_mem_children h, List.find?_cons, hopens, StandsIn]

/-! ### What is in sight -/

theorem inSight_of_mem_children (h : q ∈ scope.children) (hopens : scope.node.opensScope) :
    InSight p scope q := by
  refine ⟨standsIn_of_opensScope h hopens, ?_⟩
  intro b hb _ hscope
  -- what is below the scope is no place above its children
  rw [ancestors_of_mem_children h] at hb
  have hlt := length_above_lt hscope
  rcases List.mem_cons.mp hb with rfl | hb
  · exact absurd hlt (Nat.lt_irrefl _)
  · exact absurd (length_above_lt hb) (Nat.lt_asymm hlt)

/-- Below a place that opens no scope, the same is in sight, except where the place is a block that
`p` is outside of. -/
theorem inSight_iff_of_mem_children {a b : Place} (h : b ∈ a.children)
    (hopens : a.node.opensScope = false) :
    InSight p scope b ↔ InSight p scope a ∧ (a.node.isBlock → a ∈ p.ancestors) := by
  have habove := ancestors_of_mem_children h
  constructor
  · intro hb
    have ha := (standsIn_iff_of_not_opensScope h hopens).mp hb.standsIn
    refine ⟨⟨ha, fun c hc => hb.blocks c (habove ▸ List.mem_cons_of_mem a hc)⟩, fun hblock => ?_⟩
    exact hb.blocks a (habove ▸ List.mem_cons_self) hblock ha.mem_ancestors
  · rintro ⟨ha, hblock⟩
    refine ⟨(standsIn_iff_of_not_opensScope h hopens).mpr ha.standsIn, fun c hc => ?_⟩
    rw [habove] at hc
    rcases List.mem_cons.mp hc with rfl | hc
    · exact fun hc _ => hblock hc
    · exact ha.blocks c hc

/-! ### The search -/

/-- What the search for local variables looks at, for a place `p` that starts at `start`. -/
def seen (p : Place) (start : Nat) (scope : Place) : List Place :=
  unstack (knownChildren p start) size (total_size_knownChildren_lt p start) scope.children

/-- The search goes on below a place that starts before `p`, opens no scope, and is no block that
`p` is outside of. -/
theorem isKnownAt_iff (hp : p ∈ (top root).walk) (hq : q ∈ (top root).walk) {s t : Span}
    (hs : p.node.span = some s) (ht : q.node.span = some t) :
    isKnownAt p s.start q ↔ t.start < s.start ∧ q.node.opensScope = false ∧
      (q.node.isBlock → q ∈ p.ancestors) := by
  simp only [isKnownAt, ht, Bool.and_eq_true, decide_eq_true_eq, Bool.not_eq_true',
    Bool.or_eq_true, encloses_iff hq hp, and_assoc, imp_iff_not_or, Bool.not_eq_true]
  refine and_congr_right fun hlt => and_congr_right fun _ => or_congr_right ⟨?_, Or.inr⟩
  rintro (rfl | hmem)
  · rw [hs] at ht
    cases ht
    exact absurd hlt (Nat.lt_irrefl _)
  · exact hmem

theorem mem_knownChildren {start : Nat} {a b : Place} :
    b ∈ knownChildren p start a ↔ isKnownAt p start a ∧ b ∈ a.children := by
  rw [knownChildren]
  split <;> simp [*]

/-- **Whatever the search looks at is in sight.** -/
theorem inSight_of_mem_seen (hroot : root.Spanned) (hp : p ∈ (top root).walk) {s : Span}
    (hs : p.node.span = some s) (hscope : p.StandsIn scope) :
    ∀ a ∈ seen p s.start scope, a ∈ (top root).walk ∧ InSight p scope a := by
  refine forall_mem_unstack ?_ scope.children ?_
  · rintro a ⟨ha, hsight⟩ b hb
    obtain ⟨hknown, hb⟩ := mem_knownChildren.mp hb
    obtain ⟨t, ht, _⟩ := hroot.range a.node (mem_walk_of_mem_walk ha).1
    obtain ⟨_, hopens, hblock⟩ := (isKnownAt_iff hp ha hs ht).mp hknown
    exact ⟨mem_walk_of_mem_children ha hb,
      (inSight_iff_of_mem_children hb hopens).mpr ⟨hsight, hblock⟩⟩
  · intro a ha
    have hmem : scope ∈ (top root).walk := ancestors_subset_walk hp hscope.mem_ancestors
    have hopens : scope.node.opensScope := by simpa using List.find?_some hscope
    exact ⟨mem_walk_of_mem_children hmem ha, inSight_of_mem_children ha hopens⟩

/-- **Whatever is in sight and starts before `p` is looked at.**  The way up to the scope starts
before `p` as well, so the search is nowhere cut off on its way down. -/
theorem mem_seen_of_inSight (hroot : root.Spanned) (hp : p ∈ (top root).walk) {s : Span}
    (hs : p.node.span = some s) :
    ∀ a ∈ (top root).walk, InSight p scope a → ∀ t, a.node.span = some t → t.start < s.start →
      a ∈ seen p s.start scope := by
  refine walk_induction ?_ ?_
  · intro hsight
    exact absurd hsight.standsIn.mem_ancestors List.not_mem_nil
  · intro a ha ih b hb hsight t ht hlt
    cases hopens : a.node.opensScope with
    | true =>
      have hscope : some a = some scope :=
        (standsIn_of_opensScope hb hopens).symm.trans hsight.standsIn
      cases hscope
      exact mem_unstack_of_mem hb
    | false =>
      obtain ⟨hsight, hblock⟩ := (inSight_iff_of_mem_children hb hopens).mp hsight
      have hnode := (mem_walk_of_mem_walk ha).1
      obtain ⟨r, hr, _⟩ := hroot.range a.node hnode
      have hstart := (hroot.inside a.node hnode b.node (node_mem_children hb) r hr t ht).1
      have hlt' : r.start < s.start := Nat.lt_of_le_of_lt hstart hlt
      have hknown := (isKnownAt_iff hp ha hs hr).mpr ⟨hlt', hopens, hblock⟩
      exact mem_unstack_of_mem_children (ih hsight r hr hlt') (mem_knownChildren.mpr ⟨hknown, hb⟩)

theorem mem_visibleLocals {s : Span} (hs : p.node.span = some s) (hscope : p.StandsIn scope)
    {name : String} : name ∈ p.visibleLocals ↔ ∃ a ∈ seen p s.start scope,
      isKnownAt p s.start a ∧ a.EndsBefore p ∧ a.node.Assigns name := by
  have hscope' : p.scope? = some scope := (scope?_eq_find? p).trans hscope
  have hends : ∀ a : Place, (a.node.span.any fun t => t.stop ≤ s.start) ↔ a.EndsBefore p := by
    intro a
    simp [EndsBefore, hs, Option.any_eq_true]
  simp only [visibleLocals, hs, hscope', List.mem_flatMap, List.mem_filter, Bool.and_eq_true, hends,
    Node.mem_declaredLocals_iff, and_assoc]
  rfl

/-- The names that are found are those of the assignments in sight that end before `p`. -/
theorem mem_visibleLocals_iff_inSight (hroot : root.Spanned) (hp : p ∈ (top root).walk)
    (hscope : p.StandsIn scope) {name : String} :
    name ∈ p.visibleLocals ↔ ∃ a ∈ (top root).walk, a.node.Assigns name ∧ a.EndsBefore p ∧
      InSight p scope a := by
  obtain ⟨s, hs, _⟩ := hroot.range p.node (mem_walk_of_mem_walk hp).1
  rw [mem_visibleLocals hs hscope]
  constructor
  · rintro ⟨a, ha, _, hends, hassigns⟩
    obtain ⟨hmem, hsight⟩ := inSight_of_mem_seen hroot hp hs hscope a ha
    exact ⟨a, hmem, hassigns, hends, hsight⟩
  · rintro ⟨a, ha, hassigns, hends, hsight⟩
    obtain ⟨t, ht, hne⟩ := hroot.range a.node (mem_walk_of_mem_walk ha).1
    have hlt : t.start < s.start := by
      obtain ⟨t', s', ht', hs', hle⟩ := hends
      rw [ht] at ht'
      rw [hs] at hs'
      cases ht'
      cases hs'
      exact Nat.lt_of_lt_of_le hne hle
    have hknown : isKnownAt p s.start a := by
      refine (isKnownAt_iff hp ha hs ht).mpr ⟨hlt, hassigns.opensScope, fun hblock => ?_⟩
      rw [hassigns.isBlock] at hblock
      cases hblock
    exact ⟨a, mem_seen_of_inSight hroot hp hs a ha hsight t ht hlt, hknown, hends, hassigns⟩

/-- **The visible local variables are those assigned before in the same scope.**  In a tree of nodes
with nested ranges, a name is visible at a place exactly if it is a local variable among the targets
of an assignment that ends before the place starts, stands in the same scope as the place, and in no
block of this scope that the place is outside of.  Where there is no scope, nothing is visible. -/
theorem visibleLocals_assigned_before {root : Node} (hroot : root.Spanned) {p : Place}
    (hp : p ∈ (top root).walk) :
    (∀ name, name ∈ p.visibleLocals ↔ ∃ a ∈ (top root).walk, a.node.Assigns name ∧
      a.EndsBefore p ∧ ∃ scope, a.StandsIn scope ∧ p.StandsIn scope ∧
        ∀ b ∈ a.ancestors, b.node.isBlock → scope ∈ b.ancestors → b ∈ p.ancestors) ∧
    ((∀ a ∈ p.ancestors, a.node.opensScope = false) → p.visibleLocals = []) := by
  cases hscope : p.ancestors.find? fun a => a.node.opensScope with
  | some scope =>
    refine ⟨fun name => ?_, fun hnone => ?_⟩
    · rw [mem_visibleLocals_iff_inSight hroot hp hscope]
      constructor
      · rintro ⟨a, ha, hassigns, hends, hsight⟩
        exact ⟨a, ha, hassigns, hends, scope, hsight.standsIn, hscope, hsight.blocks⟩
      · rintro ⟨a, ha, hassigns, hends, scope', hstands, hscope', hblocks⟩
        cases hscope.symm.trans hscope'
        exact ⟨a, ha, hassigns, hends, hstands, hblocks⟩
    · have hopens := List.find?_some hscope
      rw [hnone scope (List.mem_of_find?_eq_some hscope)] at hopens
      cases hopens
  | none =>
    have hnil : p.visibleLocals = [] := by
      rw [visibleLocals, scope?_eq_find?, hscope]
      cases p.node.span <;> rfl
    refine ⟨fun name => ?_, fun _ => hnil⟩
    rw [hnil]
    refine ⟨nofun, ?_⟩
    rintro ⟨_, _, _, _, scope, _, hscope', _⟩
    cases hscope.symm.trans hscope'

def letter (start : Nat) (name : String) : Node := .var (some ⟨start, start + 1⟩) .localVar name

/-- A numeral of one digit is assigned to a letter, as in `a = 1`. -/
def digitTo (start : Nat) (name digit : String) : Node :=
  .assign (some ⟨start, start + 5⟩) (letter start name)
    (.literal (some ⟨start + 4, start + 5⟩) .integer digit [] true) "="

/-- The statement `x, y = a, c`. -/
def lastStatement : Node :=
  .multiAssign (some ⟨31, 42⟩) [letter 31 "x", letter 34 "y"]
    (.array (some ⟨38, 42⟩) [letter 38 "a", letter 41 "c"] false)

/-- The call `g { c = 3; x, y = a, c }`. -/
def lastBlock : Node :=
  .block (some ⟨20, 44⟩) (.send (some ⟨20, 21⟩) none "g" []) [digitTo 24 "c" "3", lastStatement]

/-- The program `a = 1; f { b = 2 }; g { c = 3; x, y = a, c }`. -/
def twoBlocks : Node :=
  .program (some ⟨0, 44⟩) [digitTo 0 "a" "1",
    .block (some ⟨7, 18⟩) (.send (some ⟨7, 8⟩) none "f" []) [digitTo 11 "b" "2"], lastBlock]

/-- At `x, y = a, c` the program sees `a` and `c`, and not `b`, which is assigned in the other
block. -/
theorem visibleLocals_assigned_before_twoBlocks :
    let p : Place := ⟨lastStatement, [(lastBlock, 2), (twoBlocks, 2)]⟩
    twoBlocks.Spanned ∧ p ∈ (top twoBlocks).walk ∧ p.visibleLocals = ["a", "c"] ∧
      ∀ name, (∃ a ∈ (top twoBlocks).walk, a.node.Assigns name ∧ a.EndsBefore p ∧
        ∃ scope, a.StandsIn scope ∧ p.StandsIn scope ∧
          ∀ b ∈ a.ancestors, b.node.isBlock → scope ∈ b.ancestors → b ∈ p.ancestors) ↔
        name = "a" ∨ name = "c" := by
  intro p
  have hroot : twoBlocks.Spanned := by decide
  have hblock : (⟨lastBlock, [(twoBlocks, 2)]⟩ : Place) ∈ (top twoBlocks).walk :=
    mem_walk_of_mem_children (top_mem_walk twoBlocks) (mem_children.mpr ⟨2, lastBlock, rfl, rfl⟩)
  have hp : p ∈ (top twoBlocks).walk :=
    mem_walk_of_mem_children hblock (mem_children.mpr ⟨2, lastStatement, rfl, rfl⟩)
  have hvisible : p.visibleLocals = ["a", "c"] := by decide +kernel
  refine ⟨hroot, hp, hvisible, fun name => ?_⟩
  rw [← (visibleLocals_assigned_before hroot hp).1 name, hvisible, List.mem_pair]

end Place

end MultiAssign
