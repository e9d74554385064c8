import MultiAssign.Proofs.SafeOrder
import Mathlib.Data.List.Pairwise
import Mathlib.Data.Set.Lattice
import Mathlib.Order.CompletePartialOrder

/-!
# One assignment after the other

A parallel assignment evaluates all its sources and then writes to all its targets.  A sequence of
single assignments evaluates a source and writes to its target, then the next.  This file compares
the two over any `Semantics`, that is any way to evaluate sources in a store and to write values to
targets, as long as a write leaves the values alone that do not read its target (`Respects`).

In a safe order every source is evaluated to its value in the first store (`oneByOne_eq`): of the
writes that came before, none was to a target that it reads.  So the sequence does the same writes
as the parallel assignment, only in another order.

What a write does may depend on the store: the target `node.next` is a cell of whatever `node` is by
then.  So the last stores can differ although no cell is written twice, as for
`node.next, node = prev, node.next` (`oneByOne_receiver_moved`).  `oneByOne_findOrder` says when
they are the same: if each target is written in its turn as it would be in the parallel assignment,
where a turn is a pair with the store in which it is carried out (`turns`).
-/

namespace MultiAssign

universe u v w x

/-- What a source evaluates to in a store, and what becomes of the store by a write to a target. -/
structure Semantics (Store : Type u) (Value : Type v) where
  eval : Node → Store → Value
  write : Node → Value → Store → Store

namespace Semantics

variable {Store : Type u} {Value : Type v} (M : Semantics Store Value)

/-- Carries out pairs one by one: the values that the sources had in their turn, and the last
store. -/
def oneByOne : List Pair → Store → List Value × Store
  | [], s => ([], s)
  | p :: ps, s =>
    let value := M.eval p.source s
    let (values, last) := oneByOne ps (M.write p.target value s)
    (value :: values, last)

def writeAll : List (Node × Value) → Store → Store
  | [], s => s
  | (target, value) :: rest, s => writeAll rest (M.write target value s)

def atOnce (pairs : List Pair) (s : Store) : Store :=
  M.writeAll (pairs.map fun p => (p.target, M.eval p.source s)) s

/-- A write to the target of a pair changes the value of a source only if the source reads the
target. -/
def Respects (pairs : List Pair) : Prop :=
  ∀ p ∈ pairs, ∀ q ∈ pairs, p.reads q = false →
    ∀ value s, M.eval p.source (M.write q.target value s) = M.eval p.source s

variable {M}

theorem Respects.of_perm {pairs order : List Pair} (h : M.Respects pairs)
    (hperm : order.Perm pairs) : M.Respects order :=
  fun p hp q hq => h p (hperm.mem_iff.mp hp) q (hperm.mem_iff.mp hq)

theorem Respects.tail {p : Pair} {ps : List Pair} (h : M.Respects (p :: ps)) : M.Respects ps :=
  fun q hq r hr => h q (List.mem_cons_of_mem p hq) r (List.mem_cons_of_mem p hr)

/-! ### The values -/

theorem eval_write_of_safe {p : Pair} {ps : List Pair} (hM : M.Respects (p :: ps))
    (hs : Pair.Safe (p :: ps)) (value : Value) (s : Store) :
    ∀ q ∈ ps, M.eval q.source (M.write p.target value s) = M.eval q.source s := by
  intro q hq
  have hread : q.reads p = false := (List.pairwise_cons.mp hs).1 q hq
  exact hM q (List.mem_cons_of_mem p hq) p List.mem_cons_self hread value s

/-- **In a safe order every source has its first value**, and the writes are those of the parallel
assignment of the same pairs. -/
theorem oneByOne_eq : ∀ (order : List Pair), M.Respects order → Pair.Safe order → ∀ s : Store,
    M.oneByOne order s = (order.map fun p => M.eval p.source s, M.atOnce order s) := by
  intro order
  induction order with
  | nil => intro _ _ s; rfl
  | cons p ps ih =>
    intro hM hs s
    have hstep := eval_write_of_safe hM hs (M.eval p.source s) s
    have hvalues : (ps.map fun q => M.eval q.source (M.write p.target (M.eval p.source s) s)) =
        ps.map fun q => M.eval q.source s := List.map_congr_left hstep
    have hwrites :
        (ps.map fun q =>
          (q.target, M.eval q.source (M.write p.target (M.eval p.source s) s))) =
        ps.map fun q => (q.target, M.eval q.source s) :=
      List.map_congr_left fun q hq => by rw [hstep q hq]
    rw [oneByOne, ih hM.tail (List.pairwise_cons.mp hs).2, atOnce, hvalues, hwrites]
    rfl

/-! ### Turns -/

/-- The turns of pairs that are carried out from a store on, where `value` says what is written. -/
def turns (value : Pair → Value) : List Pair → Store → List (Pair × Store)
  | [], _ => []
  | p :: ps, s => (p, s) :: turns value ps (M.write p.target (value p) s)

def last (value : Pair → Value) : List Pair → Store → Store
  | [], s => s
  | p :: ps, s => last value ps (M.write p.target (value p) s)

theorem last_eq_writeAll (value : Pair → Value) (pairs : List Pair) (s : Store) :
    M.last value pairs s = M.writeAll (pairs.map fun p => (p.target, value p)) s := by
  induction pairs generalizing s with
  | nil => rfl
  | cons p ps ih => exact ih _

theorem fst_mem_of_mem_turns {value : Pair → Value} {pairs : List Pair} {s : Store}
    {x : Pair × Store} (hx : x ∈ M.turns value pairs s) : x.1 ∈ pairs := by
  induction pairs generalizing s with
  | nil => cases hx
  | cons p ps ih =>
    rcases List.mem_cons.mp hx with rfl | hx
    · exact List.mem_cons_self
    · exact List.mem_cons_of_mem p (ih hx)

theorem exists_turn {value : Pair → Value} {pairs : List Pair} (s : Store) {p : Pair}
    (hp : p ∈ pairs) : ∃ now, (p, now) ∈ M.turns value pairs s := by
  induction pairs generalizing s with
  | nil => cases hp
  | cons q ps ih =>
    rcases List.mem_cons.mp hp with rfl | hp
    · exact ⟨s, List.mem_cons_self⟩
    · obtain ⟨now, hnow⟩ := ih (M.write q.target (value q) s) hp
      exact ⟨now, List.mem_cons_of_mem _ hnow⟩

/-! ### Cells -/

/-- A store seen as cells.  In each store a target has the cells that a write to it may change. -/
structure Layout (M : Semantics Store Value) (Cell : Type w) (Content : Type x) where
  look : Store → Cell → Content
  look_injective : Function.Injective look
  cells : Node → Store → Set Cell
  look_outside : ∀ target value s, ∀ c ∉ cells target s, look (M.write target value s) c = look s c

namespace Layout

variable {Cell : Type w} {Content : Type x} (L : M.Layout Cell Content) {value : Pair → Value}
  {pairs order : List Pair} {s : Store}

/-- In these turns no cell is written for two pairs. -/
def Apart (turns : List (Pair × Store)) : Prop :=
  ∀ x ∈ turns, ∀ y ∈ turns, x.1 ≠ y.1 →
    Disjoint (L.cells x.1.target x.2) (L.cells y.1.target y.2)

/-- Whether pairs are carried out in one order or in another, each target is written alike: what a
write puts into a cell in one of its turns, it puts there in the other. -/
def Alike (value : Pair → Value) (pairs order : List Pair) (s : Store) : Prop :=
  ∀ p now now', (p, now) ∈ M.turns value pairs s → (p, now') ∈ M.turns value order s →
    ∀ c ∈ L.cells p.target now ∪ L.cells p.target now',
      L.look (M.write p.target (value p) now') c = L.look (M.write p.target (value p) now) c

/-- A write to `t'` moves nothing of `t`: neither the cells of `t` nor what a write puts there. -/
def Unmoved (t t' : Node) : Prop :=
  ∀ value value' s, L.cells t (M.write t' value' s) = L.cells t s ∧
    ∀ c ∈ L.cells t s,
      L.look (M.write t value (M.write t' value' s)) c = L.look (M.write t value s) c

theorem look_last_of_untouched {c : Cell}
    (h : ∀ x ∈ M.turns value pairs s, c ∉ L.cells x.1.target x.2) :
    L.look (M.last value pairs s) c = L.look s c := by
  induction pairs generalizing s with
  | nil => rfl
  | cons p ps ih =>
    have hp := h (p, s) List.mem_cons_self
    rw [last, ih fun x hx => h x (List.mem_cons_of_mem _ hx)]
    exact L.look_outside p.target (value p) s c hp

/-- A cell that is written in no turn but one is what that turn made it. -/
theorem look_last_of_turn (hnodup : pairs.Nodup) {p : Pair} {now : Store}
    (hp : (p, now) ∈ M.turns value pairs s) {c : Cell}
    (h : ∀ x ∈ M.turns value pairs s, x.1 ≠ p → c ∉ L.cells x.1.target x.2) :
    L.look (M.last value pairs s) c = L.look (M.write p.target (value p) now) c := by
  induction pairs generalizing s with
  | nil => cases hp
  | cons q ps ih =>
    obtain ⟨hq, hps⟩ := List.nodup_cons.mp hnodup
    rw [last]
    rcases List.mem_cons.mp hp with heq | hp
    · obtain ⟨rfl, rfl⟩ := Prod.mk.inj heq
      refine L.look_last_of_untouched fun x hx => h x (List.mem_cons_of_mem _ hx) ?_
      rintro rfl
      exact hq (fst_mem_of_mem_turns hx)
    · exact ih hps hp fun x hx => h x (List.mem_cons_of_mem _ hx)

/-- **Two orders of the same pairs end in the same store exactly if they write each target alike**,
provided that no cell is written for two pairs. -/
theorem last_eq_iff (hnodup : pairs.Nodup) (hperm : order.Perm pairs)
    (hapart : L.Apart (M.turns value pairs s ++ M.turns value order s)) :
    M.last value order s = M.last value pairs s ↔ L.Alike value pairs order s := by
  have hother : ∀ {p now c}, (p, now) ∈ M.turns value pairs s ++ M.turns value order s →
      c ∈ L.cells p.target now →
      ∀ x ∈ M.turns value pairs s ++ M.turns value order s, x.1 ≠ p →
        c ∉ L.cells x.1.target x.2 :=
    fun hp hc x hx hne hcx => Set.disjoint_left.mp (hapart x hx _ hp hne) hcx hc
  -- in the cells of a turn both stores are what the turns of its pair made them
  have hlooks : ∀ {p now now' c}, (p, now) ∈ M.turns value pairs s →
      (p, now') ∈ M.turns value order s → c ∈ L.cells p.target now ∪ L.cells p.target now' →
      L.look (M.last value pairs s) c = L.look (M.write p.target (value p) now) c ∧
        L.look (M.last value order s) c = L.look (M.write p.target (value p) now') c := by
    intro p now now' c hp hp' hc
    have hother : ∀ x ∈ M.turns value pairs s ++ M.turns value order s, x.1 ≠ p →
        c ∉ L.cells x.1.target x.2 := by
      rcases hc with hc | hc
      · exact hother (List.mem_append_left _ hp) hc
      · exact hother (List.mem_append_right _ hp') hc
    exact ⟨L.look_last_of_turn hnodup hp fun x hx => hother x (List.mem_append_left _ hx),
      L.look_last_of_turn (hperm.nodup_iff.mpr hnodup) hp' fun x hx =>
        hother x (List.mem_append_right _ hx)⟩
  constructor
  · intro heq p now now' hp hp' c hc
    obtain ⟨hlook, hlook'⟩ := hlooks hp hp' hc
    rw [← hlook, ← hlook', heq]
  · intro halike
    apply L.look_injective
    funext c
    by_cases htouched : ∃ p now now', (p, now) ∈ M.turns value pairs s ∧
        (p, now') ∈ M.turns value order s ∧ c ∈ L.cells p.target now ∪ L.cells p.target now'
    · obtain ⟨p, now, now', hp, hp', hc⟩ := htouched
      obtain ⟨hlook, hlook'⟩ := hlooks hp hp' hc
      rw [hlook, hlook']
      exact halike p now now' hp hp' c hc
    · rw [L.look_last_of_untouched, L.look_last_of_untouched]
      · rintro ⟨p, now⟩ hp hc
        obtain ⟨now', hp'⟩ := exists_turn s (hperm.mem_iff.mpr (fst_mem_of_mem_turns hp))
        exact htouched ⟨p, now, now', hp, hp', Or.inl hc⟩
      · rintro ⟨p, now'⟩ hp' hc
        obtain ⟨now, hp⟩ := exists_turn s (hperm.mem_iff.mp (fst_mem_of_mem_turns hp'))
        exact htouched ⟨p, now, now', hp, hp', Or.inr hc⟩

/-- A target that no other write moves is written in its turn as it would be at first. -/
theorem turn_of_unmoved {p : Pair} (h : ∀ q ∈ pairs, q ≠ p → L.Unmoved p.target q.target)
    (hnodup : pairs.Nodup) {now : Store} (hp : (p, now) ∈ M.turns value pairs s) :
    L.cells p.target now = L.cells p.target s ∧ ∀ c ∈ L.cells p.target s,
      L.look (M.write p.target (value p) now) c = L.look (M.write p.target (value p) s) c := by
  induction pairs generalizing s with
  | nil => cases hp
  | cons q ps ih =>
    obtain ⟨hq, hps⟩ := List.nodup_cons.mp hnodup
    rcases List.mem_cons.mp hp with heq | hp
    · obtain ⟨_, rfl⟩ := Prod.mk.inj heq
      exact ⟨rfl, fun _ _ => rfl⟩
    · have hqp : q ≠ p := by
        rintro rfl
        exact hq (fst_mem_of_mem_turns hp)
      obtain ⟨hcells, hlook⟩ := h q List.mem_cons_self hqp (value p) (value q) s
      obtain ⟨hcells', hlook'⟩ := ih (fun r hr => h r (List.mem_cons_of_mem q hr)) hps hp
      refine ⟨hcells'.trans hcells, fun c hc => ?_⟩
      rw [hlook' c (hcells.symm ▸ hc), hlook c hc]

/-- Targets that do not move each other can be written in any order, if they have no common cell. -/
theorem last_eq_of_unmoved (hnodup : pairs.Nodup) (hperm : order.Perm pairs)
    (hdisjoint : ∀ p ∈ pairs, ∀ q ∈ pairs, p ≠ q →
      Disjoint (L.cells p.target s) (L.cells q.target s))
    (hunmoved : ∀ p ∈ pairs, ∀ q ∈ pairs, q ≠ p → L.Unmoved p.target q.target) :
    M.last value order s = M.last value pairs s := by
  have hfirst : ∀ x ∈ M.turns value pairs s ++ M.turns value order s,
      x.1 ∈ pairs ∧ L.cells x.1.target x.2 = L.cells x.1.target s ∧ ∀ c ∈ L.cells x.1.target s,
        L.look (M.write x.1.target (value x.1) x.2) c =
          L.look (M.write x.1.target (value x.1) s) c := by
    rintro ⟨p, now⟩ hx
    rcases List.mem_append.mp hx with hx | hx
    · have hp := fst_mem_of_mem_turns hx
      exact ⟨hp, L.turn_of_unmoved (hunmoved p hp) hnodup hx⟩
    · have hp := hperm.mem_iff.mp (fst_mem_of_mem_turns hx)
      exact ⟨hp, L.turn_of_unmoved (fun q hq => hunmoved p hp q (hperm.mem_iff.mp hq))
        (hperm.nodup_iff.mpr hnodup) hx⟩
  refine (L.last_eq_iff hnodup hperm fun x hx y hy hne => ?_).mpr fun p now now' hp hp' c hc => ?_
  · obtain ⟨hxp, hxcells, _⟩ := hfirst x hx
    obtain ⟨hyp, hycells, _⟩ := hfirst y hy
    rw [hxcells, hycells]
    exact hdisjoint x.1 hxp y.1 hyp hne
  · obtain ⟨_, hcells, hlook⟩ := hfirst _ (List.mem_append_left _ hp)
    obtain ⟨_, hcells', hlook'⟩ := hfirst _ (List.mem_append_right _ hp')
    dsimp only at hcells hlook hcells' hlook'
    rw [hcells, hcells', Set.union_self] at hc
    rw [hlook c hc, hlook' c hc]

end Layout

/-- **What the order found does.**  One after the other, in that order, every source of the
statement is evaluated to its value in the first store.  If no cell is written for two targets, the
last store is that of the parallel assignment exactly if each target is written in its turn as it is
there. That is so if in no store two targets have a cell in common and no write to one of them moves
another one. -/
theorem oneByOne_findOrder {Store : Type u} {Value : Type v} (M : Semantics Store Value)
    {targets sources : List Node} {known : List String} {pairs order : List Pair}
    (hpairs : Pair.ofLists targets sources known = .ok pairs)
    (horder : Pair.findOrder targets sources known = .ok order) (hM : M.Respects pairs)
    (s : Store) :
    order.Perm pairs ∧ (M.oneByOne order s).1 = (order.map fun p => M.eval p.source s) ∧
      ∀ (Cell : Type w) (Content : Type x) (L : M.Layout Cell Content),
        let value (p : Pair) := M.eval p.source s
        (L.Apart (M.turns value pairs s ++ M.turns value order s) →
          ((M.oneByOne order s).2 = M.atOnce pairs s ↔ L.Alike value pairs order s)) ∧
        ((∀ s, targets.Pairwise fun t t' => Disjoint (L.cells t s) (L.cells t' s)) →
          (targets.Pairwise fun t t' => L.Unmoved t t' ∧ L.Unmoved t' t) →
            (M.oneByOne order s).2 = M.atOnce pairs s) := by
  have hsafe := Pair.safeOrder_of_findOrder hpairs horder
  have hnodup := (Pair.numbered_of_ofLists hpairs).nodup
  have hrun := oneByOne_eq order (hM.of_perm hsafe.perm) hsafe.safe s
  refine ⟨hsafe.perm, by rw [hrun], fun Cell Content L => ?_⟩
  intro value
  have hlast : ∀ ps : List Pair, M.last value ps s = M.atOnce ps s :=
    fun ps => M.last_eq_writeAll value ps s
  rw [hrun]
  dsimp only
  rw [← hlast order, ← hlast pairs]
  refine ⟨fun hapart => L.last_eq_iff hnodup hsafe.perm hapart, fun hdisjoint hunmoved => ?_⟩
  rw [← Pair.map_target_of_ofLists hpairs] at hdisjoint hunmoved
  simp only [List.pairwise_map] at hdisjoint hunmoved
  have hsymm : Std.Symm fun p q : Pair => Disjoint (L.cells p.target s) (L.cells q.target s) :=
    ⟨fun _ _ h => h.symm⟩
  have hsymm' : Std.Symm fun p q : Pair =>
      L.Unmoved p.target q.target ∧ L.Unmoved q.target p.target :=
    ⟨fun _ _ h => h.symm⟩
  exact L.last_eq_of_unmoved hnodup hsafe.perm
    (fun p hp q hq hne => (hdisjoint s).forall hp hq hne)
    fun p hp q hq hne => (hunmoved.forall hp hq hne.symm).1

/-! ### Stores of variables and objects -/

/-- Where a number is stored: in a variable, or in the field `next` of an object. -/
inductive Spot where
  | named (name : String)
  | next (object : Nat)
  deriving DecidableEq

/-- `x.next` is the spot of the object whose number `x` holds. -/
def Spot.of? (s : Spot → Nat) : Node → Option Spot
  | .var _ _ x => some (.named x)
  | .send _ (some (.var _ _ x)) _ _ => some (.next (s (.named x)))
  | _ => none

/-- Anything but a variable or a field is worth `1`. -/
def linked : Semantics (Spot → Nat) Nat where
  eval n s := ((Spot.of? s n).map s).getD 1
  write n value s :=
    match Spot.of? s n with
    | some spot => Function.update s spot value
    | none => s

def linkedLayout : linked.Layout Spot Nat where
  look := id
  look_injective := Function.injective_id
  cells n s := { spot | Spot.of? s n = some spot }
  look_outside target value s c hc := by
    show (match Spot.of? s target with
      | some spot => Function.update s spot value
      | none => s) c = s c
    cases hspot : Spot.of? s target with
    | none => rfl
    | some spot =>
      refine Function.update_of_ne ?_ value s
      rintro rfl
      exact hc hspot

/-- `a, b = 1, a` is `b = a` and then `a = 1`. -/
theorem oneByOne_findOrder_reader_first :
    let a : Node := .var none .localVar "a"
    let b : Node := .var none .localVar "b"
    let one : Node := .literal none .integer "1" [] true
    let first : Pair := ⟨0, a, one, none⟩
    let second : Pair := ⟨1, b, a, none⟩
    Pair.ofLists [a, b] [one, a] [] = .ok [first, second] ∧
      Pair.findOrder [a, b] [one, a] [] = .ok [second, first] ∧
      linked.Respects [first, second] ∧
      ∀ s, (linked.oneByOne [second, first] s).1 = [s (.named "a"), 1] ∧
        (linked.oneByOne [second, first] s).2 = linked.atOnce [first, second] s := by
  intro a b one first second
  have hpairs : Pair.ofLists [a, b] [one, a] [] = .ok [first, second] := rfl
  have horder : Pair.findOrder [a, b] [one, a] [] = .ok [second, first] := by cbv
  have hreads : second.reads first = true := by decide +kernel
  have hne : Spot.named "a" ≠ Spot.named "b" := by decide
  have hM : linked.Respects [first, second] := by
    intro p hp q hq hr value s
    rcases List.mem_pair.mp hp with rfl | rfl <;> rcases List.mem_pair.mp hq with rfl | rfl
    · rfl
    · rfl
    · rw [hreads] at hr
      cases hr
    · exact Function.update_of_ne hne value s
  refine ⟨hpairs, horder, hM, fun s => ?_⟩
  obtain ⟨_, hvalues, hlayout⟩ := oneByOne_findOrder linked hpairs horder hM s
  obtain ⟨_, hstore⟩ := hlayout Spot Nat linkedLayout
  -- a variable is the same spot in every store
  have hunmoved : ∀ kind kind' name name', linkedLayout.Unmoved (.var none kind name)
      (.var none kind' name') := by
    intro kind kind' name name' value value' s
    refine ⟨rfl, fun c hc => ?_⟩
    obtain rfl : Spot.named name = c := Option.some.inj hc
    simp [linkedLayout, linked, Spot.of?]
  refine ⟨hvalues, hstore (fun s => ?_) ?_⟩
  · refine List.pairwise_pair.mpr (Set.disjoint_left.mpr fun c hc hc' => hne ?_)
    exact (Option.some.inj hc).trans (Option.some.inj hc').symm
  · exact List.pairwise_pair.mpr ⟨hunmoved _ _ _ _, hunmoved _ _ _ _⟩

/-- `node` is object 1, the object after it is 3, and `prev` is object 2. -/
def threeObjects : Spot → Nat
  | .named name => if name = "node" then 1 else 2
  | .next _ => 3

/-- **A write can move another target.**  `node.next, node = prev, node.next` is `node = node.next`
and then `node.next = prev`.  The two targets never have a cell in common, but the receiver of the
second one is the new `node`, so that `prev` ends up in another object than in the parallel
assignment. -/
theorem oneByOne_receiver_moved :
    let node : Node := .var none .localVar "node"
    let prev : Node := .var none .localVar "prev"
    let next : Node := .send none (some node) "next" []
    let setter : Node := .send none (some node) "next=" []
    let first : Pair := ⟨0, setter, prev, none⟩
    let second : Pair := ⟨1, node, next, none⟩
    Pair.ofLists [setter, node] [prev, next] ["node", "prev"] = .ok [first, second] ∧
      Pair.findOrder [setter, node] [prev, next] ["node", "prev"] = .ok [second, first] ∧
      linked.Respects [first, second] ∧
      (∀ s s', Disjoint (linkedLayout.cells setter s) (linkedLayout.cells node s')) ∧
      ∃ s, (linked.oneByOne [second, first] s).2 ≠ linked.atOnce [first, second] s := by
  intro node prev next setter first second
  have hreads : second.reads first = true ∧ second.reads second = true := by
    constructor <;> decide +kernel
  refine ⟨rfl, by cbv, ?_, fun s s' => ?_, ?_⟩
  · intro p hp q hq hr value s
    rcases List.mem_pair.mp hp with rfl | rfl
    · rcases List.mem_pair.mp hq with rfl | rfl
      · have hne : Spot.named "prev" ≠ .next (s (.named "node")) := Spot.noConfusion
        exact Function.update_of_ne hne value s
      · have hne : Spot.named "prev" ≠ .named "node" := by decide
        exact Function.update_of_ne hne value s
    · rcases List.mem_pair.mp hq with rfl | rfl
      · rw [hreads.1] at hr
        cases hr
      · rw [hreads.2] at hr
        cases hr
  · refine Set.disjoint_left.mpr fun c hc hc' => ?_
    cases (Option.some.inj hc).trans (Option.some.inj hc').symm
  · refine ⟨threeObjects, fun heq => ?_⟩
    have hcell := congrFun heq (.next 1)
    exact absurd hcell (by decide)

end Semantics

end MultiAssign
