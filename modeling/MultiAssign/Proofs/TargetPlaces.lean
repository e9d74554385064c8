import MultiAssign.Proofs.SafeOrder
import Mathlib.Data.List.Pairwise
import Mathlib.Data.List.Perm.Basic

/-!
# Where a target is

A setter has a receiver and may have index arguments, and they say where it writes.  If a sequence
of assignments overwrites what they read before the setter has its turn, the setter writes to
another place than it would in the parallel assignment: `node.next, node = prev, node.next` becomes
`node = node.next` and `node.next = prev` (`locator_overwritten`).

The search looks at sources only, so nothing keeps a pair whose target is located through what
another writes before that other one.  Only a source can do it, by a chain of reads from pair to
pair: then the pair comes first in every safe order.  `located_in_every_arrangement_iff` says that
there is no other case.  Without such a chain, the statement that lists the overwriting pair first
is split into a sequence that overwrites first.
-/

namespace MultiAssign

namespace Node

mutual

/-- The expressions by which a target finds the place it writes: the receivers and the index
arguments of its setters. -/
def locators : Node → List Node
  | send _ receiver method arguments =>
    if isSetter method then receiver.toList ++ arguments else []
  | nested _ targets => locatorsList targets
  | splat _ (some value) => locators value
  | _ => []

def locatorsList : List Node → List Node
  | [] => []
  | t :: ts => locators t ++ locatorsList ts

end

theorem mem_localNamesList {name : String} {targets : List Node} :
    name ∈ localNamesList targets ↔ ∃ t ∈ targets, name ∈ t.localNames := by
  induction targets with
  | nil => simp [localNamesList]
  | cons t ts ih => simp [localNamesList, ih]

/-- The analysis of a source depends on which names are local, and on nothing else of the list. -/
theorem withSelf_congr {locals locals' : List String} (h : ∀ name, name ∈ locals ↔ name ∈ locals')
    (source : Node) : source.withSelf locals = source.withSelf locals' := by
  have hcontains : ∀ name, locals.contains name = locals'.contains name := by
    intro name
    rw [Bool.eq_iff_iff, List.contains_iff_mem, List.contains_iff_mem]
    exact h name
  unfold withSelf selfCall?
  simp only [hcontains]

end Node

namespace Pair

open Relation

/-- The target of `p` is located through what the target of `q` writes. -/
def locatedThrough (p q : Pair) : Bool := p.target.locators.any fun e => e.readsTarget q.target

/-- No pair locates its target through what a pair before it writes. -/
def Located (order : List Pair) : Prop :=
  order.Pairwise fun earlier later => later.locatedThrough earlier = false

instance (order : List Pair) : Decidable (Located order) :=
  inferInstanceAs (Decidable (order.Pairwise _))

/-- Of two pairs of a list, the first reads what the second writes. -/
def ReadsIn (pairs : List Pair) (p q : Pair) : Prop := p ∈ pairs ∧ q ∈ pairs ∧ p.reads q

/-- Whichever pair locates its target through what another one writes, reads it in its source, if
only by way of other pairs. -/
def Covered (pairs : List Pair) : Prop :=
  ∀ p ∈ pairs, ∀ q ∈ pairs, p ≠ q → p.locatedThrough q → TransGen (ReadsIn pairs) p q

variable {targets sources targets' sources' : List Node} {known : List String}
  {pairs pairs' order : List Pair}

/-! ### Chains of reads -/

theorem Numbered.leads_of_readsIn (h : Numbered pairs) {p q : Pair} (hpq : ReadsIn pairs p q) :
    ReflTransGen (Order.Edge (readers pairs)) q.index p.index := by
  by_cases he : p = q
  · rw [he]
  · exact .single ((h.edge_iff hpq.2.1 hpq.1).mpr ⟨hpq.2.2, he⟩)

/-- A chain of reads is a way of the search, from its end to its start. -/
theorem Numbered.leads_of_transGen (h : Numbered pairs) {p q : Pair}
    (hpq : TransGen (ReadsIn pairs) p q) :
    ReflTransGen (Order.Edge (readers pairs)) q.index p.index := by
  induction hpq with
  | single hr => exact h.leads_of_readsIn hr
  | tail _ hr ih => exact (h.leads_of_readsIn hr).trans ih

theorem Numbered.transGen_of_leads (h : Numbered pairs) {q : Pair} (hq : q ∈ pairs) {r : Nat}
    (hr : TransGen (Order.Edge (readers pairs)) q.index r) :
    ∃ p ∈ pairs, p.index = r ∧ TransGen (ReadsIn pairs) p q := by
  induction hr with
  | single he =>
    obtain ⟨p, hp, hread, hi⟩ := (h.mem_readers hq).mp he.1
    exact ⟨p, hp, hi, .single ⟨hp, hq, hread⟩⟩
  | tail _ he ih =>
    obtain ⟨w, hw, rfl, hwq⟩ := ih
    obtain ⟨p, hp, hread, hi⟩ := (h.mem_readers hw).mp he.1
    exact ⟨p, hp, hi, .head ⟨hp, hw, hread⟩ hwq⟩

/-- In a safe order no pair comes after one that it reads, also not by way of others. -/
theorem SafeOrder.pairwise_not_transGen (h : Numbered pairs) (hsafe : SafeOrder pairs order) :
    order.Pairwise fun earlier later => ¬ TransGen (ReadsIn pairs) later earlier := by
  have hleads := Order.pairwise_not_leads h.bounded (h.map_index_perm hsafe.perm)
    ((h.safe_iff hsafe.perm).mp hsafe.safe)
  rw [List.pairwise_map] at hleads
  exact hleads.imp fun hq hpq => hq (h.leads_of_transGen hpq)

/-- **What the order found puts before the first pair reads it**, if only by way of others. -/
theorem Numbered.transGen_of_before_first (h : Numbered pairs)
    (horder : Pair.order pairs = .ok order) {p q : Pair} (hq : q ∈ pairs) (hzero : q.index = 0)
    (hpq : [p, q].Sublist order) : TransGen (ReadsIn pairs) p q := by
  obtain ⟨hind, hperm⟩ := h.ofReaders_of_order horder
  have hpos : 0 < pairs.length := hzero ▸ h.index_lt hq
  obtain ⟨before, after, hsplit, hbefore⟩ := Order.leads_of_before_zero hind hpos
  have hnd : (before ++ 0 :: after).Nodup :=
    hsplit ▸ (Order.perm_of_ofReaders hind).nodup_iff.mpr List.nodup_range
  have hpair := hpq.map index
  rw [hsplit, List.map_cons, List.map_cons, List.map_nil, hzero] at hpair
  have hmem := Order.mem_of_pair_sublist hnd hpair
  rw [← hzero] at hbefore
  obtain ⟨p', hp', hi, hchain⟩ := h.transGen_of_leads hq (hbefore _ hmem)
  have hp : p ∈ pairs := hperm.mem_iff.mp (hpq.subset List.mem_cons_self)
  rwa [h.eq_of_index_eq hp' hp hi] at hchain

/-! ### The same assignments in another arrangement -/

theorem exists_perm_map_eq {α β : Type} {f : α → β} {l : List α} {m : List β}
    (h : m.Perm (l.map f)) : ∃ l' : List α, l'.Perm l ∧ l'.map f = m := by
  have hsame : List.Forall₂ (fun b a => b = f a) (l.map f) l :=
    List.forall₂_map_left_iff.mpr (List.forall₂_same.mpr fun _ _ => rfl)
  obtain ⟨l', hl', hperm⟩ := List.perm_comp_forall₂ h hsame
  rw [← List.forall₂_map_right_iff, List.forall₂_eq_eq_eq] at hl'
  exact ⟨l', hperm, hl'.symm⟩

/-- Two lists of pairs hold the same assignments, and the analysis makes the same of them. -/
structure Rearranged (pairs pairs' : List Pair) : Prop where
  perm : (pairs'.map content).Perm (pairs.map content)
  reads_eq : ∀ p ∈ pairs, ∀ q ∈ pairs, ∀ p' ∈ pairs', ∀ q' ∈ pairs',
    p'.content = p.content → q'.content = q.content → p'.reads q' = p.reads q

theorem Rearranged.symm (h : Rearranged pairs pairs') : Rearranged pairs' pairs where
  perm := h.perm.symm
  reads_eq p' hp' q' hq' p hp q hq hpp hqq :=
    (h.reads_eq p hp q hq p' hp' q' hq' hpp.symm hqq.symm).symm

/-- The local variables of a statement do not depend on how it is arranged, so neither do its
readers. -/
theorem rearranged_of_ofLists (hpairs : ofLists targets sources known = .ok pairs)
    (hpairs' : ofLists targets' sources' known = .ok pairs')
    (hperm : (targets'.zip sources').Perm (targets.zip sources)) : Rearranged pairs pairs' := by
  rw [← map_content_of_ofLists hpairs, ← map_content_of_ofLists hpairs'] at hperm
  have htargets : targets'.Perm targets := by
    have := hperm.map Prod.fst
    rw [List.map_map, List.map_map] at this
    rwa [← map_target_of_ofLists hpairs, ← map_target_of_ofLists hpairs']
  have hlocals : ∀ name, name ∈ Node.localNamesList targets' ++ known ↔
      name ∈ Node.localNamesList targets ++ known := by
    intro name
    simp only [List.mem_append, Node.mem_localNamesList, htargets.mem_iff]
  refine ⟨hperm, fun p hp q hq p' hp' q' hq' hpp hqq => ?_⟩
  obtain ⟨_, hsource⟩ := Prod.mk.inj hpp
  obtain ⟨htarget, _⟩ := Prod.mk.inj hqq
  rw [reads, reads, analyzed_of_ofLists hpairs hp, analyzed_of_ofLists hpairs' hp', hsource,
    htarget, Node.withSelf_congr hlocals]

theorem Rearranged.exists_mem (h : Rearranged pairs pairs') {p' : Pair} (hp' : p' ∈ pairs') :
    ∃ p ∈ pairs, p.content = p'.content :=
  List.mem_map.mp (h.perm.mem_iff.mp (List.mem_map_of_mem hp'))

/-- Two pairs have two counterparts, also where both assign the same source to the same target. -/
theorem Rearranged.exists_ne (h : Rearranged pairs pairs') (hnd : pairs.Nodup) {p' q' : Pair}
    (hp' : p' ∈ pairs') (hq' : q' ∈ pairs') (hne : p' ≠ q') :
    ∃ p ∈ pairs, ∃ q ∈ pairs, p ≠ q ∧ p.content = p'.content ∧ q.content = q'.content := by
  obtain ⟨aligned, hperm, hmap⟩ := exists_perm_map_eq h.perm
  have hcounterpart : ∀ {i : Nat} {r' : Pair}, pairs'[i]? = some r' →
      ∃ r, aligned[i]? = some r ∧ r.content = r'.content := by
    intro i r' hr'
    have : (aligned.map content)[i]? = some r'.content := by rw [hmap, List.getElem?_map, hr']; rfl
    rw [List.getElem?_map] at this
    exact Option.map_eq_some_iff.mp this
  obtain ⟨i, hi⟩ := List.mem_iff_getElem?.mp hp'
  obtain ⟨j, hj⟩ := List.mem_iff_getElem?.mp hq'
  obtain ⟨p, hp, hpc⟩ := hcounterpart hi
  obtain ⟨q, hq, hqc⟩ := hcounterpart hj
  refine ⟨p, hperm.mem_iff.mp (List.mem_of_getElem? hp), q,
    hperm.mem_iff.mp (List.mem_of_getElem? hq), ?_, hpc, hqc⟩
  rintro rfl
  have hlt : i < aligned.length := (List.getElem?_eq_some_iff.mp hp).1
  have hij : i = j :=
    (List.getElem?_inj hlt (hperm.nodup_iff.mpr hnd)).mp (hp.trans hq.symm)
  rw [hij, hj] at hi
  exact hne (Option.some.inj hi).symm

theorem Rearranged.transGen (h : Rearranged pairs pairs') {p q p' q' : Pair}
    (hchain : TransGen (ReadsIn pairs') p' q') (hp : p ∈ pairs) (hq : q ∈ pairs)
    (hpp : p.content = p'.content) (hqq : q.content = q'.content) :
    TransGen (ReadsIn pairs) p q := by
  induction hchain generalizing q with
  | single hr =>
    refine .single ⟨hp, hq, ?_⟩
    rw [← h.reads_eq p hp q hq p' hr.1 _ hr.2.1 hpp.symm hqq.symm]
    exact hr.2.2
  | tail _ hr ih =>
    obtain ⟨w, hw, hww⟩ := h.exists_mem hr.1
    refine .tail (ih hw hww) ⟨hw, hq, ?_⟩
    rw [← h.reads_eq w hw q hq _ hr.1 _ hr.2.1 hww.symm hqq.symm]
    exact hr.2.2

theorem locatedThrough_eq {p q p' q' : Pair} (hp : p.content = p'.content)
    (hq : q.content = q'.content) : p.locatedThrough q = p'.locatedThrough q' := by
  rw [locatedThrough, locatedThrough, (Prod.mk.inj hp).1, (Prod.mk.inj hq).1]

theorem Rearranged.covered (h : Rearranged pairs pairs') (hnd : pairs.Nodup)
    (hcov : Covered pairs) : Covered pairs' := by
  intro p' hp' q' hq' hne hloc
  obtain ⟨p, hp, q, hq, hpq, hpp, hqq⟩ := h.exists_ne hnd hp' hq' hne
  rw [← locatedThrough_eq hpp hqq] at hloc
  exact h.symm.transGen (hcov p hp q hq hpq hloc) hp' hq' hpp.symm hqq.symm

theorem Rearranged.exists_safeOrder (h : Rearranged pairs pairs') (hsafe : SafeOrder pairs order) :
    ∃ good, SafeOrder pairs' good := by
  obtain ⟨good, hperm, hmap⟩ := exists_perm_map_eq ((hsafe.perm.map content).trans h.perm.symm)
  refine ⟨good, hperm, List.pairwise_iff_forall_sublist.mpr fun {q' p'} hsub => ?_⟩
  -- the two stand in the same order among the pairs of the first arrangement
  have hsub' := hsub.map content
  rw [hmap] at hsub'
  obtain ⟨two, htwo, heq⟩ := List.sublist_map_iff.mp hsub'
  obtain ⟨q, rest, rfl, hqq, hrest⟩ := List.map_eq_cons_iff.mp heq.symm
  obtain ⟨p, others, rfl, hpp, hothers⟩ := List.map_eq_cons_iff.mp hrest
  obtain rfl := List.map_eq_nil_iff.mp hothers
  have hmem : ∀ r ∈ [q, p], r ∈ pairs := fun r hr => hsafe.perm.mem_iff.mp (htwo.subset hr)
  have hmem' : ∀ r ∈ [q', p'], r ∈ pairs' := fun r hr => hperm.mem_iff.mp (hsub.subset hr)
  rw [h.reads_eq p (hmem p (by simp)) q (hmem q (by simp)) p' (hmem' p' (by simp)) q'
    (hmem' q' (by simp)) hpp.symm hqq.symm]
  exact hsafe.safe.forall_sublist htwo

/-! ### Orders that keep every target where it is -/

/-- Pairs that are covered stay located in every safe order. -/
theorem SafeOrder.located (h : Numbered pairs) (hsafe : SafeOrder pairs order)
    (hcov : Covered pairs) : Located order := by
  have hnd : order.Pairwise (· ≠ ·) := hsafe.perm.nodup_iff.mpr h.nodup
  refine ((hsafe.pairwise_not_transGen h).and hnd).imp_of_mem fun {q p} hq hp hqp => ?_
  refine Bool.eq_false_iff.mpr fun hloc => hqp.1 ?_
  exact hcov p (hsafe.perm.mem_iff.mp hp) q (hsafe.perm.mem_iff.mp hq) hqp.2.symm hloc

theorem exists_ofLists (h : targets.length = sources.length) (known : List String) :
    ∃ pairs, ofLists targets sources known = .ok pairs :=
  ⟨_, ofLists_eq_ok_iff.mpr ⟨h, rfl⟩⟩

theorem exists_first (hpairs : ofLists targets sources known = .ok pairs) {q : Pair}
    (hq : q ∈ pairs) : ∃ targets' sources' q' rest,
      targets'.length = sources'.length ∧ (targets'.zip sources').Perm (targets.zip sources) ∧
      ofLists targets' sources' known = .ok (q' :: rest) ∧ q'.content = q.content ∧
      ∀ p ∈ pairs, p ≠ q → ∃ p' ∈ rest, p'.content = p.content := by
  obtain ⟨left, right, rfl⟩ := List.append_of_mem hq
  let contents := (q :: (left ++ right)).map content
  have hlen : (contents.map Prod.fst).length = (contents.map Prod.snd).length := by
    simp only [List.length_map]
  have hzip : (contents.map Prod.fst).zip (contents.map Prod.snd) = contents :=
    (List.zip_of_prod rfl rfl).symm
  obtain ⟨pairs', hpairs'⟩ := exists_ofLists hlen known
  have hmap := map_content_of_ofLists hpairs'
  rw [hzip] at hmap
  obtain ⟨q', rest, rfl, hqq, hrest⟩ := List.map_eq_cons_iff.mp hmap
  refine ⟨_, _, q', rest, hlen, ?_, hpairs', hqq, ?_⟩
  · rw [hzip, ← map_content_of_ofLists hpairs]
    exact List.perm_middle.symm.map content
  · intro p hp hne
    have hp' : p ∈ left ++ right := by
      rcases List.mem_append.mp hp with hp | hp
      · exact List.mem_append_left right hp
      · exact List.mem_append_right left ((List.mem_cons.mp hp).resolve_left hne)
    exact List.mem_map.mp (hrest ▸ List.mem_map_of_mem hp')

/-- **Targets stay where they are exactly if sources keep them there.**  Given a statement that is
split, every arrangement of its assignments is split into a sequence in which no target is located
through what was overwritten before, if and only if every pair that locates its target through what
another one writes also reads that in its source, directly or by way of other pairs. -/
theorem located_in_every_arrangement_iff (hpairs : ofLists targets sources known = .ok pairs)
    (horder : findOrder targets sources known = .ok order) :
    (∀ targets' sources', targets'.length = sources'.length →
      (targets'.zip sources').Perm (targets.zip sources) →
        ∃ order', findOrder targets' sources' known = .ok order' ∧ Located order') ↔
      Covered pairs := by
  have hnum := numbered_of_ofLists hpairs
  have hsafe := safeOrder_of_findOrder hpairs horder
  constructor
  · intro hall p hp q hq hne hloc
    obtain ⟨targets', sources', q', rest, hlen, hperm, hpairs', hqq, hrest⟩ :=
      exists_first hpairs hq
    obtain ⟨order', horder', hlocated⟩ := hall targets' sources' hlen hperm
    have hnum' := numbered_of_ofLists hpairs'
    have hperm' := (safeOrder_of_findOrder hpairs' horder').perm
    rw [findOrder_of_ofLists hpairs'] at horder'
    obtain ⟨p', hp', hpp⟩ := hrest p hp hne
    have hne' : p' ≠ q' := fun he => (List.nodup_cons.mp hnum'.nodup).1 (he ▸ hp')
    have hp'm : p' ∈ q' :: rest := List.mem_cons_of_mem q' hp'
    -- `q` is listed first and `p` is located through it, so `p` has to be emitted before it
    have hbefore : [p', q'].Sublist order' := by
      refine pair_sublist_of_pairwise hlocated (hperm'.mem_iff.mpr hp'm)
        (hperm'.mem_iff.mpr List.mem_cons_self) hne' ?_
      rw [locatedThrough_eq hpp hqq, hloc]
      exact Bool.noConfusion
    have hchain := hnum'.transGen_of_before_first horder' List.mem_cons_self
      (hnum'.index_of_getElem? rfl) hbefore
    exact (rearranged_of_ofLists hpairs hpairs' hperm).transGen hchain hp hq hpp.symm hqq.symm
  · intro hcov targets' sources' hlen hperm
    obtain ⟨pairs', hpairs'⟩ := exists_ofLists hlen known
    have hre := rearranged_of_ofLists hpairs hpairs' hperm
    obtain ⟨good, hgood⟩ := hre.exists_safeOrder hsafe
    obtain ⟨order', horder'⟩ := exists_findOrder_of_safeOrder hpairs' hgood
    exact ⟨order', horder', (safeOrder_of_findOrder hpairs' horder').located
      (numbered_of_ofLists hpairs') (hre.covered hnum.nodup hcov)⟩

/-- In `a.b, a = a, 1` the source of `a.b` reads `a`, so `a.b` is assigned first wherever it is
listed. -/
theorem located_in_every_arrangement_covered :
    let a : Node := .var none .localVar "a"
    let one : Node := .literal none .integer "1" [] true
    let setter : Node := .send none (some a) "b=" []
    ofLists [setter, a] [a, one] [] = .ok [⟨0, setter, a, none⟩, ⟨1, a, one, none⟩] ∧
      findOrder [setter, a] [a, one] [] = .ok [⟨0, setter, a, none⟩, ⟨1, a, one, none⟩] ∧
      ∀ targets' sources', targets'.length = sources'.length →
        (targets'.zip sources').Perm ([setter, a].zip [a, one]) →
          ∃ order', findOrder targets' sources' [] = .ok order' ∧ Located order' := by
  intro a one setter
  have hpairs : ofLists [setter, a] [a, one] [] =
      .ok [⟨0, setter, a, none⟩, ⟨1, a, one, none⟩] := rfl
  have horder : findOrder [setter, a] [a, one] [] =
      .ok [⟨0, setter, a, none⟩, ⟨1, a, one, none⟩] := by cbv
  refine ⟨hpairs, horder, (located_in_every_arrangement_iff hpairs horder).mpr ?_⟩
  intro p hp q hq hne hloc
  rcases List.mem_pair.mp hp with rfl | rfl
  · refine .single ⟨hp, hq, ?_⟩
    rcases List.mem_pair.mp hq with rfl | rfl
    · exact absurd rfl hne
    · decide +kernel
  · exact absurd hloc Bool.false_ne_true

/-- `node.next, node = prev, node.next` is `node = node.next` and then `node.next = prev`, which
writes to the `next` of the new `node`. -/
theorem locator_overwritten :
    let node : Node := .var none .localVar "node"
    let prev : Node := .var none .localVar "prev"
    let next : Node := .send none (some node) "next" []
    let setter : Node := .send none (some node) "next=" []
    let first : Pair := ⟨0, setter, prev, none⟩
    let second : Pair := ⟨1, node, next, none⟩
    findOrder [setter, node] [prev, next] ["node", "prev"] = .ok [second, first] ∧
      node ∈ first.target.locators ∧ node.readsTarget second.target ∧
      ¬ Located [second, first] := by
  intro node prev next setter first second
  have horder : findOrder [setter, node] [prev, next] ["node", "prev"] = .ok [second, first] := by
    cbv
  have hmem : node ∈ first.target.locators := List.mem_cons_self
  have hread : node.readsTarget second.target := by decide +kernel
  refine ⟨horder, hmem, hread, fun hlocated => ?_⟩
  have hfalse : first.locatedThrough second = false :=
    (List.pairwise_cons.mp hlocated).1 first List.mem_cons_self
  exact absurd (List.any_eq_true.mpr ⟨node, hmem, hread⟩) (Bool.eq_false_iff.mp hfalse)

end Pair

end MultiAssign
