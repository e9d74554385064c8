import MultiAssign.Inspection
import MultiAssign.Proofs.Emission

/-!
# Safe orders

An order of the pairs of a parallel assignment is safe if no pair reads what a pair before it
writes.  `safeOrder_of_findOrder` says that the order found is a safe order of all pairs, and
`exists_findOrder_of_safeOrder` that one is found wherever there is one.  So the verdict on a
statement is settled by the existence of a safe order, whatever the search does to find it:
`verdict_splittable_iff_exists_safeOrder`.

The search goes by numbers and the statement by pairs.  What joins them is `Numbered`: a pair's
index is its place in the list, so an edge between two numbers is a read between two pairs
(`edge_iff`).
-/

namespace MultiAssign

namespace Pair

/-- No pair reads what a pair before it writes. -/
def Safe (order : List Pair) : Prop :=
  order.Pairwise fun earlier later => later.reads earlier = false

instance (order : List Pair) : Decidable (Safe order) :=
  inferInstanceAs (Decidable (order.Pairwise _))

/-- All of the pairs, each once, in an order that is safe. -/
structure SafeOrder (pairs order : List Pair) : Prop where
  perm : order.Perm pairs
  safe : Safe order

/-! ### The pairs of two lists -/

theorem zipFrom_eq_map (locals : List String) : ∀ (n : Nat) (targets sources : List Node),
    zipFrom locals n targets sources = ((targets.zip sources).zipIdx n).map fun a =>
      ⟨a.2, a.1.1, a.1.2, a.1.2.selfCall? locals⟩ := by
  intro n targets
  induction targets generalizing n with
  | nil => intro sources; rfl
  | cons t ts ih =>
    intro sources
    cases sources with
    | nil => rfl
    | cons s ss => rw [zipFrom, ih, List.zip_cons_cons, List.zipIdx_cons, List.map_cons]

def content (p : Pair) : Node × Node := (p.target, p.source)

variable {targets sources : List Node} {known : List String} {pairs : List Pair}

theorem ofLists_eq_ok_iff : ofLists targets sources known = .ok pairs ↔
    targets.length = sources.length ∧
      pairs = zipFrom (Node.localNamesList targets ++ known) 0 targets sources := by
  unfold ofLists
  split
  · next h => simp [h, eq_comm]
  · next h => simp [h]

theorem map_content_of_ofLists (h : ofLists targets sources known = .ok pairs) :
    pairs.map content = targets.zip sources := by
  obtain ⟨_, rfl⟩ := ofLists_eq_ok_iff.mp h
  rw [zipFrom_eq_map, List.map_map]
  exact List.zipIdx_map_fst 0 _

theorem map_target_of_ofLists (h : ofLists targets sources known = .ok pairs) :
    pairs.map target = targets := by
  have hlen := (ofLists_eq_ok_iff.mp h).1
  rw [← List.map_fst_zip (Nat.le_of_eq hlen), ← map_content_of_ofLists h, List.map_map]
  rfl

theorem map_source_of_ofLists (h : ofLists targets sources known = .ok pairs) :
    pairs.map source = sources := by
  have hlen := (ofLists_eq_ok_iff.mp h).1
  rw [← List.map_snd_zip (Nat.le_of_eq hlen.symm), ← map_content_of_ofLists h, List.map_map]
  rfl

theorem analyzed_of_ofLists (h : ofLists targets sources known = .ok pairs) {p : Pair}
    (hp : p ∈ pairs) : p.analyzed = p.source.withSelf (Node.localNamesList targets ++ known) := by
  obtain ⟨_, rfl⟩ := ofLists_eq_ok_iff.mp h
  rw [zipFrom_eq_map] at hp
  obtain ⟨a, _, rfl⟩ := List.mem_map.mp hp
  rfl

/-! ### Numbers of pairs -/

def Numbered (pairs : List Pair) : Prop := pairs.map index = List.range pairs.length

theorem numbered_of_ofLists (h : ofLists targets sources known = .ok pairs) : Numbered pairs := by
  obtain ⟨_, rfl⟩ := ofLists_eq_ok_iff.mp h
  rw [zipFrom_eq_map, Numbered, List.length_map, List.length_zipIdx, List.range_eq_range',
    ← List.zipIdx_map_snd 0, List.map_map]
  rfl

theorem Numbered.nodup (h : Numbered pairs) : pairs.Nodup := by
  refine List.Nodup.of_map index ?_
  rw [h]
  exact List.nodup_range

theorem Numbered.index_of_getElem? (h : Numbered pairs) {i : Nat} {p : Pair}
    (hp : pairs[i]? = some p) : p.index = i := by
  have hi : (pairs.map index)[i]? = some p.index := by rw [List.getElem?_map, hp]; rfl
  rw [h, List.getElem?_eq_some_iff] at hi
  obtain ⟨_, hi⟩ := hi
  rw [← hi, List.getElem_range]

theorem Numbered.getElem?_index (h : Numbered pairs) {p : Pair} (hp : p ∈ pairs) :
    pairs[p.index]? = some p := by
  obtain ⟨i, hi⟩ := List.mem_iff_getElem?.mp hp
  rw [h.index_of_getElem? hi, hi]

theorem Numbered.index_lt (h : Numbered pairs) {p : Pair} (hp : p ∈ pairs) :
    p.index < pairs.length := by
  have := h.getElem?_index hp
  exact (List.getElem?_eq_some_iff.mp this).1

theorem Numbered.eq_of_index_eq (h : Numbered pairs) {p q : Pair} (hp : p ∈ pairs) (hq : q ∈ pairs)
    (he : p.index = q.index) : p = q := by
  have hpi := h.getElem?_index hp
  rw [he, h.getElem?_index hq] at hpi
  exact (Option.some.inj hpi).symm

/-! ### Readers -/

theorem Numbered.mem_readers (h : Numbered pairs) {w : Pair} (hw : w ∈ pairs) {r : Nat} :
    r ∈ readers pairs w.index ↔ ∃ p ∈ pairs, p.reads w ∧ p.index = r := by
  rw [readers, h.getElem?_index hw]
  simp only [readersOf, List.mem_map, List.mem_filter, and_assoc]

theorem Numbered.bounded (h : Numbered pairs) : Order.Bounded pairs.length (readers pairs) := by
  intro i hi r hr
  obtain ⟨w, hw⟩ : ∃ w, pairs[i]? = some w := ⟨_, List.getElem?_eq_getElem hi⟩
  rw [← h.index_of_getElem? hw, h.mem_readers (List.mem_of_getElem? hw)] at hr
  obtain ⟨p, hp, _, rfl⟩ := hr
  exact h.index_lt hp

theorem Numbered.edge_iff (h : Numbered pairs) {w p : Pair} (hw : w ∈ pairs) (hp : p ∈ pairs) :
    Order.Edge (readers pairs) w.index p.index ↔ p.reads w ∧ p ≠ w := by
  rw [Order.Edge, h.mem_readers hw]
  constructor
  · rintro ⟨⟨q, hq, hr, hi⟩, hne⟩
    rw [h.eq_of_index_eq hq hp hi] at hr
    exact ⟨hr, fun he => hne (by rw [he])⟩
  · rintro ⟨hr, hne⟩
    exact ⟨⟨p, hp, hr, rfl⟩, fun hi => hne (h.eq_of_index_eq hp hw hi)⟩

/-- Among different pairs of the list, safety says that there is no edge to a later number. -/
theorem Numbered.safe_iff (h : Numbered pairs) {order : List Pair} (hperm : order.Perm pairs) :
    Safe order ↔ (order.map index).Pairwise fun earlier later =>
      ¬ Order.Edge (readers pairs) earlier later := by
  rw [Safe, List.pairwise_map]
  have hnd : order.Pairwise (· ≠ ·) := hperm.nodup_iff.mpr h.nodup
  constructor
  · intro hs
    refine hs.imp_of_mem fun {w p} hw hp hr he => ?_
    rw [h.edge_iff (hperm.mem_iff.mp hw) (hperm.mem_iff.mp hp), hr] at he
    exact absurd he.1 Bool.false_ne_true
  · intro hs
    refine (hs.and hnd).imp_of_mem fun {w p} hw hp he => ?_
    rw [h.edge_iff (hperm.mem_iff.mp hw) (hperm.mem_iff.mp hp)] at he
    exact Bool.eq_false_iff.mpr fun hr => he.1 ⟨hr, he.2.symm⟩

/-! ### The order of the pairs -/

theorem filterMap_getElem?_range (pairs : List Pair) :
    (List.range pairs.length).filterMap (fun i => pairs[i]?) = pairs := by
  induction pairs with
  | nil => rfl
  | cons p ps ih =>
    rw [List.length_cons, List.range_succ_eq_map, List.filterMap_cons, List.filterMap_map]
    exact congrArg (p :: ·) ih

theorem Numbered.map_index_filterMap (h : Numbered pairs) : ∀ indices : List Nat,
    (∀ i ∈ indices, i < pairs.length) →
      (indices.filterMap fun i => pairs[i]?).map index = indices := by
  intro indices
  induction indices with
  | nil => intro _; rfl
  | cons i is ih =>
    intro hlt
    have hi : i < pairs.length := hlt i List.mem_cons_self
    have hget := List.getElem?_eq_getElem hi
    rw [List.filterMap_cons_some hget, List.map_cons, h.index_of_getElem? hget,
      ih fun j hj => hlt j (List.mem_cons_of_mem i hj)]

theorem Numbered.map_index_perm (h : Numbered pairs) {order : List Pair}
    (hperm : order.Perm pairs) : (order.map index).Perm (List.range pairs.length) := by
  have := hperm.map index
  rwa [h] at this

theorem order_eq_ok_iff {out : List Pair} : order pairs = .ok out ↔
    ∃ indices, Order.ofReaders pairs.length (readers pairs) = .ok indices ∧
      out = indices.filterMap fun i => pairs[i]? := by
  unfold order
  cases Order.ofReaders pairs.length (readers pairs) with
  | error failure => simp [Except.map]
  | ok indices => simp [Except.map, eq_comm]

/-- Pairs are put in the order in which the search gives their numbers, and none is lost. -/
theorem Numbered.ofReaders_of_order (h : Numbered pairs) {out : List Pair}
    (hout : order pairs = .ok out) :
    Order.ofReaders pairs.length (readers pairs) = .ok (out.map index) ∧ out.Perm pairs := by
  obtain ⟨indices, hind, rfl⟩ := order_eq_ok_iff.mp hout
  have hperm := Order.perm_of_ofReaders hind
  constructor
  · rw [h.map_index_filterMap indices fun i hi => List.mem_range.mp (hperm.mem_iff.mp hi), hind]
  · have := hperm.filterMap fun i => pairs[i]?
    rwa [filterMap_getElem?_range] at this

theorem Numbered.safeOrder_of_order (h : Numbered pairs) {out : List Pair}
    (hout : order pairs = .ok out) : SafeOrder pairs out := by
  obtain ⟨hind, hperm⟩ := h.ofReaders_of_order hout
  exact ⟨hperm, (h.safe_iff hperm).mpr (Order.emission_of_ofReaders hind).pairwise⟩

theorem Numbered.exists_order_of_safeOrder (h : Numbered pairs) {good : List Pair}
    (hgood : SafeOrder pairs good) : ∃ out, order pairs = .ok out := by
  obtain ⟨indices, hind⟩ := Order.exists_ofReaders_of_pairwise h.bounded
    (h.map_index_perm hgood.perm) ((h.safe_iff hgood.perm).mp hgood.safe)
  exact ⟨_, order_eq_ok_iff.mpr ⟨indices, hind, rfl⟩⟩

theorem findOrder_of_ofLists (h : ofLists targets sources known = .ok pairs) :
    findOrder targets sources known = order pairs := by
  rw [findOrder, h]
  rfl

theorem exists_ofLists_of_findOrder {out : List Pair}
    (h : findOrder targets sources known = .ok out) :
    ∃ pairs, ofLists targets sources known = .ok pairs := by
  rw [findOrder] at h
  cases hpairs : ofLists targets sources known with
  | error failure => rw [hpairs] at h; cases h
  | ok pairs => exact ⟨pairs, rfl⟩

/-- **The order found is a safe order of all pairs.** -/
theorem safeOrder_of_findOrder {out : List Pair}
    (hpairs : ofLists targets sources known = .ok pairs)
    (h : findOrder targets sources known = .ok out) : SafeOrder pairs out := by
  rw [findOrder_of_ofLists hpairs] at h
  exact (numbered_of_ofLists hpairs).safeOrder_of_order h

/-- **Where there is a safe order, one is found.** -/
theorem exists_findOrder_of_safeOrder {good : List Pair}
    (hpairs : ofLists targets sources known = .ok pairs) (hgood : SafeOrder pairs good) :
    ∃ out, findOrder targets sources known = .ok out := by
  rw [findOrder_of_ofLists hpairs]
  exact (numbered_of_ofLists hpairs).exists_order_of_safeOrder hgood

/-! ### What comes first -/

theorem pair_sublist_of_pairwise {α : Type} {R : α → α → Prop} {l : List α} {a b : α}
    (h : l.Pairwise R) (ha : a ∈ l) (hb : b ∈ l) (hne : a ≠ b) (hR : ¬ R b a) :
    [a, b].Sublist l := by
  induction l with
  | nil => exact absurd ha List.not_mem_nil
  | cons c l ih =>
    obtain ⟨hc, hl⟩ := List.pairwise_cons.mp h
    rcases List.mem_cons.mp ha with rfl | ha'
    · rcases List.mem_cons.mp hb with rfl | hb'
      · exact absurd rfl hne
      · exact (List.singleton_sublist.mpr hb').cons_cons a
    · rcases List.mem_cons.mp hb with rfl | hb'
      · exact absurd (hc a ha') hR
      · exact (ih hl ha' hb').cons c

/-- **A reader comes before the pair it reads.** -/
theorem SafeOrder.sublist_of_reads {order : List Pair} (h : SafeOrder pairs order) {p q : Pair}
    (hp : p ∈ pairs) (hq : q ∈ pairs) (hne : p ≠ q) (hr : p.reads q) : [p, q].Sublist order := by
  refine pair_sublist_of_pairwise h.safe (h.perm.mem_iff.mpr hp) (h.perm.mem_iff.mpr hq) hne ?_
  rw [hr]
  exact Bool.noConfusion

end Pair

/-! ### The verdict -/

theorem Node.exemptTargets_eq_false_iff {targets : List Node} : exemptTargets targets = false ↔
    targets.length ≠ 1 ∧ ∀ t ∈ targets, t.isSplat = false := by
  simp [exemptTargets]

theorem Node.exemptValue_eq_false_iff {value : Node} : value.exemptValue = false ↔
    ∃ range elements bracketed, value = .array range elements bracketed ∧
      ∀ e ∈ elements, e.isSplat = false := by
  constructor
  · intro h
    cases value with
    | array range elements bracketed =>
      refine ⟨range, elements, bracketed, rfl, ?_⟩
      simpa [exemptValue, isCall] using h
    | _ => exact absurd h (by simp [exemptValue])
  · rintro ⟨range, elements, bracketed, rfl, h⟩
    simpa [exemptValue, isCall] using h

theorem classify_eq_splittable_iff {targets : List Node} {value : Node} {known : List String}
    {order : List Pair} : classify targets value known = .splittable order ↔
      Node.exemptTargets targets = false ∧ value.exemptValue = false ∧
        Pair.findOrder targets value.sourceElements known = .ok order := by
  unfold classify
  cases Node.exemptTargets targets with
  | true => simp
  | false =>
    cases value.exemptValue with
    | true => simp
    | false =>
      rw [Verdict.ofOrder]
      cases Pair.findOrder targets value.sourceElements known with
      | ok found => simp
      | error failure => cases failure <;> simp [Verdict.ofFailure]

/-- **A statement is split exactly if it has a safe order.**  Its targets have to be more or fewer
than one and without a rest target, its value a literal array of as many elements, none of them a
splat; beyond that, the existence of any safe order is enough.  The order it is split in holds each
pair once, and is safe. -/
theorem verdict_splittable_iff_exists_safeOrder (span : Option Span) (targets : List Node)
    (value : Node) (above : List (Node × Nat)) :
    let place : Place := ⟨.multiAssign span targets value, above⟩
    ((∃ order, Inspection.verdict place = .splittable order) ↔
      targets.length ≠ 1 ∧ (∀ t ∈ targets, t.isSplat = false) ∧
        ∃ range elements bracketed, value = .array range elements bracketed ∧
          (∀ e ∈ elements, e.isSplat = false) ∧ targets.length = elements.length ∧
          ∃ pairs, Pair.ofLists targets elements place.visibleLocals = .ok pairs ∧
            ∃ good, Pair.SafeOrder pairs good) ∧
    ∀ order, Inspection.verdict place = .splittable order →
      ∃ pairs, Pair.ofLists targets value.sourceElements place.visibleLocals = .ok pairs ∧
        order.Nodup ∧ Pair.SafeOrder pairs order := by
  intro place
  have hverdict : ∀ order, Inspection.verdict place = .splittable order ↔
      Node.exemptTargets targets = false ∧ value.exemptValue = false ∧
        Pair.findOrder targets value.sourceElements place.visibleLocals = .ok order :=
    fun order => classify_eq_splittable_iff
  refine ⟨⟨?_, ?_⟩, ?_⟩
  · rintro ⟨order, h⟩
    obtain ⟨ht, hv, horder⟩ := (hverdict order).mp h
    obtain ⟨hone, hsplat⟩ := Node.exemptTargets_eq_false_iff.mp ht
    obtain ⟨range, elements, bracketed, rfl, helem⟩ := Node.exemptValue_eq_false_iff.mp hv
    obtain ⟨pairs, hpairs⟩ := Pair.exists_ofLists_of_findOrder horder
    have hlen := (Pair.ofLists_eq_ok_iff.mp hpairs).1
    exact ⟨hone, hsplat, range, elements, bracketed, rfl, helem, hlen, pairs, hpairs, order,
      Pair.safeOrder_of_findOrder hpairs horder⟩
  · rintro ⟨hone, hsplat, range, elements, bracketed, rfl, helem, _, pairs, hpairs, good, hgood⟩
    obtain ⟨order, horder⟩ := Pair.exists_findOrder_of_safeOrder hpairs hgood
    exact ⟨order, (hverdict order).mpr ⟨Node.exemptTargets_eq_false_iff.mpr ⟨hone, hsplat⟩,
      Node.exemptValue_eq_false_iff.mpr ⟨range, elements, bracketed, rfl, helem⟩, horder⟩⟩
  · intro order h
    obtain ⟨_, _, horder⟩ := (hverdict order).mp h
    obtain ⟨pairs, hpairs⟩ := Pair.exists_ofLists_of_findOrder horder
    have hsafe := Pair.safeOrder_of_findOrder hpairs horder
    have hnum := Pair.numbered_of_ofLists hpairs
    exact ⟨pairs, hpairs, hsafe.perm.nodup_iff.mpr hnum.nodup, hsafe⟩

end MultiAssign
