import MultiAssign.Proofs.Same
import MultiAssign.Proofs.SafeOrder

/-!
# Targets that occur twice

A parallel assignment writes to its targets from left to right.  If a target occurs twice, the later
write is the one that lasts.  The search for an order knows of reads only, so it may emit the later
write first: `b, a, a = 1, 2, b` becomes `a = b`, `b = 1`, `a = 2` (`later_write_emitted_first`).

Two pairs with the same target have the same readers.  If one of them is such a reader, it is
emitted first.  If neither is, they do not depend on each other, and the one is emitted first that
the search meets first.  That can be said without the search.  A `Way` is a chain of reads that the
search may follow, written as the list of its pairs, and `exists_first_way` says that the search
meets a pair by the way that comes first in the order of the lists.  So
`same_target_in_order_iff` says exactly when two writes to one target keep their order.
-/

namespace MultiAssign

namespace Order

open Relation

variable {readers : Nat → List Nat}

/-! ### Places in a list -/

theorem idxOf_lt_of_pair_sublist {l : List Nat} (hnd : l.Nodup) {a b : Nat}
    (h : [a, b].Sublist l) : l.idxOf a < l.idxOf b := by
  have hpw : l.Pairwise fun x y => l.idxOf x < l.idxOf y := by
    rw [List.pairwise_iff_getElem]
    intro i j hi hj hij
    rwa [hnd.idxOf_getElem, hnd.idxOf_getElem]
  exact hpw.forall_sublist h

theorem pair_sublist_iff_not {l : List Nat} (hnd : l.Nodup) {a b : Nat} (ha : a ∈ l) (hb : b ∈ l)
    (hne : a ≠ b) : [a, b].Sublist l ↔ ¬ [b, a].Sublist l := by
  constructor
  · intro hab hba
    have := idxOf_lt_of_pair_sublist hnd hab
    have := idxOf_lt_of_pair_sublist hnd hba
    omega
  · intro hba
    have hpw : l.Pairwise fun x y => [x, y].Sublist l := List.pairwise_iff_forall_sublist.mpr id
    exact Pair.pair_sublist_of_pairwise hpw ha hb hne hba

/-! ### Ways of the search -/

/-- A way of the search to `v`: it starts with a listed reader of `writer`, and goes on to a reader
each time. -/
inductive Way (readers : Nat → List Nat) (v : Nat) : Nat → List Nat → List Nat → Prop
  | stop {writer : Nat} {listed : List Nat} : v ∈ listed → v ≠ writer →
      Way readers v writer listed [v]
  | step {writer r : Nat} {listed w : List Nat} : r ∈ listed → r ≠ writer →
      Way readers v r (readers r) w → Way readers v writer listed (r :: w)

namespace Way

variable {v writer r : Nat} {listed rest w : List Nat}

theorem leads (h : Way readers v writer listed w) :
    ∃ s ∈ listed, s ≠ writer ∧ ReflTransGen (Edge readers) s v := by
  induction h with
  | stop hv hne => exact ⟨v, hv, hne, .refl⟩
  | step hr hne _ ih =>
    obtain ⟨s, hs, hsr, hsv⟩ := ih
    exact ⟨_, hr, hne, .head ⟨hs, hsr⟩ hsv⟩

theorem of_tail (h : Way readers v writer rest w) : Way readers v writer (r :: rest) w := by
  cases h with
  | stop hv hne => exact .stop (List.mem_cons_of_mem r hv) hne
  | step hs hne hw => exact .step (List.mem_cons_of_mem r hs) hne hw

theorem cons_cases (h : Way readers v writer (r :: rest) w) :
    (r ≠ writer ∧ ReflTransGen (Edge readers) r v ∧
      (v ≠ r → ∃ w', w = r :: w' ∧ Way readers v r (readers r) w')) ∨
    Way readers v writer rest w := by
  cases h with
  | stop hv hne =>
    rcases List.mem_cons.mp hv with rfl | hv
    · exact Or.inl ⟨hne, .refl, fun hv => absurd rfl hv⟩
    · exact Or.inr (.stop hv hne)
  | step hs hne hw =>
    rcases List.mem_cons.mp hs with rfl | hs
    · obtain ⟨s, hs, hsr, hsv⟩ := hw.leads
      exact Or.inl ⟨hne, .head ⟨hs, hsr⟩ hsv, fun _ => ⟨_, rfl, hw⟩⟩
    · exact Or.inr (.step hs hne hw)

theorem cons_lt (h : Way readers v writer rest w) (hr : ∀ s ∈ rest, r < s) (w' : List Nat) :
    r :: w' < w := by
  cases h with
  | stop hv _ => exact List.cons_lt_cons_iff.mpr (Or.inl (hr _ hv))
  | step hs _ _ => exact List.cons_lt_cons_iff.mpr (Or.inl (hr _ hs))

end Way

/-! ### The first way -/

theorem Emission.mem_of_leads {es : List Nat} (h : Emission readers es) {r v : Nat} (hr : r ∈ es)
    (hleads : ReflTransGen (Edge readers) r v) : v ∈ es := by
  induction hleads with
  | refl => exact hr
  | tail _ he ih => exact h.closed _ ih _ he

/-- **The search meets an assignment by the first way.**  It comes before all ways to any assignment
that is not emitted earlier, if neither of the two leads to the other. -/
theorem exists_first_way {count : Nat} {off : List Nat} {writer : Nat}
    {listed emitted out : List Nat} (hoff : off.Nodup) (hes : Emission readers emitted)
    (hasc : ∀ k, (readers k).Pairwise (· < ·)) (hlisted : listed.Pairwise (· < ·))
    (h : emitAll count readers off writer listed emitted = .ok out) {i : Nat} (hi : i ∈ out)
    (hnew : i ∉ emitted) :
    ∃ w, Way readers i writer listed w ∧
      ∀ j ∉ emitted, ¬ ReflTransGen (Edge readers) i j → ¬ ReflTransGen (Edge readers) j i →
        ¬ [j, i].Sublist out → ∀ w', Way readers j writer listed w' → w < w' := by
  fun_induction emitAll count readers off writer listed emitted generalizing out with
  | case1 off writer emitted =>
    cases h
    exact absurd hi hnew
  | case2 off r rest emitted ih =>
    obtain ⟨w, hw, hfirst⟩ := ih hoff hes (List.pairwise_cons.mp hlisted).2 h hi hnew
    refine ⟨w, hw.of_tail, fun j hj hij hji hlate w' hw' => ?_⟩
    rcases hw'.cons_cases with ⟨hne, _⟩ | hw'
    · exact absurd rfl hne
    · exact hfirst j hj hij hji hlate w' hw'
  | case3 off writer r rest emitted hne hr hmem ih =>
    obtain ⟨w, hw, hfirst⟩ := ih hoff hes (List.pairwise_cons.mp hlisted).2 h hi hnew
    refine ⟨w, hw.of_tail, fun j hj hij hji hlate w' hw' => ?_⟩
    rcases hw'.cons_cases with ⟨_, hleads, _⟩ | hw'
    · exact absurd (hes.mem_of_leads hmem hleads) hj
    · exact hfirst j hj hij hji hlate w' hw'
  | case4 => cases h
  | case5 off writer r rest emitted hne hr hmem mid hmid ih ih' =>
    obtain ⟨hlt, hrest⟩ := List.pairwise_cons.mp hlisted
    have hinner := emits_of_emitAll (hoff.erase r) hes hmid
    have hes' := hinner.emission_concat hoff hmem
    have houter := emits_of_emitAll hoff hes' h
    have hr' : r ∈ mid ++ [r] := List.mem_append_right mid List.mem_cons_self
    by_cases himid : i ∈ mid
    · -- `i` is met below `r`
      obtain ⟨w, hw, hfirst⟩ := ih (hoff.erase r) hes (hasc r) hmid himid hnew
      refine ⟨r :: w, .step List.mem_cons_self hne hw, fun j hj hij hji hlate w' hw' => ?_⟩
      have hlate' : ¬ [j, i].Sublist mid := fun hsub =>
        hlate (hsub.trans ((List.prefix_append mid [r]).trans houter.kept).sublist)
      rcases hw'.cons_cases with ⟨_, _, hbelow⟩ | hw'
      · obtain ⟨s, hs, hsr, hsi⟩ := hw.leads
        have hjr : j ≠ r := fun he => hji (he ▸ .head ⟨hs, hsr⟩ hsi)
        obtain ⟨w'', rfl, hw''⟩ := hbelow hjr
        exact List.cons_lt_cons_iff.mpr (Or.inr ⟨rfl, hfirst j hj hij hji hlate' w'' hw''⟩)
      · exact hw'.cons_lt hlt w
    · by_cases hir : i = r
      · subst hir
        refine ⟨[i], .stop List.mem_cons_self hne, fun j _ hij _ _ w' hw' => ?_⟩
        rcases hw'.cons_cases with ⟨_, hleads, _⟩ | hw'
        · exact absurd hleads hij
        · exact hw'.cons_lt hlt []
      · -- `i` is met after `r`, and so is whatever is not emitted before `i`
        have hnew' : i ∉ mid ++ [r] := by simp [himid, hir]
        obtain ⟨w, hw, hfirst⟩ := ih' hoff hes' hrest h hi hnew'
        refine ⟨w, hw.of_tail, fun j hj hij hji hlate w' hw' => ?_⟩
        have hj' : j ∉ mid ++ [r] := by
          intro hj'
          obtain ⟨later, rfl⟩ := houter.kept
          have hi' : i ∈ later := (List.mem_append.mp hi).resolve_left hnew'
          exact hlate ((List.singleton_sublist.mpr hj').append (List.singleton_sublist.mpr hi'))
        rcases hw'.cons_cases with ⟨_, hleads, _⟩ | hw'
        · exact absurd (hes'.mem_of_leads hr' hleads) hj'
        · exact hfirst j hj' hij hji hlate w' hw'
  | case6 => cases h
  | case7 => cases h

/-- One of the ways to `i` comes before all ways to `j`. -/
def MetBefore (readers : Nat → List Nat) (count i j : Nat) : Prop :=
  ∃ w, Way readers i count (List.range count) w ∧
    ∀ w', Way readers j count (List.range count) w' → w < w'

/-- Of two assignments that do not depend on each other, the one that is met first is emitted
first. -/
theorem pair_sublist_iff_metBefore {count : Nat} {out : List Nat}
    (hasc : ∀ k, (readers k).Pairwise (· < ·)) (h : ofReaders count readers = .ok out) {i j : Nat}
    (hi : i < count) (hj : j < count) (hij : ¬ ReflTransGen (Edge readers) i j)
    (hji : ¬ ReflTransGen (Edge readers) j i) :
    [i, j].Sublist out ↔ MetBefore readers count i j := by
  have hperm := perm_of_ofReaders h
  have hnd : out.Nodup := hperm.nodup_iff.mpr List.nodup_range
  have hiout : i ∈ out := hperm.mem_iff.mpr (List.mem_range.mpr hi)
  have hjout : j ∈ out := hperm.mem_iff.mpr (List.mem_range.mpr hj)
  have hne : i ≠ j := fun he => hij (he ▸ .refl)
  have hfirst := fun {k : Nat} (hk : k ∈ out) => exists_first_way List.nodup_range .nil hasc
    List.pairwise_lt_range h hk List.not_mem_nil
  rw [pair_sublist_iff_not hnd hiout hjout hne]
  constructor
  · intro hlate
    obtain ⟨w, hw, hall⟩ := hfirst hiout
    exact ⟨w, hw, hall j List.not_mem_nil hij hji hlate⟩
  · rintro ⟨w, hw, hall⟩ hsub
    have hlate := (pair_sublist_iff_not hnd hjout hiout hne.symm).mp hsub
    obtain ⟨w', hw', hall'⟩ := hfirst hjout
    exact List.lt_asymm (hall w' hw') (hall' i List.not_mem_nil hji hij hlate w hw)

/-! ### Assignments with the same readers -/

/-- A way from one of them to the other would go on to one of their readers, and in a circle. -/
theorem not_leads_of_readers_eq {count : Nat} {out : List Nat} (hb : Bounded count readers)
    (h : ofReaders count readers = .ok out) {i j : Nat} (hi : i < count) (hj : j < count)
    (hne : i ≠ j) (heq : readers i = readers j) (hself : j ∉ readers j) :
    ¬ ReflTransGen (Edge readers) i j := by
  intro hleads
  rcases hleads.cases_head with he | ⟨r, he, hrj⟩
  · exact hne he
  · have hrj' : r ∈ readers j := heq ▸ he.1
    have hrne : r ≠ j := fun hr => hself (hr ▸ hrj')
    have hperm := perm_of_ofReaders h
    have hgood := (emission_of_ofReaders h).pairwise
    have hr : r < count := hb i hi r he.1
    have hle := (idxOf_le_of_leads hb hperm hgood hr hrj).2
    have hlt := idxOf_lt_of_edge hgood (hperm.mem_iff.mpr (List.mem_range.mpr hj))
      (hperm.mem_iff.mpr (List.mem_range.mpr hr)) ⟨hrj', hrne⟩
    omega

theorem pair_sublist_iff_of_readers_eq {count : Nat} {out : List Nat} (hb : Bounded count readers)
    (hasc : ∀ k, (readers k).Pairwise (· < ·)) (h : ofReaders count readers = .ok out) {i j : Nat}
    (hi : i < count) (hj : j < count) (hne : i ≠ j) (heq : readers i = readers j) :
    [i, j].Sublist out ↔ i ∈ readers i ∨ j ∉ readers j ∧ MetBefore readers count i j := by
  have hperm := perm_of_ofReaders h
  have hnd : out.Nodup := hperm.nodup_iff.mpr List.nodup_range
  have hiout : i ∈ out := hperm.mem_iff.mpr (List.mem_range.mpr hi)
  have hjout : j ∈ out := hperm.mem_iff.mpr (List.mem_range.mpr hj)
  have hfirst : ∀ {a b : Nat}, a ∈ out → b ∈ out → Edge readers b a → [a, b].Sublist out :=
    fun ha hb he => Pair.pair_sublist_of_pairwise (emission_of_ofReaders h).pairwise ha hb he.2
      fun hn => hn he
  by_cases hireads : i ∈ readers i
  · exact iff_of_true (hfirst hiout hjout ⟨heq ▸ hireads, hne⟩) (Or.inl hireads)
  · by_cases hjreads : j ∈ readers j
    · have hji := hfirst hjout hiout ⟨heq ▸ hjreads, hne.symm⟩
      refine iff_of_false (fun hij => (pair_sublist_iff_not hnd hiout hjout hne).mp hij hji) ?_
      rintro (hi' | ⟨hj', _⟩)
      · exact hireads hi'
      · exact hj' hjreads
    · rw [pair_sublist_iff_metBefore hasc h hi hj
        (not_leads_of_readers_eq hb h hi hj hne heq hjreads)
        (not_leads_of_readers_eq hb h hj hi hne.symm heq.symm hireads)]
      simp [hireads, hjreads]

end Order

/-! ### Writes to one target -/

namespace Pair

variable {targets sources : List Node} {known : List String} {pairs order : List Pair}

theorem Numbered.readers_pairwise_lt (h : Numbered pairs) (k : Nat) :
    (readers pairs k).Pairwise (· < ·) := by
  rw [readers]
  split
  · next writer _ =>
    have hsub : (readersOf pairs writer).Sublist (pairs.map index) := List.filter_sublist.map index
    rw [h] at hsub
    exact List.pairwise_lt_range.sublist hsub
  · exact List.Pairwise.nil

theorem readersOf_congr {p q : Pair} (h : p.target.same q.target) :
    readersOf pairs p = readersOf pairs q := by
  simp only [readersOf, reads, Node.readsTarget_congr h]

/-- **When two writes to one target keep their order.**  Pair `i` is emitted before pair `j` if it
reads the target itself.  If pair `j` reads it instead, then `j` is emitted before `i`.  If neither
does, that pair is emitted first to which the first of all chains of reads leads, where a chain
that starts with an earlier pair comes first, and of two chains with the same start the one that
goes on to an earlier pair. -/
theorem same_target_in_order_iff (hpairs : ofLists targets sources known = .ok pairs)
    (horder : findOrder targets sources known = .ok order) {i j : Nat} (hne : i ≠ j) {t t' : Node}
    (hi : targets[i]? = some t) (hj : targets[j]? = some t') (hsame : t.same t') :
    [i, j].Sublist (order.map index) ↔
      i ∈ readers pairs i ∨
        j ∉ readers pairs j ∧ Order.MetBefore (readers pairs) pairs.length i j := by
  have hnum := numbered_of_ofLists hpairs
  rw [findOrder_of_ofLists hpairs] at horder
  obtain ⟨hind, _⟩ := hnum.ofReaders_of_order horder
  rw [← map_target_of_ofLists hpairs, List.getElem?_map, Option.map_eq_some_iff] at hi hj
  obtain ⟨p, hp, rfl⟩ := hi
  obtain ⟨q, hq, rfl⟩ := hj
  have heq : readers pairs i = readers pairs j := by
    simp only [readers, hp, hq, readersOf_congr hsame]
  exact Order.pair_sublist_iff_of_readers_eq hnum.bounded hnum.readers_pairwise_lt hind
    (List.getElem?_eq_some_iff.mp hp).1 (List.getElem?_eq_some_iff.mp hq).1 hne heq

/-- In `b, a, a = 1, b, 2` the first write to `a` is emitted at the very start, since it reads `b`,
and so before the second one. -/
theorem same_target_in_order_reader :
    let a : Node := .var none .localVar "a"
    let b : Node := .var none .localVar "b"
    let one : Node := .literal none .integer "1" [] true
    let two : Node := .literal none .integer "2" [] true
    let pairs : List Pair := [⟨0, b, one, none⟩, ⟨1, a, b, none⟩, ⟨2, a, two, none⟩]
    let order : List Pair := [⟨1, a, b, none⟩, ⟨0, b, one, none⟩, ⟨2, a, two, none⟩]
    ofLists [b, a, a] [one, b, two] [] = .ok pairs ∧
      findOrder [b, a, a] [one, b, two] [] = .ok order ∧ a.same a ∧
      [1, 2].Sublist (order.map index) ∧
      (1 ∈ readers pairs 1 ∨ 2 ∉ readers pairs 2 ∧ Order.MetBefore (readers pairs) 3 1 2) := by
  intro a b one two pairs order
  have hpairs : ofLists [b, a, a] [one, b, two] [] = .ok pairs := rfl
  have horder : findOrder [b, a, a] [one, b, two] [] = .ok order := by cbv
  have hsame : a.same a := by decide
  have hfirst : [1, 2].Sublist (order.map index) := by
    show [1, 2].Sublist [1, 0, 2]
    decide
  refine ⟨hpairs, horder, hsame, hfirst, ?_⟩
  exact (same_target_in_order_iff hpairs horder (by decide) rfl rfl hsame).mp hfirst

/-- `b, a, a = 1, 2, b` is emitted as `a = b`, `b = 1`, `a = 2`: the write that should last comes
first.  The order `a = 2`, `a = b`, `b = 1` is safe as well, and would not do that. -/
theorem later_write_emitted_first :
    let a : Node := .var none .localVar "a"
    let b : Node := .var none .localVar "b"
    let one : Node := .literal none .integer "1" [] true
    let two : Node := .literal none .integer "2" [] true
    let first : Pair := ⟨0, b, one, none⟩
    let second : Pair := ⟨1, a, two, none⟩
    let third : Pair := ⟨2, a, b, none⟩
    findOrder [b, a, a] [one, two, b] [] = .ok [third, first, second] ∧ a.same a ∧
      ¬ [1, 2].Sublist ([third, first, second].map index) ∧
      SafeOrder [first, second, third] [second, third, first] := by
  intro a b one two first second third
  refine ⟨by cbv, by decide, ?_, ?_, ?_⟩
  · show ¬ [1, 2].Sublist [2, 0, 1]
    decide
  · exact List.perm_append_singleton first [second, third]
  · have hreads : third.reads second = false ∧ first.reads second = false ∧
        first.reads third = false := by decide +kernel
    simp [Safe, hreads]

end Pair

end MultiAssign
