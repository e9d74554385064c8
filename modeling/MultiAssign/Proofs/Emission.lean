import MultiAssign.Dependency.Order
import Mathlib.Logic.Relation
import Mathlib.Data.List.Nodup

/-!
# What the depth-first search emits

`Dependency/Order.lean` searches for an order in which every assignment follows its readers.  This
file says what the search gives.  `Emission` is the invariant of a search that goes well: each
assignment stands in the list once, and after all of its readers.  `emitAll` keeps it
(`emits_of_emitAll`), so `ofReaders` gives an order of all assignments (`perm_of_ofReaders`,
`emission_of_ofReaders`).

A search that fails has found a circle: `cycle_of_ofReaders` says that the two assignments it names
depend on each other.  In an order in which every assignment follows its readers, an edge goes from
a later place to an earlier one, so there is no circle where there is such an order
(`exists_ofReaders_of_pairwise`).
-/

namespace MultiAssign.Order

open Relation

variable {readers : Nat → List Nat}

/-- Assignment `r` has to be emitted before `i`: it is another one, and reads what `i` writes. -/
def Edge (readers : Nat → List Nat) (i r : Nat) : Prop := r ∈ readers i ∧ r ≠ i

/-! ### Lists in which every assignment follows its readers -/

/-- Every assignment in the list stands there once, and after all of its readers. -/
inductive Emission (readers : Nat → List Nat) : List Nat → Prop
  | nil : Emission readers []
  | snoc {es : List Nat} {i : Nat} : Emission readers es → i ∉ es →
      (∀ r, Edge readers i r → r ∈ es) → Emission readers (es ++ [i])

theorem Emission.nodup {es : List Nat} (h : Emission readers es) : es.Nodup := by
  induction h with
  | nil => exact List.nodup_nil
  | snoc _ hi _ ih =>
    rw [← List.concat_eq_append]
    exact List.Nodup.concat hi ih

theorem Emission.closed {es : List Nat} (h : Emission readers es) :
    ∀ i ∈ es, ∀ r, Edge readers i r → r ∈ es := by
  induction h with
  | nil => intro i hi; exact absurd hi List.not_mem_nil
  | snoc _ _ hr ih =>
    intro j hj r he
    rcases List.mem_append.mp hj with hj | hj
    · exact List.mem_append_left _ (ih j hj r he)
    · rw [List.mem_singleton.mp hj] at he
      exact List.mem_append_left _ (hr r he)

/-- **No assignment reads what one before it writes.** -/
theorem Emission.pairwise {es : List Nat} (h : Emission readers es) :
    es.Pairwise fun earlier later => ¬ Edge readers earlier later := by
  induction h with
  | nil => exact List.Pairwise.nil
  | snoc hes hi _ ih =>
    refine List.pairwise_append.mpr ⟨ih, List.pairwise_singleton _ _, ?_⟩
    intro a ha b hb he
    rw [List.mem_singleton.mp hb] at he
    -- the last assignment is new, while the readers of an earlier one are all there already
    exact hi (hes.closed a ha _ he)

/-! ### The search -/

/-- What the emission of the listed readers of `writer` adds to `emitted`. -/
structure Emits (readers : Nat → List Nat) (off : List Nat) (writer : Nat)
    (listed emitted out : List Nat) : Prop where
  emission : Emission readers out
  /-- What is emitted stays where it is. -/
  kept : emitted <+: out
  /-- Only what a listed assignment depends on is added, and nothing that is on the path. -/
  added : ∀ x ∈ out, x ∈ emitted ∨
    x ∈ off ∧ ∃ r ∈ listed, r ≠ writer ∧ ReflTransGen (Edge readers) r x
  covered : ∀ r ∈ listed, r ≠ writer → r ∈ out

/-- A reader that needs no emission can be put before the list. -/
theorem Emits.skip {off : List Nat} {writer r : Nat} {listed emitted out : List Nat}
    (h : Emits readers off writer listed emitted out) (hr : r ≠ writer → r ∈ emitted) :
    Emits readers off writer (r :: listed) emitted out where
  emission := h.emission
  kept := h.kept
  added x hx := by
    rcases h.added x hx with hx | ⟨hoff, a, ha, hne, hax⟩
    · exact Or.inl hx
    · exact Or.inr ⟨hoff, a, List.mem_cons_of_mem r ha, hne, hax⟩
  covered a ha hne := by
    rcases List.mem_cons.mp ha with rfl | ha
    · exact h.kept.subset (hr hne)
    · exact h.covered a ha hne

theorem Emits.emission_concat {off : List Nat} {r : Nat} {emitted out : List Nat}
    (h : Emits readers (off.erase r) r (readers r) emitted out) (hoff : off.Nodup)
    (hr : r ∉ emitted) : Emission readers (out ++ [r]) := by
  refine h.emission.snoc ?_ fun a ha => h.covered a ha.1 ha.2
  intro hmem
  rcases h.added r hmem with hmem | ⟨hmem, _⟩
  · exact hr hmem
  · exact hoff.not_mem_erase hmem

theorem Emits.cons {off : List Nat} {writer r : Nat} {listed emitted mid out : List Nat}
    (hoff : r ∈ off) (hne : r ≠ writer)
    (h : Emits readers (off.erase r) r (readers r) emitted mid)
    (h' : Emits readers off writer listed (mid ++ [r]) out) :
    Emits readers off writer (r :: listed) emitted out where
  emission := h'.emission
  kept := (h.kept.trans (List.prefix_append mid [r])).trans h'.kept
  added x hx := by
    rcases h'.added x hx with hx | ⟨hx, a, ha, han, hax⟩
    · rcases List.mem_append.mp hx with hx | hx
      · rcases h.added x hx with hx | ⟨hx, a, ha, har, hax⟩
        · exact Or.inl hx
        · exact Or.inr ⟨List.mem_of_mem_erase hx, r, List.mem_cons_self, hne, .head ⟨ha, har⟩ hax⟩
      · rw [List.mem_singleton.mp hx]
        exact Or.inr ⟨hoff, r, List.mem_cons_self, hne, .refl⟩
    · exact Or.inr ⟨hx, a, List.mem_cons_of_mem r ha, han, hax⟩
  covered a ha han := by
    rcases List.mem_cons.mp ha with rfl | ha
    · exact h'.kept.subset (List.mem_append_right mid List.mem_cons_self)
    · exact h'.covered a ha han

/-- **The search keeps the invariant**, and emits all the readers it is given. -/
theorem emits_of_emitAll {count : Nat} {off : List Nat} {writer : Nat}
    {listed emitted out : List Nat} (hoff : off.Nodup) (hes : Emission readers emitted)
    (h : emitAll count readers off writer listed emitted = .ok out) :
    Emits readers off writer listed emitted out := by
  fun_induction emitAll count readers off writer listed emitted generalizing out with
  | case1 off writer emitted =>
    cases h
    exact ⟨hes, List.prefix_refl _, fun x hx => Or.inl hx, by simp⟩
  | case2 off r rest emitted ih => exact (ih hoff hes h).skip fun hne => absurd rfl hne
  | case3 off writer r rest emitted hne hr hmem ih => exact (ih hoff hes h).skip fun _ => hmem
  | case4 => cases h
  | case5 off writer r rest emitted hne hr hmem mid hmid ih ih' =>
    have hinner := ih (hoff.erase r) hes hmid
    exact Emits.cons hr hne hinner (ih' hoff (hinner.emission_concat hoff hmem) h)
  | case6 => cases h
  | case7 => cases h

/-- **The order holds every assignment once.** -/
theorem perm_of_ofReaders {count : Nat} {out : List Nat} (h : ofReaders count readers = .ok out) :
    out.Perm (List.range count) := by
  have hout := emits_of_emitAll List.nodup_range .nil h
  rw [List.perm_ext_iff_of_nodup hout.emission.nodup List.nodup_range]
  intro x
  refine ⟨fun hx => ?_, fun hx => hout.covered x hx (Nat.ne_of_lt (List.mem_range.mp hx))⟩
  rcases hout.added x hx with hx | ⟨hx, _⟩
  · exact absurd hx List.not_mem_nil
  · exact hx

theorem emission_of_ofReaders {count : Nat} {out : List Nat}
    (h : ofReaders count readers = .ok out) : Emission readers out :=
  (emits_of_emitAll List.nodup_range .nil h).emission

/-- A reader that is still to be emitted is emitted after its own readers and before the others. -/
theorem emitAll_cons {count : Nat} {off : List Nat} {writer r : Nat} {rest emitted out : List Nat}
    (hne : r ≠ writer) (hoff : r ∈ off) (hr : r ∉ emitted)
    (h : emitAll count readers off writer (r :: rest) emitted = .ok out) :
    ∃ mid, emitAll count readers (off.erase r) r (readers r) emitted = .ok mid ∧
      emitAll count readers off writer rest (mid ++ [r]) = .ok out := by
  rw [emitAll, if_neg hne, dif_pos hoff, if_neg hr] at h
  split at h
  · cases h
  · next mid hmid => exact ⟨mid, hmid, h⟩

theorem mem_of_pair_sublist {before after : List Nat} {a b : Nat}
    (hnd : (before ++ b :: after).Nodup) (h : [a, b].Sublist (before ++ b :: after)) :
    a ∈ before := by
  have hb : b ∉ after := (List.nodup_cons.mp (List.nodup_append.mp hnd).2.1).1
  have hpw : (before ++ b :: after).Pairwise fun x y => y = b → x ∈ before := by
    refine List.pairwise_append.mpr ⟨?_, List.pairwise_cons.mpr ⟨?_, ?_⟩, ?_⟩
    · exact List.pairwise_of_forall_mem_list fun x hx _ _ _ => hx
    · exact fun y hy he => absurd (he ▸ hy) hb
    · exact List.pairwise_of_forall_mem_list fun x _ y hy he => absurd (he ▸ hy) hb
    · exact fun x hx _ _ _ => hx
  exact hpw.forall_sublist h rfl

/-- **Before the first assignment only what it depends on is emitted.** -/
theorem leads_of_before_zero {count : Nat} {out : List Nat} (h : ofReaders count readers = .ok out)
    (hcount : 0 < count) :
    ∃ before after, out = before ++ 0 :: after ∧
      ∀ x ∈ before, TransGen (Edge readers) 0 x := by
  have hnil : (0 : Nat) ∉ ([] : List Nat) := List.not_mem_nil
  obtain ⟨n, rfl⟩ : ∃ n, count = n + 1 := ⟨count - 1, (Nat.sub_add_cancel hcount).symm⟩
  rw [ofReaders] at h
  nth_rewrite 2 [List.range_succ_eq_map] at h
  obtain ⟨mid, hmid, hout⟩ :=
    emitAll_cons (Nat.ne_of_lt hcount) (List.mem_range.mpr hcount) hnil h
  have hinner := emits_of_emitAll (List.nodup_range.erase 0) .nil hmid
  have houter := emits_of_emitAll List.nodup_range
    (hinner.emission_concat List.nodup_range hnil) hout
  obtain ⟨after, hafter⟩ := houter.kept
  refine ⟨mid, after, by rw [← hafter, List.append_assoc]; rfl, ?_⟩
  intro x hx
  rcases hinner.added x hx with hx | ⟨_, r, hr, hne, hrx⟩
  · exact absurd hx List.not_mem_nil
  · exact .head' ⟨hr, hne⟩ hrx

/-! ### The search that fails -/

/-- No assignment has a reader outside of the `count` assignments. -/
def Bounded (count : Nat) (readers : Nat → List Nat) : Prop :=
  ∀ i < count, ∀ r ∈ readers i, r < count

/-- The assignments that are not in `off` form the path of the search: each of them leads to
`writer`, and what is listed are readers of `writer` if there is a path at all. -/
structure Path (count : Nat) (readers : Nat → List Nat) (off : List Nat) (writer : Nat)
    (listed : List Nat) : Prop where
  leads : ∀ v < count, v ∉ off → ReflTransGen (Edge readers) v writer
  reads : ∀ v < count, v ∉ off → ∀ r ∈ listed, r ≠ writer → Edge readers writer r
  bounded : ∀ r ∈ listed, r < count

theorem Path.tail {count : Nat} {off : List Nat} {writer r : Nat} {listed : List Nat}
    (h : Path count readers off writer (r :: listed)) : Path count readers off writer listed where
  leads := h.leads
  reads v hv hoff a ha := h.reads v hv hoff a (List.mem_cons_of_mem r ha)
  bounded a ha := h.bounded a (List.mem_cons_of_mem r ha)

/-- The descent to a listed reader makes the path longer by it. -/
theorem Path.descend {count : Nat} {off : List Nat} {writer r : Nat} {listed : List Nat}
    (hb : Bounded count readers) (h : Path count readers off writer (r :: listed))
    (hne : r ≠ writer) : Path count readers (off.erase r) r (readers r) where
  leads v hv hoff := by
    by_cases hvr : v = r
    · rw [hvr]
    · have hv' : v ∉ off := fun hmem => hoff ((List.mem_erase_of_ne hvr).mpr hmem)
      exact (h.leads v hv hv').tail (h.reads v hv hv' r List.mem_cons_self hne)
  reads _ _ _ a ha hne := ⟨ha, hne⟩
  bounded := hb r (h.bounded r List.mem_cons_self)

/-- **A search that fails names two assignments of a circle.** -/
theorem cycle_of_emitAll {count : Nat} {off : List Nat} {writer : Nat} {listed emitted : List Nat}
    {failure : Failure} (hb : Bounded count readers) (hp : Path count readers off writer listed)
    (h : emitAll count readers off writer listed emitted = .error failure) :
    ∃ r w, failure = .cyclic r w ∧ r < count ∧ Edge readers w r ∧
      ReflTransGen (Edge readers) r w := by
  fun_induction emitAll count readers off writer listed emitted generalizing failure with
  | case1 => cases h
  | case2 off r rest emitted ih => exact ih hp.tail h
  | case3 off writer r rest emitted hne hr hmem ih => exact ih hp.tail h
  | case4 off writer r rest emitted hne hr hmem f hf ih =>
    cases h
    exact ih (hp.descend hb hne) hf
  | case5 off writer r rest emitted hne hr hmem mid hmid ih ih' => exact ih' hp.tail h
  | case6 off writer r rest emitted hne hr hlt =>
    cases h
    exact ⟨r, writer, rfl, hlt, hp.reads r hlt hr r List.mem_cons_self hne, hp.leads r hlt hr⟩
  | case7 off writer r rest emitted hne hr hge => exact absurd (hp.bounded r List.mem_cons_self) hge

theorem cycle_of_ofReaders {count : Nat} {failure : Failure} (hb : Bounded count readers)
    (h : ofReaders count readers = .error failure) :
    ∃ r w, failure = .cyclic r w ∧ r < count ∧ Edge readers w r ∧
      ReflTransGen (Edge readers) r w := by
  refine cycle_of_emitAll hb ⟨?_, ?_, fun r hr => List.mem_range.mp hr⟩ h
  · intro v hv hoff
    exact absurd (List.mem_range.mpr hv) hoff
  · intro v hv hoff
    exact absurd (List.mem_range.mpr hv) hoff

/-! ### Orders that exist are found -/

theorem idxOf_lt_of_edge {order : List Nat} {i r : Nat}
    (h : order.Pairwise fun earlier later => ¬ Edge readers earlier later) (hi : i ∈ order)
    (hr : r ∈ order) (he : Edge readers i r) : order.idxOf r < order.idxOf i := by
  have hi' := List.idxOf_lt_length_of_mem hi
  have hr' := List.idxOf_lt_length_of_mem hr
  rcases Nat.lt_trichotomy (order.idxOf r) (order.idxOf i) with hlt | heq | hgt
  · exact hlt
  · exact absurd ((List.idxOf_inj hr).mp heq) he.2
  · have := List.pairwise_iff_getElem.mp h _ _ hi' hr' hgt
    rw [List.getElem_idxOf, List.getElem_idxOf] at this
    exact absurd he this

/-- Whatever an assignment leads to stands in a good order no later than it. -/
theorem idxOf_le_of_leads {count : Nat} {order : List Nat} {i j : Nat} (hb : Bounded count readers)
    (hperm : order.Perm (List.range count))
    (h : order.Pairwise fun earlier later => ¬ Edge readers earlier later) (hi : i < count)
    (hij : ReflTransGen (Edge readers) i j) : j < count ∧ order.idxOf j ≤ order.idxOf i := by
  induction hij with
  | refl => exact ⟨hi, Nat.le_refl _⟩
  | @tail j k _ he ih =>
    have hk : k < count := hb j ih.1 k he.1
    have hlt := idxOf_lt_of_edge h (hperm.mem_iff.mpr (List.mem_range.mpr ih.1))
      (hperm.mem_iff.mpr (List.mem_range.mpr hk)) he
    exact ⟨hk, by omega⟩

theorem pairwise_not_leads {count : Nat} {order : List Nat} (hb : Bounded count readers)
    (hperm : order.Perm (List.range count))
    (h : order.Pairwise fun earlier later => ¬ Edge readers earlier later) :
    order.Pairwise fun earlier later => ¬ ReflTransGen (Edge readers) earlier later := by
  have hnd : order.Nodup := hperm.nodup_iff.mpr List.nodup_range
  rw [List.pairwise_iff_getElem]
  intro i j hi hj hij hleads
  have hlt : order[i] < count := List.mem_range.mp (hperm.mem_iff.mp (List.getElem_mem hi))
  have hle := (idxOf_le_of_leads hb hperm h hlt hleads).2
  rw [hnd.idxOf_getElem, hnd.idxOf_getElem] at hle
  omega

/-- **Where some order is good, the search finds one.** -/
theorem exists_ofReaders_of_pairwise {count : Nat} {order : List Nat} (hb : Bounded count readers)
    (hperm : order.Perm (List.range count))
    (h : order.Pairwise fun earlier later => ¬ Edge readers earlier later) :
    ∃ out, ofReaders count readers = .ok out := by
  cases hout : ofReaders count readers with
  | ok out => exact ⟨out, rfl⟩
  | error failure =>
    obtain ⟨r, w, _, hr, he, hrw⟩ := cycle_of_ofReaders hb hout
    obtain ⟨hw, hle⟩ := idxOf_le_of_leads hb hperm h hr hrw
    have hlt := idxOf_lt_of_edge h (hperm.mem_iff.mpr (List.mem_range.mpr hw))
      (hperm.mem_iff.mpr (List.mem_range.mpr hr)) he
    omega

end MultiAssign.Order
