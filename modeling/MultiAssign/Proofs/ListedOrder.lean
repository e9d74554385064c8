import MultiAssign.Proofs.Circles
import MultiAssign.Proofs.RepeatedTargets

/-!
# Assignments that stay in their places

The search takes the assignments in the order in which they are listed, and leaves that order only
to emit a reader first.  This file says so: `pair_sublist_of_not_leads` keeps an assignment behind
all those listed before it, unless one of them depends on it, directly or through others.

The reason is that the list is worked off in parts (`emitAll_append`).  What the search has emitted
when it is done with the first part is what that part depends on, and an assignment of the second
part that is not among it has to come later.

Two cases need no look at chains of readers, and `ofReaders_reorders_only_if_read` is about these.
If every reader is listed before what it reads, a chain only goes back, so nothing changes places;
and no chain leads to an assignment that reads no other one.
-/

namespace MultiAssign.Order

open Relation

variable {readers : Nat → List Nat} {count : Nat}

theorem emitAll_append {off : List Nat} {writer : Nat} {xs ys emitted out : List Nat}
    (h : emitAll count readers off writer (xs ++ ys) emitted = .ok out) :
    ∃ mid, emitAll count readers off writer xs emitted = .ok mid ∧
      emitAll count readers off writer ys mid = .ok out := by
  induction xs generalizing emitted with
  | nil => exact ⟨emitted, by rw [emitAll], h⟩
  | cons r xs ih =>
    rw [List.cons_append] at h
    rw [emitAll] at h ⊢
    by_cases hne : r = writer
    · rw [if_pos hne] at h ⊢
      exact ih h
    · rw [if_neg hne] at h ⊢
      by_cases hoff : r ∈ off
      · rw [dif_pos hoff] at h ⊢
        by_cases hr : r ∈ emitted
        · rw [if_pos hr] at h ⊢
          exact ih h
        · rw [if_neg hr] at h ⊢
          split at h
          · cases h
          · next below hbelow => exact ih h
      · rw [dif_neg hoff] at h
        split at h <;> cases h

/-! ### Chains of readers -/

theorem Bounded.lt_of_leads (hb : Bounded count readers) {i j : Nat} (hi : i < count)
    (h : ReflTransGen (Edge readers) i j) : j < count := by
  induction h with
  | refl => exact hi
  | @tail j k _ he ih => exact hb j ih k he.1

/-- Where every reader is listed before what it reads, chains of readers only go back. -/
theorem le_of_leads (hback : ∀ i < count, ∀ r ∈ readers i, r ≠ i → r < i) {i j : Nat}
    (hi : i < count) (h : ReflTransGen (Edge readers) i j) : j ≤ i := by
  induction h with
  | refl => exact Nat.le_refl i
  | @tail j k _ he ih =>
    have hlt := hback j (Nat.lt_of_le_of_lt ih hi) k he.1 he.2
    omega

/-- No chain of readers leads from another assignment to one that reads no other. -/
theorem eq_of_leads (hb : Bounded count readers) {i j : Nat} (hi : i < count)
    (hreads : ∀ w < count, w ≠ j → j ∉ readers w) (h : ReflTransGen (Edge readers) i j) :
    i = j := by
  rcases ReflTransGen.cases_tail h with he | ⟨w, hw, he⟩
  · exact he.symm
  · exact absurd he.1 (hreads w (hb.lt_of_leads hi hw) (Ne.symm he.2))

/-! ### What stays in its place -/

/-- **Two assignments change places only if an earlier one asks for it.**  An assignment is emitted
after `i`, which is listed before it, unless `i` or one before `i` leads to it. -/
theorem pair_sublist_of_not_leads {order : List Nat} (h : ofReaders count readers = .ok order)
    {i j : Nat} (hij : i < j) (hj : j < count)
    (hnot : ∀ r ≤ i, ¬ ReflTransGen (Edge readers) r j) : [i, j].Sublist order := by
  have hjorder : j ∈ order := (perm_of_ofReaders h).mem_iff.mpr (List.mem_range.mpr hj)
  obtain ⟨n, rfl⟩ : ∃ n, count = (i + 1) + n := ⟨count - (i + 1), by omega⟩
  rw [ofReaders] at h
  -- the list is cut after `i`, and what is emitted up to there is what `0` to `i` lead to
  nth_rewrite 2 [List.range_add] at h
  obtain ⟨mid, hmid, hrest⟩ := emitAll_append h
  have hfirst := emits_of_emitAll List.nodup_range .nil hmid
  have himid : i ∈ mid := hfirst.covered i (List.mem_range.mpr (Nat.lt_succ_self i)) (by omega)
  have hjmid : j ∉ mid := by
    intro hmem
    rcases hfirst.added j hmem with hmem | ⟨_, r, hr, _, hrj⟩
    · exact absurd hmem List.not_mem_nil
    · exact hnot r (Nat.le_of_lt_succ (List.mem_range.mp hr)) hrj
  obtain ⟨later, rfl⟩ := (emits_of_emitAll List.nodup_range hfirst.emission hrest).kept
  have hjlater : j ∈ later := (List.mem_append.mp hjorder).resolve_left hjmid
  exact (List.singleton_sublist.mpr himid).append (List.singleton_sublist.mpr hjlater)

theorem eq_range_of_pair_sublist {order : List Nat} (hperm : order.Perm (List.range count))
    (h : ∀ i j, i < j → j < count → [i, j].Sublist order) : order = List.range count := by
  have hnd : order.Nodup := hperm.nodup_iff.mpr List.nodup_range
  have hlt : order.Pairwise (· < ·) := by
    rw [List.pairwise_iff_forall_sublist]
    intro a b hab
    have ha : a < count := List.mem_range.mp (hperm.mem_iff.mp (hab.subset (by simp)))
    have hbefore := idxOf_lt_of_pair_sublist hnd hab
    rcases Nat.lt_trichotomy a b with hlt | heq | hgt
    · exact hlt
    · rw [heq] at hbefore
      exact absurd hbefore (Nat.lt_irrefl _)
    · have := idxOf_lt_of_pair_sublist hnd (h b a hgt ha)
      omega
  have hasymm : ∀ a b : Nat, a ∈ order → b ∈ List.range count → a < b → b < a → a = b :=
    fun a b _ _ hab hba => absurd hab (Nat.lt_asymm hba)
  exact hperm.eq_of_pairwise hasymm hlt List.pairwise_lt_range

/-- **Nothing is moved that need not be.**  The assignments stay as they are listed exactly if each
is listed after all its readers but itself.  And whatever else is moved, an assignment that reads no
other one stays behind all that are listed before it, so two such assignments never change
places. -/
theorem ofReaders_reorders_only_if_read (count : Nat) (readers : Nat → List Nat)
    (hb : Bounded count readers) {order : List Nat} (h : ofReaders count readers = .ok order) :
    (order = List.range count ↔ ∀ i < count, ∀ r ∈ readers i, r ≠ i → r < i) ∧
    ∀ i j, i < j → j < count → (∀ w < count, w ≠ j → j ∉ readers w) → [i, j].Sublist order := by
  refine ⟨⟨?_, ?_⟩, ?_⟩
  · intro hrange i hi r hr hne
    have hsub := pair_sublist_of_ofReaders hb h hi ⟨hr, hne⟩
    rw [hrange] at hsub
    exact List.pairwise_lt_range.forall_sublist hsub
  · intro hback
    refine eq_range_of_pair_sublist (perm_of_ofReaders h) fun i j hij hj => ?_
    refine pair_sublist_of_not_leads h hij hj fun r hr hleads => ?_
    have := le_of_leads hback (by omega : r < count) hleads
    omega
  · intro i j hij hj hreads
    refine pair_sublist_of_not_leads h hij hj fun r hr hleads => ?_
    have := eq_of_leads hb (by omega : r < count) hreads hleads
    omega

/-- Assignment `0` is read by `2`, and `3` by `1`. -/
def crossed : Nat → List Nat
  | 0 => [2]
  | 3 => [1]
  | _ => []

/-- `2` is moved to the front for `0`, which it reads; `0` and `3` read nothing, and `3` stays
behind `0`. -/
theorem ofReaders_reorders_only_if_read_crossed :
    Bounded 4 crossed ∧ ofReaders 4 crossed = .ok [2, 0, 1, 3] ∧
      ¬ (∀ i < 4, ∀ r ∈ crossed i, r ≠ i → r < i) ∧
      (∀ w < 4, w ≠ 3 → 3 ∉ crossed w) ∧ [0, 3].Sublist [2, 0, 1, 3] := by
  have hb : Bounded 4 crossed := by
    unfold Bounded
    decide
  have hsearch : ofReaders 4 crossed = .ok [2, 0, 1, 3] := by cbv
  have hreads : ∀ w < 4, w ≠ 3 → 3 ∉ crossed w := by decide
  obtain ⟨hlisted, hplaces⟩ := ofReaders_reorders_only_if_read 4 crossed hb hsearch
  refine ⟨hb, hsearch, fun hback => ?_, hreads, hplaces 0 3 (by decide) (by decide) hreads⟩
  exact absurd (hlisted.mpr hback) (by decide)

end MultiAssign.Order
