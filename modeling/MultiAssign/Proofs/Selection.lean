import MultiAssign.Proofs.SoundEdits
import Mathlib.Data.List.Nodup
import Mathlib.Data.Prod.Lex

/-!
# Which edits are selected

Of several edits only some can be applied together.  `Edit.select` sorts them by their ranges and
goes through them with a cursor: an edit that starts before the cursor is skipped, any other one is
kept and takes the cursor to its own end.  The end of a reversed range lies before its start, so the
cursor may go back; it says where the last edit that was kept ends, and nothing about the ones
before.  The selection has three laws.

* It is greedy (`selection_greedy`): what is kept does not overlap, and what is skipped starts
  inside of something that is kept.  `Sifted` is the account that `Edit.sift` gives of a sorted
  list, with one lemma for each of its two steps.  That the edits come by ascending starts makes up
  for a cursor that goes back.
* Of edits that lie apart or in one another it keeps the outermost ones (`select_outermost`).
* The order in which the edits are given has no effect (`apply_of_perm`), as long as edits with one
  range have one replacement.
-/

namespace MultiAssign

namespace Edit

/-! ### Sorted edits -/

def key (e : Edit) : Nat ×ₗ Nat := toLex (e.start, e.stop)

theorem comesBefore_iff {a b : Edit} : a.comesBefore b = true ↔ a.key ≤ b.key := by
  simp [comesBefore, key, Prod.Lex.toLex_le_toLex]

theorem eq_of_key_eq {a b : Edit} (hkey : a.key = b.key) (h : a.replacement = b.replacement) :
    a = b := by
  obtain ⟨hstart, hstop⟩ := Prod.mk.inj (toLex.injective hkey)
  cases a
  cases b
  simp_all

theorem start_le_of_key_le {a b : Edit} (h : a.key ≤ b.key) : a.start ≤ b.start := by
  rcases Prod.Lex.toLex_le_toLex.mp h with hlt | ⟨heq, _⟩
  · exact Nat.le_of_lt hlt
  · exact Nat.le_of_eq heq

/-- The second list has the edits of the first by ascending keys, and those of one key in the order
in which the first has them. -/
structure StableSort (xs ys : List Edit) : Prop where
  perm : ys.Perm xs
  ascending : ys.Pairwise fun a b => a.key ≤ b.key
  stable : ∀ k, ys.filter (·.key = k) = xs.filter (·.key = k)

theorem stableSort_sorted (edits : List Edit) : StableSort edits (sorted edits) := by
  have htrans : ∀ a b c : Edit, a.comesBefore b → b.comesBefore c → a.comesBefore c := by
    intro a b c hab hbc
    rw [comesBefore_iff] at hab hbc ⊢
    exact hab.trans hbc
  have htotal : ∀ a b : Edit, (a.comesBefore b || b.comesBefore a) = true := by
    intro a b
    rw [Bool.or_eq_true, comesBefore_iff, comesBefore_iff]
    exact le_total a.key b.key
  have hperm : (sorted edits).Perm edits := List.mergeSort_perm edits comesBefore
  refine ⟨hperm, (List.pairwise_mergeSort htrans htotal edits).imp comesBefore_iff.mp, ?_⟩
  intro k
  -- edits with one key are sorted as they stand, so the sort has them in this order
  have hsorted : (edits.filter (·.key = k)).Pairwise fun a b => a.comesBefore b := by
    refine List.pairwise_of_forall_mem_list fun a ha b hb => comesBefore_iff.mpr ?_
    have ha : a.key = k := by simpa using (List.mem_filter.mp ha).2
    have hb : b.key = k := by simpa using (List.mem_filter.mp hb).2
    rw [ha, hb]
  have hsublist : (edits.filter (·.key = k)).Sublist (sorted edits) :=
    List.sublist_mergeSort htrans htotal hsorted List.filter_sublist
  have hfilter := hsublist.filter (·.key = k)
  simp only [List.filter_filter, Bool.and_self] at hfilter
  exact (hfilter.eq_of_length (hperm.filter _).length_eq.symm).symm

/-! ### One pass over sorted edits -/

/-- The edit replaces the character at the position. -/
def Covers (e : Edit) (i : Nat) : Prop := e.start ≤ i ∧ i < e.stop

instance (e : Edit) (i : Nat) : Decidable (e.Covers i) :=
  inferInstanceAs (Decidable (e.start ≤ i ∧ i < e.stop))

/-- What a sift of sorted edits from a cursor on comes to. -/
structure Sifted (cursor : Nat) (edits : List Edit) (s : Selection) : Prop where
  /-- Nothing is lost. -/
  perm : (s.kept ++ s.skipped).Perm edits
  /-- All that is kept starts at the cursor or later, and not only the first of it. -/
  beyond : ∀ e ∈ s.kept, cursor ≤ e.start
  apart : s.kept.Pairwise fun e f => e.stop ≤ f.start
  /-- There is a reason for each edit that is skipped. -/
  reason : ∀ c ∈ s.skipped, c.start < cursor ∨ ∃ e ∈ s.kept, e.Covers c.start

theorem Sifted.skip {cursor : Nat} {e : Edit} {rest : List Edit} {s : Selection}
    (hs : Sifted cursor rest s) (h : e.start < cursor) :
    Sifted cursor (e :: rest) ⟨s.kept, e :: s.skipped⟩ where
  perm := List.perm_middle.trans (hs.perm.cons e)
  beyond := hs.beyond
  apart := hs.apart
  reason := by
    intro c hc
    rcases List.mem_cons.mp hc with rfl | hc
    · exact Or.inl h
    · exact hs.reason c hc

theorem Sifted.keep {cursor : Nat} {e : Edit} {rest : List Edit} {s : Selection}
    (hs : Sifted e.stop rest s) (h : cursor ≤ e.start) (hrest : ∀ f ∈ rest, e.start ≤ f.start) :
    Sifted cursor (e :: rest) ⟨e :: s.kept, s.skipped⟩ where
  perm := hs.perm.cons e
  beyond := by
    intro f hf
    rcases List.mem_cons.mp hf with rfl | hf
    · exact h
    · -- the end of `e` may lie before the cursor, but its start does not
      have hmem : f ∈ rest := hs.perm.subset (List.mem_append_left _ hf)
      exact h.trans (hrest f hmem)
  apart := List.pairwise_cons.mpr ⟨hs.beyond, hs.apart⟩
  reason := by
    intro c hc
    right
    rcases hs.reason c hc with hlt | ⟨f, hf, hcovers⟩
    · have hmem : c ∈ rest := hs.perm.subset (List.mem_append_right _ hc)
      exact ⟨e, List.mem_cons_self, hrest c hmem, hlt⟩
    · exact ⟨f, List.mem_cons_of_mem e hf, hcovers⟩

/-- **The account of a sift**, by induction over the sorted edits. -/
theorem sifted_sift {edits : List Edit} (h : edits.Pairwise fun e f => e.start ≤ f.start)
    (cursor : Nat) : Sifted cursor edits (sift cursor edits) := by
  induction edits generalizing cursor with
  | nil => exact ⟨List.Perm.refl [], nofun, List.Pairwise.nil, nofun⟩
  | cons e rest ih =>
    obtain ⟨hrest, hsorted⟩ := List.pairwise_cons.mp h
    rw [sift]
    by_cases hskip : e.start < cursor
    · rw [if_pos hskip]
      exact (ih hsorted cursor).skip hskip
    · rw [if_neg hskip]
      exact (ih hsorted e.stop).keep (by omega) hrest

theorem sifted_selection (edits : List Edit) :
    Sifted 0 (sorted edits) (selection edits) :=
  sifted_sift ((stableSort_sorted edits).ascending.imp start_le_of_key_le) 0

theorem perm_selection (edits : List Edit) :
    (select edits ++ (selection edits).skipped).Perm edits :=
  (sifted_selection edits).perm.trans (stableSort_sorted edits).perm

/-- An edit that is skipped starts inside of one that is kept. -/
theorem exists_covers_of_mem_skipped {edits : List Edit} {c : Edit}
    (hc : c ∈ (selection edits).skipped) : ∃ e ∈ select edits, e.Covers c.start := by
  rcases (sifted_selection edits).reason c hc with hlt | hcovers
  · omega
  · exact hcovers

/-- **The selection is greedy.**  It takes edits from their stable sort by start and stop.  Each of
them ends before all that follow start, and each of the others starts inside of one of them. -/
theorem selection_greedy (edits : List Edit) :
    StableSort edits (sorted edits) ∧ (select edits).Sublist (sorted edits) ∧
      (select edits).Pairwise (fun e f => e.stop ≤ f.start) ∧
      (select edits ++ (selection edits).skipped).Perm edits ∧
      ∀ c ∈ (selection edits).skipped, ∃ e ∈ select edits, e.start ≤ c.start ∧ c.start < e.stop :=
  ⟨stableSort_sorted edits, kept_sublist 0 (sorted edits), (sifted_selection edits).apart,
    perm_selection edits, fun _ hc => exists_covers_of_mem_skipped hc⟩

-- the reversed range takes the cursor back to 3, and yet nothing that overlaps is kept after it
example :
    selection [⟨8, 3, "r"⟩, ⟨0, 5, "a"⟩, ⟨8, 9, "b"⟩, ⟨4, 6, "c"⟩, ⟨0, 5, "d"⟩] =
      ⟨[⟨0, 5, "a"⟩, ⟨8, 3, "r"⟩, ⟨8, 9, "b"⟩], [⟨0, 5, "d"⟩, ⟨4, 6, "c"⟩]⟩ := by
  cbv

/-! ### Edits in one another -/

/-- Edits that take something away, start at different positions, and lie apart or in one
another. -/
structure Forest (edits : List Edit) : Prop where
  proper : ∀ e ∈ edits, e.start < e.stop
  starts : edits.Pairwise fun e f => e.start ≠ f.start
  laminar : edits.Pairwise fun e f => e.span.Laminar f.span

section Forest

variable {edits : List Edit} {e f : Edit}

theorem Forest.eq_of_start_eq (h : Forest edits) (he : e ∈ edits) (hf : f ∈ edits)
    (heq : e.start = f.start) : e = f := by
  by_contra hne
  have : Std.Symm fun e f : Edit => e.start ≠ f.start := ⟨fun _ _ => Ne.symm⟩
  exact h.starts.forall he hf hne heq

/-- In a forest an edit that starts inside of another one lies inside of it. -/
theorem Forest.contains_of_covers (h : Forest edits) (he : e ∈ edits) (hf : f ∈ edits)
    (hcovers : e.Covers f.start) : e.span.Contains f.span := by
  obtain ⟨hstart, hstop⟩ := hcovers
  by_cases hne : e = f
  · rw [hne]
    exact Span.Contains.refl f.span
  · have : Std.Symm fun e f : Edit => e.span.Laminar f.span := ⟨fun _ _ => Span.Laminar.symm⟩
    have hproper := h.proper f hf
    rcases h.laminar.forall he hf hne with (happart | happart) | hcontains | hcontains
    · have happart : e.stop ≤ f.start := happart
      omega
    · have happart : f.stop ≤ e.start := happart
      omega
    · exact hcontains
    · have hle : f.start ≤ e.start := hcontains.1
      exact absurd (h.eq_of_start_eq he hf (by omega)) hne

theorem Forest.exists_select_contains (h : Forest edits) (he : e ∈ edits) :
    ∃ s ∈ select edits, s.span.Contains e.span := by
  rcases List.mem_append.mp ((perm_selection edits).symm.subset he) with hkept | hskipped
  · exact ⟨e, hkept, Span.Contains.refl e.span⟩
  · obtain ⟨s, hs, hcovers⟩ := exists_covers_of_mem_skipped hskipped
    exact ⟨s, hs, h.contains_of_covers (mem_of_mem_select hs) he hcovers⟩

theorem Forest.eq_of_select_contains (h : Forest edits) (he : e ∈ select edits)
    (hf : f ∈ select edits) (hcontains : e.span.Contains f.span) : e = f := by
  by_contra hne
  have : Std.Symm fun e f : Edit => e.span.Apart f.span := ⟨fun _ _ => Span.Apart.symm⟩
  have hapart : (select edits).Pairwise fun e f => e.span.Apart f.span :=
    (sifted_selection edits).apart.imp Or.inl
  have hproper := h.proper f (mem_of_mem_select hf)
  obtain ⟨hstart, hstop⟩ := hcontains
  have hstart : e.start ≤ f.start := hstart
  have hstop : f.stop ≤ e.stop := hstop
  rcases hapart.forall he hf hne with hlt | hlt
  · have hlt : e.stop ≤ f.start := hlt
    omega
  · have hlt : f.stop ≤ e.start := hlt
    omega

/-- **Of edits in one another the outermost ones are selected.**  An edit of a forest is kept if
and only if no other one contains it; it waits if and only if one that is kept does. -/
theorem select_outermost (h : Forest edits) (he : e ∈ edits) :
    (e ∈ select edits ↔ ∀ f ∈ edits, f ≠ e → ¬ f.span.Contains e.span) ∧
      (e ∈ (selection edits).skipped ↔ ∃ s ∈ select edits, s ≠ e ∧ s.span.Contains e.span) := by
  have hnodup : (select edits ++ (selection edits).skipped).Nodup := by
    rw [(perm_selection edits).nodup_iff]
    exact h.starts.imp fun hne heq => hne (congrArg start heq)
  constructor
  · constructor
    · intro hkept f hf hne hcontains
      -- above `f` there is an edit that is kept, and it contains `e` as well
      obtain ⟨s, hs, hsf⟩ := h.exists_select_contains hf
      obtain rfl := h.eq_of_select_contains hs hkept (hsf.trans hcontains)
      have hle : s.start ≤ f.start := hsf.1
      have hge : f.start ≤ s.start := hcontains.1
      exact hne (h.eq_of_start_eq hf he (by omega))
    · intro houtermost
      obtain ⟨s, hs, hcontains⟩ := h.exists_select_contains he
      by_cases hne : s = e
      · exact hne ▸ hs
      · exact absurd hcontains (houtermost s (mem_of_mem_select hs) hne)
  · constructor
    · intro hskipped
      obtain ⟨s, hs, hcontains⟩ := h.exists_select_contains he
      refine ⟨s, hs, ?_, hcontains⟩
      rintro rfl
      exact List.disjoint_of_nodup_append hnodup hs hskipped
    · rintro ⟨s, hs, hne, hcontains⟩
      rcases List.mem_append.mp ((perm_selection edits).symm.subset he) with hkept | hskipped
      · exact absurd (h.eq_of_select_contains hs hkept hcontains) hne
      · exact hskipped

def nestedEdits : List Edit := [⟨4, 6, "c"⟩, ⟨0, 10, "a"⟩, ⟨12, 14, "d"⟩, ⟨2, 8, "b"⟩]

/-- The innermost edit waits like the one around it, and the one beside them is kept. -/
theorem select_outermost_nested :
    Forest nestedEdits ∧ ⟨0, 10, "a"⟩ ∈ select nestedEdits ∧ ⟨12, 14, "d"⟩ ∈ select nestedEdits ∧
      ⟨2, 8, "b"⟩ ∈ (selection nestedEdits).skipped ∧
      ⟨4, 6, "c"⟩ ∈ (selection nestedEdits).skipped := by
  have hforest : Forest nestedEdits := ⟨by decide, by decide, by decide⟩
  have houter : ⟨0, 10, "a"⟩ ∈ select nestedEdits :=
    (select_outermost hforest (by decide)).1.mpr (by decide)
  refine ⟨hforest, houter, (select_outermost hforest (by decide)).1.mpr (by decide), ?_, ?_⟩
  · exact (select_outermost hforest (by decide)).2.mpr ⟨_, houter, by decide, by decide⟩
  · exact (select_outermost hforest (by decide)).2.mpr ⟨_, houter, by decide, by decide⟩

end Forest

/-! ### The order in which edits are given -/

/-- Edits are sorted alike in any order, if those with one range are all the same. -/
theorem sorted_of_perm {xs ys : List Edit} (hperm : xs.Perm ys)
    (hties : ∀ a ∈ xs, ∀ b ∈ xs, a.start = b.start → a.stop = b.stop →
      a.replacement = b.replacement) :
    sorted xs = sorted ys := by
  have hx := stableSort_sorted xs
  have hy := stableSort_sorted ys
  refine List.Perm.eq_of_pairwise ?_ hx.ascending hy.ascending
    ((hx.perm.trans hperm).trans hy.perm.symm)
  intro a b ha hb hab hba
  have hkey : a.key = b.key := le_antisymm hab hba
  obtain ⟨hstart, hstop⟩ := Prod.mk.inj (toLex.injective hkey)
  have ha : a ∈ xs := hx.perm.subset ha
  have hb : b ∈ xs := hperm.symm.subset (hy.perm.subset hb)
  exact eq_of_key_eq hkey (hties a ha b hb hstart hstop)

/-- **The order in which edits are given has no effect**, if those with one range have one
replacement: the same ones are selected, and they give the same text or the same failure. -/
theorem apply_of_perm {xs ys : List Edit} (hperm : xs.Perm ys)
    (hties : ∀ a ∈ xs, ∀ b ∈ xs, a.start = b.start → a.stop = b.stop →
      a.replacement = b.replacement) (text : String) :
    select xs = select ys ∧ apply text xs = apply text ys := by
  have hselect : select xs = select ys := by
    rw [select, select, selection, selection, sorted_of_perm hperm hties]
  exact ⟨hselect, by rw [apply, apply, hselect]⟩

/-- Edits of which one is given twice and one is reversed, in two orders. -/
theorem apply_of_perm_repeated :
    let xs : List Edit := [⟨8, 11, "Z"⟩, ⟨0, 3, "X"⟩, ⟨5, 4, "r"⟩, ⟨0, 3, "X"⟩]
    let ys : List Edit := [⟨0, 3, "X"⟩, ⟨5, 4, "r"⟩, ⟨0, 3, "X"⟩, ⟨8, 11, "Z"⟩]
    xs.Perm ys ∧ xs ≠ ys ∧ select xs = select ys ∧
      apply "aaa bbb ccc" xs = apply "aaa bbb ccc" ys := by
  intro xs ys
  have hperm : xs.Perm ys := by decide
  exact ⟨hperm, by decide, apply_of_perm hperm (by decide) "aaa bbb ccc"⟩

end Edit

end MultiAssign
