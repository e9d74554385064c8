import MultiAssign.Proofs.FileTree

/-!
# The files to check, in their order

`FileTree.collect` goes through the paths of a command line one by one.  Each path stands for some
files, and a file that an earlier path stood for is not listed again (`collect_cons`).  So a file
has the place that the first of its paths gives it, and among the files of one path the order of
paths decides (`pairwise_collect`).

Patterns leave files out and do nothing else.  Leaving out and listing once can change places
(`eraseDups_filter`), so the patterns may as well be applied to the finished list, all at once
or in groups (`foldl_unmatched`).  `collect_filters_once` has both.
-/

namespace MultiAssign

/-! ### Each member once -/

section

variable {α : Type} [BEq α]

theorem eraseDups_sublist : ∀ xs : List α, xs.eraseDups.Sublist xs
  | [] => List.Sublist.refl []
  | x :: xs => by
    rw [List.eraseDups_cons]
    exact ((eraseDups_sublist _).trans List.filter_sublist).cons_cons x
termination_by xs => xs.length
decreasing_by exact Nat.lt_succ_of_le (List.length_filter_le _ _)

variable [LawfulBEq α]

theorem nodup_eraseDups : ∀ xs : List α, xs.eraseDups.Nodup
  | [] => List.nodup_nil
  | x :: xs => by
    rw [List.eraseDups_cons, List.nodup_cons, List.mem_eraseDups, List.mem_filter]
    refine ⟨?_, nodup_eraseDups _⟩
    rintro ⟨_, hne⟩
    simp at hne
termination_by xs => xs.length
decreasing_by exact Nat.lt_succ_of_le (List.length_filter_le _ _)

theorem eraseDups_filter (keep : α → Bool) :
    ∀ xs : List α, (xs.filter keep).eraseDups = xs.eraseDups.filter keep
  | [] => rfl
  | x :: xs => by
    have ih := eraseDups_filter keep (xs.filter fun y => !y == x)
    rw [List.filter_filter] at ih
    by_cases hx : keep x
    · rw [List.filter_cons_of_pos hx, List.eraseDups_cons, List.eraseDups_cons,
        List.filter_cons_of_pos hx, ← ih, List.filter_filter]
      simp only [Bool.and_comm]
    · rw [List.filter_cons_of_neg hx, List.eraseDups_cons, List.filter_cons_of_neg hx, ← ih]
      congr 1
      -- what is kept differs from `x`, which is not
      refine List.filter_congr fun y _ => ?_
      by_cases hyx : y = x
      · simp [hyx, hx]
      · simp [hyx]
termination_by xs => xs.length
decreasing_by exact Nat.lt_succ_of_le (List.length_filter_le _ _)

end

/-! ### Patterns -/

section

variable {patterns others : List String} {p : Path}

theorem isExcluded_append :
    isExcluded (patterns ++ others) p = (isExcluded patterns p || isExcluded others p) :=
  List.any_append

theorem isExcluded_nil (p : Path) : isExcluded [] p = false := rfl

theorem isExcluded_congr (h : ∀ pattern, pattern ∈ patterns ↔ pattern ∈ others) :
    isExcluded patterns p = isExcluded others p := by
  rw [Bool.eq_iff_iff]
  simp only [isExcluded, List.any_eq_true, h]

def unmatched (patterns : List String) (files : List Path) : List Path :=
  files.filter fun p => !isExcluded patterns p

theorem foldl_unmatched (groups : List (List String)) (files : List Path) :
    groups.foldl (fun files patterns => unmatched patterns files) files =
      unmatched groups.flatten files := by
  induction groups generalizing files with
  | nil => simp [unmatched, isExcluded_nil]
  | cons patterns groups ih =>
    rw [List.foldl_cons, ih, List.flatten_cons, unmatched, unmatched, unmatched, List.filter_filter]
    refine List.filter_congr fun p _ => ?_
    rw [isExcluded_append, Bool.not_or, Bool.and_comm]

end

/-! ### The order of paths -/

namespace Path

theorem comesBefore_iff {p q : Path} : p.comesBefore q ↔ ¬ q.parts < p.parts := by
  simp only [comesBefore, Bool.not_eq_true', decide_eq_false_iff_not]

theorem comesBefore_trans (p q r : Path) (hpq : p.comesBefore q) (hqr : q.comesBefore r) :
    p.comesBefore r := by
  rw [comesBefore_iff] at hpq hqr ⊢
  exact List.le_trans hpq hqr

theorem comesBefore_total (p q : Path) : (p.comesBefore q || q.comesBefore p) = true := by
  rw [Bool.or_eq_true, comesBefore_iff, comesBefore_iff]
  exact List.le_total p.parts q.parts

end Path

/-! ### Going through the paths -/

namespace FileTree

variable (t : FileTree) {input p q : Path} {paths : List Path} {exclude : List String}

theorem pairwise_candidates (input : Path) :
    (t.candidates input).Pairwise fun p q => p.comesBefore q := by
  unfold candidates
  split
  · exact List.pairwise_singleton _ _
  · exact List.pairwise_mergeSort Path.comesBefore_trans Path.comesBefore_total _

/-- How many of the paths come before the first one that stands for a file. -/
def firstInput (paths : List Path) (p : Path) : Nat :=
  paths.findIdx fun input => (t.candidates input).contains p

theorem firstInput_of_mem (h : p ∈ t.candidates input) : t.firstInput (input :: paths) p = 0 := by
  simp [firstInput, List.findIdx_cons, h]

theorem firstInput_of_not_mem (h : p ∉ t.candidates input) :
    t.firstInput (input :: paths) p = t.firstInput paths p + 1 := by
  simp [firstInput, List.findIdx_cons, h]

/-- **Patterns only leave files out.** -/
theorem collect_eq_unmatched (paths : List Path) (exclude : List String) :
    t.collect paths exclude = unmatched exclude (t.collect paths []) := by
  have hall : (paths.flatMap t.candidates).filter (fun p => !isExcluded [] p) =
      paths.flatMap t.candidates := by
    simp [isExcluded_nil]
  rw [collect, collect, hall, unmatched, eraseDups_filter]

/-- A path adds the files it stands for before those of the paths after it, which are not listed
again. -/
theorem collect_cons (input : Path) (paths : List Path) (exclude : List String) :
    t.collect (input :: paths) exclude =
      (unmatched exclude (t.candidates input)).eraseDups ++
        (t.collect paths exclude).filter fun p => !(t.candidates input).contains p := by
  rw [collect, List.flatMap_cons, List.filter_append, List.eraseDups_append]
  congr 1
  refine (eraseDups_filter _ _).trans (List.filter_congr fun p hp => ?_)
  have hkept : isExcluded exclude p = false := (mem_collect.mp hp).2
  simp [hkept]

/-- **Files come in the order of the first paths that stand for them**, and where that is the same
one, in the order of paths. -/
theorem pairwise_collect (paths : List Path) (exclude : List String) :
    (t.collect paths exclude).Pairwise fun p q =>
      t.firstInput paths p < t.firstInput paths q ∨
        t.firstInput paths p = t.firstInput paths q ∧ p.comesBefore q := by
  induction paths with
  | nil => exact List.Pairwise.nil
  | cons input paths ih =>
    rw [collect_cons, List.pairwise_append]
    have hown : ∀ p ∈ (unmatched exclude (t.candidates input)).eraseDups,
        t.firstInput (input :: paths) p = 0 := by
      intro p hp
      exact t.firstInput_of_mem (List.mem_filter.mp (List.mem_eraseDups.mp hp)).1
    have hothers : ∀ p ∈ (t.collect paths exclude).filter fun p => !(t.candidates input).contains p,
        t.firstInput (input :: paths) p = t.firstInput paths p + 1 := by
      intro p hp
      exact t.firstInput_of_not_mem (by simpa using (List.mem_filter.mp hp).2)
    refine ⟨?_, ?_, ?_⟩
    · have hsorted := (t.pairwise_candidates input).sublist
        ((eraseDups_sublist _).trans (List.filter_sublist (p := fun p => !isExcluded exclude p)))
      refine hsorted.imp_of_mem fun hp hq hpq => ?_
      exact Or.inr ⟨(hown _ hp).trans (hown _ hq).symm, hpq⟩
    · refine (ih.sublist List.filter_sublist).imp_of_mem fun hp hq hpq => ?_
      rw [hothers _ hp, hothers _ hq]
      exact hpq.imp Nat.succ_lt_succ (And.imp_left (congrArg Nat.succ))
    · intro p hp q hq
      rw [hown p hp, hothers q hq]
      exact Or.inl (Nat.succ_pos _)

/-- **The files to check are listed once, and patterns only filter them.**  A file is listed exactly
if one of the paths stands for it and no pattern matches it; it is listed once, in the place of the
first path that stands for it, and among the files of that path by the order of paths.  The list is
the one without patterns, less what is excluded, and it does not matter how the patterns are divided
into groups that are applied one after the other. -/
theorem collect_filters_once (t : FileTree) (paths : List Path) (exclude : List String) :
    (t.collect paths exclude).Nodup ∧
    (∀ p, p ∈ t.collect paths exclude ↔
      (∃ input ∈ paths, if t.hasFile input then p = input
        else p ∈ t.below input ∧ hasSourceName p ∧ t.hasFile p) ∧ isExcluded exclude p = false) ∧
    ((t.collect paths exclude).Pairwise fun p q =>
      t.firstInput paths p < t.firstInput paths q ∨
        t.firstInput paths p = t.firstInput paths q ∧ p.comesBefore q) ∧
    t.collect paths exclude = (t.collect paths []).filter (fun p => !isExcluded exclude p) ∧
    ∀ groups : List (List String),
      (∀ pattern, (∃ group ∈ groups, pattern ∈ group) ↔ pattern ∈ exclude) →
      groups.foldl (fun files patterns => files.filter fun p => !isExcluded patterns p)
        (t.collect paths []) = t.collect paths exclude := by
  refine ⟨nodup_eraseDups _, fun p => ?_, t.pairwise_collect paths exclude,
    t.collect_eq_unmatched paths exclude, fun groups hgroups => ?_⟩
  · simp only [mem_collect, mem_candidates]
  · have hsame : ∀ pattern, pattern ∈ groups.flatten ↔ pattern ∈ exclude := by
      intro pattern
      rw [List.mem_flatten, hgroups]
    have htogether := foldl_unmatched groups (t.collect paths [])
    unfold unmatched at htogether
    rw [htogether, collect_eq_unmatched t paths exclude, unmatched]
    exact List.filter_congr fun p _ => by rw [isExcluded_congr hsame]

/-- A directory with a file beside a directory that has another one, and a file above it. -/
def nestedFiles : FileTree where
  here := ["work"]
  files :=
    [(["work", "lib", "vendor", "c.rb"], []), (["work", "lib", "b.rake"], []), (["a.rb"], [])]

/-- Paths that lead to its files more than once, and one that leads out of the directory. -/
def overlappingPaths : List Path :=
  [⟨"", ["lib", "vendor"]⟩, ⟨"", ["lib"]⟩, ⟨"", ["lib", "b.rake"]⟩, ⟨"", ["..", "a.rb"]⟩]

theorem candidates_nestedFiles_lib : nestedFiles.candidates ⟨"", ["lib"]⟩ =
    [⟨"", ["lib", "b.rake"]⟩, ⟨"", ["lib", "vendor", "c.rb"]⟩] := by
  have hbelow : ((nestedFiles.below ⟨"", ["lib"]⟩).filter fun q =>
      hasSourceName q && nestedFiles.hasFile q) =
        [⟨"", ["lib", "vendor", "c.rb"]⟩, ⟨"", ["lib", "b.rake"]⟩] := by decide +kernel
  have hafter :
      Path.comesBefore ⟨"", ["lib", "vendor", "c.rb"]⟩ ⟨"", ["lib", "b.rake"]⟩ = false := by decide
  rw [candidates, if_neg (by decide +kernel), hbelow]
  simp [List.mergeSort, hafter]

theorem collect_nestedFiles : nestedFiles.collect overlappingPaths [] =
    [⟨"", ["lib", "vendor", "c.rb"]⟩, ⟨"", ["lib", "b.rake"]⟩, ⟨"", ["..", "a.rb"]⟩] := by
  have hvendor : nestedFiles.candidates ⟨"", ["lib", "vendor"]⟩ =
      [⟨"", ["lib", "vendor", "c.rb"]⟩] := by decide +kernel
  have hfile : nestedFiles.candidates ⟨"", ["lib", "b.rake"]⟩ = [⟨"", ["lib", "b.rake"]⟩] := by
    rfl
  have hlast : nestedFiles.candidates ⟨"", ["..", "a.rb"]⟩ = [⟨"", ["..", "a.rb"]⟩] := by
    rfl
  rw [collect, overlappingPaths]
  simp only [List.flatMap_cons, hvendor, candidates_nestedFiles_lib, hfile, hlast]
  decide

/-- The file of the inner directory keeps the place that the first path gives it, before a file that
comes before it in the outer one, and each of two filters leaves a file out. -/
theorem collect_filters_once_overlapping :
    (nestedFiles.collect overlappingPaths []).map Path.name = ["c.rb", "b.rake", "a.rb"] ∧
    (∀ pattern, (∃ group ∈ [["a.*"], ["*/vendor/*"]], pattern ∈ group) ↔
      pattern ∈ ["*/vendor/*", "a.*"]) ∧
    nestedFiles.collect overlappingPaths ["*/vendor/*", "a.*"] = [⟨"", ["lib", "b.rake"]⟩] ∧
    [["a.*"], ["*/vendor/*"]].foldl
      (fun files patterns => files.filter fun p => !isExcluded patterns p)
      (nestedFiles.collect overlappingPaths []) = [⟨"", ["lib", "b.rake"]⟩] := by
  obtain ⟨_, _, _, hfilter, hgroups⟩ :=
    nestedFiles.collect_filters_once overlappingPaths ["*/vendor/*", "a.*"]
  have hdivided : ∀ pattern, (∃ group ∈ [["a.*"], ["*/vendor/*"]], pattern ∈ group) ↔
      pattern ∈ ["*/vendor/*", "a.*"] := by
    intro pattern
    simp [or_comm]
  have hleft : nestedFiles.collect overlappingPaths ["*/vendor/*", "a.*"] =
      [⟨"", ["lib", "b.rake"]⟩] := by
    rw [hfilter, collect_nestedFiles]
    decide +kernel
  refine ⟨?_, hdivided, hleft, (hgroups [["a.*"], ["*/vendor/*"]] hdivided).trans hleft⟩
  rw [collect_nestedFiles]
  decide

end FileTree

end MultiAssign
