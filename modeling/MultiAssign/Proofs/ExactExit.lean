import MultiAssign.Proofs.ZeroExit

/-!
# What the exit code of a check says

A check that corrects nothing exits with zero exactly if there is nothing to complain of: all paths
lead somewhere, and each file that they stand for is a text, has no syntax errors and no offense
(`Linter.Clean`).  Otherwise it exits with one, whether it reports as a table or as JSON
(`Session.exit_exact`).

The verdict is gathered over the files in three fields of the state.  One file keeps the state
without complaint exactly if it was so before and the file is clean (`Check.spotless_file`); so the
same holds for all files, in whatever order the complaints come (`Check.spotless_files`).  Without
corrections the files stay as they are, and the number of texts that were parsed is the number of
files before, as long as each of them could be read.

The journal is the only thing in which the two ways to report differ while the files are checked,
and nothing else depends on it (`Check.silent_files`).
-/

namespace MultiAssign

namespace Linter

variable {l : Linter} {name : String} {calls : Nat} {code : String}

/-- There is nothing to complain of in what the paths lead to.  The file that is checked after `i`
others is parsed after `i` others. -/
structure Clean (l : Linter) (tree : FileTree) (paths : List Path) : Prop where
  has : ∀ p ∈ paths, tree.has p = true
  finds : ∀ i p, (tree.collect paths l.settings.exclude)[i]? = some p →
    ∃ text, tree.readText p = .ok text ∧ l.Finds p.text i text []

/-- The parser gives a tree for each of the files that can be read, and the nodes of the tree have
ranges, as they have in every tree that is read from concrete nodes. -/
def Parses (l : Linter) (tree : FileTree) (files : List Path) : Prop :=
  ∀ p ∈ files, ∀ text, tree.readText p = .ok text → ∀ calls, ∃ parsed,
    l.parser calls (Source.ofString text p.text) = .ok parsed ∧ Split.Located parsed.root

/-! ### Runs without corrections -/

theorem result_run_plain (henabled : l.settings.enabled) :
    (l.run code false name calls).result =
      match l.parser calls (Source.ofString code name) with
      | .error failure => .error failure
      | .ok tree =>
        if tree.hasErrors then
          .ok { code, errors := ["Syntax error in " ++ name], success := false }
        else (l.inspection.run tree true).result.map fun offenses => { code, offenses } := by
  rw [run, if_pos henabled, Run.result_parsing]
  cases l.parser calls (Source.ofString code name) with
  | error failure => rfl
  | ok tree =>
    simp only [Run.result_noting]
    split
    · rfl
    · rw [Run.result_noting]
      cases (l.inspection.run tree true).result <;> rfl

theorem parsed_run_plain (henabled : l.settings.enabled) :
    (l.run code false name calls).parsed = [code] := by
  rw [run, if_pos henabled, Run.parsed_parsing]
  cases l.parser calls (Source.ofString code name) with
  | error failure => rfl
  | ok tree =>
    simp only [Run.parsed_noting]
    split
    · rfl
    · rw [Run.parsed_noting]
      cases (l.inspection.run tree true).result <;> rfl

theorem exists_run_plain (henabled : l.settings.enabled) {tree : SyntaxTree}
    (htree : l.parser calls (Source.ofString code name) = .ok tree)
    (hlocated : Split.Located tree.root) :
    ∃ report, (l.run code false name calls).result = .ok report := by
  obtain ⟨offenses, hoffenses⟩ := l.inspection.exists_run tree hlocated true
  simp only [result_run_plain henabled, htree, hoffenses]
  split
  · exact ⟨_, rfl⟩
  · exact ⟨_, rfl⟩

/-- A report without a mistake and without an offense says that there is none. -/
theorem finds_nil_iff (henabled : l.settings.enabled) :
    (∃ report, (l.run code false name calls).result = .ok report ∧ report.success = true ∧
      report.offenses = []) ↔ l.Finds name calls code [] := by
  constructor
  · rintro ⟨report, hreport, hsuccess, hoffenses⟩
    rw [result_run_plain henabled] at hreport
    split at hreport
    · cases hreport
    · next tree htree =>
      split at hreport
      · cases hreport
        cases hsuccess
      · next herrors =>
        obtain ⟨offenses, hfound, rfl⟩ := map_eq_ok_iff.mp hreport
        cases hoffenses
        exact ⟨tree, htree, Bool.eq_false_iff.mpr herrors, hfound⟩
  · intro h
    exact ⟨_, h.run henabled, rfl, rfl⟩

end Linter

/-- There has been nothing to complain of so far. -/
structure Progress.Spotless (s : Progress) : Prop where
  stopped : s.stopped = none
  failed : s.failed = false
  offenses : ∀ r ∈ s.reports, r.2.offenses = []

def Progress.silent (s : Progress) : Progress := { s with entries := [] }

/-- How a check exits that has come to this state. -/
def Progress.exit (fix : Bool) (s : Progress) : Except Failure Nat :=
  match s.stopped with
  | some failure => .error failure
  | none => .ok (Summary.exitCode fix s.failed s.reports)

theorem Progress.exit_silent (fix : Bool) (s : Progress) : s.silent.exit fix = s.exit fix := rfl

namespace Check

variable {l : Linter} {s : Progress} {p : Path} {ps : List Path}

/-! ### One file -/

theorem tree_file_plain : (file ⟨l, false⟩ s p).tree = s.tree := by
  unfold file
  split
  · rfl
  · simp only [lintText]
    split <;> rfl

theorem length_parsed_file_plain (henabled : l.settings.enabled) {text : String}
    (htext : s.tree.readText p = .ok text) :
    (file ⟨l, false⟩ s p).parsed.length = s.parsed.length + 1 := by
  simp only [file, htext, lintText]
  split <;> simp [Linter.parsed_run_plain henabled]

/-- **A file leaves nothing to complain of exactly if there was nothing before and the file is
clean.** -/
theorem spotless_file (henabled : l.settings.enabled) (hs : s.stopped = none) :
    (file ⟨l, false⟩ s p).Spotless ↔ s.Spotless ∧
      ∃ text, s.tree.readText p = .ok text ∧ l.Finds p.text s.parsed.length text [] := by
  cases htext : s.tree.readText p with
  | error fault =>
    simp only [file, htext]
    constructor
    · intro h
      cases h.failed
    · rintro ⟨_, text, hread, _⟩
      cases hread
  | ok text =>
    have hclean : (∃ t, Except.ok (ε := ReadFault) text = .ok t ∧
        l.Finds p.text s.parsed.length t []) ↔ l.Finds p.text s.parsed.length text [] := by
      constructor
      · rintro ⟨_, ht, h⟩
        cases ht
        exact h
      · intro h
        exact ⟨text, rfl, h⟩
    rw [hclean, ← Linter.finds_nil_iff henabled]
    simp only [file, htext, lintText]
    cases (l.run text false p.text s.parsed.length).result with
    | error failure =>
      constructor
      · intro h
        cases h.stopped
      · rintro ⟨_, report, hreport, _⟩
        cases hreport
    | ok report =>
      constructor
      · rintro ⟨_, hfailed, hoffenses⟩
        have hfailed := Bool.or_eq_false_iff.mp hfailed
        have hoffenses := List.forall_mem_append.mp hoffenses
        exact ⟨⟨hs, hfailed.1, hoffenses.1⟩, report, rfl, by simpa using hfailed.2,
          hoffenses.2 (p, report) List.mem_cons_self⟩
      · rintro ⟨⟨_, hfailed, hoffenses⟩, report', hreport, hsuccess, hnone⟩
        cases hreport
        exact ⟨rfl, by simp [hfailed, hsuccess],
          List.forall_mem_append.mpr ⟨hoffenses, List.forall_mem_singleton.mpr hnone⟩⟩

theorem silent_file (c : Check) (s : Progress) (p : Path) :
    (c.file s p).silent = (c.file s.silent p).silent := by
  simp only [file, Progress.silent]
  cases s.tree.readText p with
  | error fault => rfl
  | ok text =>
    simp only [lintText]
    cases (c.linter.run text c.fix p.text s.parsed.length).result <;> rfl

/-! ### All files -/

/-- **All files leave nothing to complain of exactly if each of them is clean.** -/
theorem spotless_files (henabled : l.settings.enabled) (hs : s.stopped = none) :
    (files ⟨l, false⟩ s ps).Spotless ↔ s.Spotless ∧ ∀ i p, ps[i]? = some p →
      ∃ text, s.tree.readText p = .ok text ∧ l.Finds p.text (s.parsed.length + i) text [] := by
  induction ps generalizing s with
  | nil => simp [files]
  | cons p rest ih =>
    have hfirst := spotless_file (p := p) henabled hs
    -- The condition on all files is the one on the first and the one on the others.
    have hcons : (∀ i q, (p :: rest)[i]? = some q → ∃ text, s.tree.readText q = .ok text ∧
          l.Finds q.text (s.parsed.length + i) text []) ↔
        (∃ text, s.tree.readText p = .ok text ∧ l.Finds p.text s.parsed.length text []) ∧
        ∀ i q, rest[i]? = some q → ∃ text, s.tree.readText q = .ok text ∧
          l.Finds q.text (s.parsed.length + 1 + i) text [] := by
      constructor
      · intro h
        refine ⟨h 0 p rfl, fun i q hq => ?_⟩
        rw [Nat.add_assoc, Nat.add_comm 1 i]
        exact h (i + 1) q hq
      · rintro ⟨hp, hrest⟩ i q hq
        cases i with
        | zero =>
          cases hq
          exact hp
        | succ i =>
          rw [Nat.add_comm i 1, ← Nat.add_assoc]
          exact hrest i q hq
    rw [hcons, ← and_assoc, ← hfirst]
    simp only [files]
    split
    · next hstopped =>
      have hspoilt : ¬ (file ⟨l, false⟩ s p).Spotless := by
        intro h
        rw [h.stopped] at hstopped
        cases hstopped
      simp [hspoilt]
    · next hstopped =>
      rw [ih (by simpa using hstopped), tree_file_plain]
      refine and_congr_right fun h => ?_
      obtain ⟨_, text, htext, _⟩ := hfirst.mp h
      rw [length_parsed_file_plain henabled htext]

theorem silent_files (c : Check) (s : Progress) (ps : List Path) :
    (c.files s ps).silent = (c.files s.silent ps).silent := by
  induction ps generalizing s with
  | nil => rfl
  | cons p rest ih =>
    have hfile := c.silent_file s p
    have hstopped : (c.file s p).stopped = (c.file s.silent p).stopped := by
      show (c.file s p).silent.stopped = (c.file s.silent p).silent.stopped
      rw [hfile]
    simp only [files, hstopped]
    split
    · exact hfile
    · rw [ih, hfile, ← ih]

theorem stopped_files (henabled : l.settings.enabled) (hs : s.stopped = none)
    (hparses : l.Parses s.tree ps) : (files ⟨l, false⟩ s ps).stopped = none := by
  induction ps generalizing s with
  | nil => exact hs
  | cons p rest ih =>
    have hfile : (file ⟨l, false⟩ s p).stopped = none := by
      unfold file
      split
      · exact hs
      · next text htext =>
        obtain ⟨parsed, hparsed, hlocated⟩ :=
          hparses p List.mem_cons_self text htext s.parsed.length
        obtain ⟨report, hreport⟩ := Linter.exists_run_plain henabled hparsed hlocated
        simp only [lintText, hreport]
    simp only [files, hfile]
    refine ih hfile fun q hq => ?_
    rw [tree_file_plain]
    exact hparses q (List.mem_cons_of_mem p hq)

end Check

namespace Session

variable {linter : Linter} {fix json : Bool} {paths : List Path} {tree : FileTree}

/-- The state in which a check has gone through its files, with an empty journal at the start. -/
def gathered (linter : Linter) (fix : Bool) (paths : List Path) (tree : FileTree) : Progress :=
  Check.files ⟨linter, fix⟩ { tree } (tree.collect paths linter.settings.exclude)

/-- **How a check of paths that all lead somewhere exits**, whatever is in its journal. -/
theorem exit_runCheck (hhas : ∀ p ∈ paths, tree.has p = true) :
    (runCheck linter fix json paths tree).exit = (gathered linter fix paths tree).exit fix := by
  have hmissing : paths.filter (fun p => !tree.has p) = [] := by
    simpa [List.filter_eq_nil_iff] using hhas
  have hexit : ∀ entries, (Check.files ⟨linter, fix⟩ { tree, entries }
      (tree.collect paths linter.settings.exclude)).exit fix =
        (gathered linter fix paths tree).exit fix := by
    intro entries
    rw [← Progress.exit_silent, Check.silent_files]
    rfl
  rw [← hexit (opening json (tree.collect paths linter.settings.exclude).length)]
  simp only [runCheck, hmissing, List.isEmpty_nil, if_true]
  generalize Check.files ⟨linter, fix⟩ _ _ = s
  unfold Progress.exit
  cases s.stopped with
  | some failure => rfl
  | none => exact exit_conclude fix json s

theorem exit_runCheck_of_missing (h : ¬ ∀ p ∈ paths, tree.has p = true) :
    (runCheck linter fix json paths tree).exit = .ok 1 := by
  have hmissing : (paths.filter fun p => !tree.has p).isEmpty = false := by
    simpa [List.filter_eq_nil_iff] using h
  simp only [runCheck, hmissing, Bool.false_eq_true, if_false]

theorem exit_eq_zero_iff {s : Progress} : s.exit false = .ok 0 ↔ s.Spotless := by
  unfold Progress.exit
  constructor
  · intro h
    split at h
    · cases h
    · next hstopped =>
      obtain ⟨hfailed, hoffenses⟩ := Summary.exitCode_eq_zero_iff.mp (Except.ok.inj h)
      refine ⟨hstopped, hfailed, fun r hr => List.eq_nil_iff_forall_not_mem.mpr fun o ho => ?_⟩
      cases hoffenses r hr o ho
  · intro h
    rw [h.stopped]
    refine congrArg Except.ok (Summary.exitCode_eq_zero_iff.mpr ⟨h.failed, fun r hr o ho => ?_⟩)
    rw [h.offenses r hr] at ho
    exact absurd ho List.not_mem_nil

theorem exit_eq_one_iff {s : Progress} (hstopped : s.stopped = none) :
    s.exit false = .ok 1 ↔ ¬ s.Spotless := by
  simp only [← exit_eq_zero_iff, Progress.exit, hstopped, Summary.exitCode]
  split <;> simp

theorem spotless_gathered_iff (henabled : linter.settings.enabled)
    (hhas : ∀ p ∈ paths, tree.has p = true) :
    (gathered linter false paths tree).Spotless ↔ linter.Clean tree paths := by
  have hstart : Progress.Spotless { tree } := ⟨rfl, rfl, nofun⟩
  rw [gathered, Check.spotless_files henabled rfl]
  constructor
  · rintro ⟨_, hfinds⟩
    refine ⟨hhas, fun i p hp => ?_⟩
    have := hfinds i p hp
    rwa [List.length_nil, Nat.zero_add] at this
  · intro h
    refine ⟨hstart, fun i p hp => ?_⟩
    rw [List.length_nil, Nat.zero_add]
    exact h.finds i p hp

/-- **The exit code of a check that corrects nothing is exact.**  It is zero if and only if all
paths lead somewhere and each file that they stand for can be read, has no syntax errors and no
offense. Otherwise it is one, if the parser gives a tree for each text.  And it does not depend on
how the check reports. -/
theorem exit_exact (linter : Linter) (paths : List Path) (tree : FileTree)
    (henabled : linter.settings.enabled) :
    (∀ json, (runCheck linter false json paths tree).exit = .ok 0 ↔ linter.Clean tree paths) ∧
    (linter.Parses tree (tree.collect paths linter.settings.exclude) →
      ∀ json, (runCheck linter false json paths tree).exit = .ok 1 ↔ ¬ linter.Clean tree paths) ∧
    (runCheck linter false true paths tree).exit =
      (runCheck linter false false paths tree).exit := by
  by_cases hhas : ∀ p ∈ paths, tree.has p = true
  · simp only [exit_runCheck hhas, ← spotless_gathered_iff henabled hhas]
    refine ⟨fun _ => exit_eq_zero_iff, fun hparses _ => exit_eq_one_iff ?_, trivial⟩
    exact Check.stopped_files henabled rfl hparses
  · have hunclean : ¬ linter.Clean tree paths := fun h => hhas h.has
    simp [exit_runCheck_of_missing hhas, hunclean]

/-- A file with an offense, and an empty one beside the working directory. -/
def twoFiles : FileTree where
  here := ["work"]
  files := [(["work", "x.rb"], Utf8.encode "a, b = 1, 2".toList), (["y.rb"], [])]

/-- The linter whose parser knows the first file, and takes every other one for empty. -/
def plainLinter : Linter where
  settings := default
  parser := fun _ source =>
    .ok ⟨source,
      if source.text = "a, b = 1, 2" then Linter.twoAssigned
      else .program (some ⟨0, source.chars.length⟩) [], false⟩

theorem located_twoAssigned : Split.Located Linter.twoAssigned := by
  have hall : ∀ n ∈ Linter.twoAssigned.preorder, n.span.isSome = true := by decide
  intro n hn
  rw [Node.walk_eq_preorder] at hn
  exact Option.isSome_iff_exists.mp (hall n hn)

theorem finds_twoAssigned :
    (plainLinter.inspection.run
      ⟨Source.ofString "a, b = 1, 2" "x.rb", Linter.twoAssigned, false⟩ true).result.map
        List.length = .ok 1 := by
  cbv

/-- The empty file alone is clean; together with the other one it does not make up for the offense
there. -/
theorem exit_exact_twoFiles :
    let paths : List Path := [⟨"", ["x.rb"]⟩, ⟨"/", ["y.rb"]⟩]
    plainLinter.settings.enabled ∧
    plainLinter.Parses twoFiles (twoFiles.collect paths plainLinter.settings.exclude) ∧
    ¬ plainLinter.Clean twoFiles paths ∧ plainLinter.Clean twoFiles [⟨"/", ["y.rb"]⟩] ∧
    (runCheck plainLinter false false paths twoFiles).exit = .ok 1 ∧
    (runCheck plainLinter false true paths twoFiles).exit = .ok 1 ∧
    (runCheck plainLinter false false [⟨"/", ["y.rb"]⟩] twoFiles).exit = .ok 0 := by
  intro paths
  have henabled : plainLinter.settings.enabled := rfl
  have hparses : plainLinter.Parses twoFiles
      (twoFiles.collect paths plainLinter.settings.exclude) := by
    intro p _ text _ calls
    refine ⟨_, rfl, ?_⟩
    dsimp only
    split
    · exact located_twoAssigned
    · intro n hn
      rw [Node.walk_eq_preorder] at hn
      cases List.mem_singleton.mp hn
      exact ⟨_, rfl⟩
  have hunclean : ¬ plainLinter.Clean twoFiles paths := by
    intro h
    have hcollect : twoFiles.collect paths plainLinter.settings.exclude = paths := rfl
    have hread : twoFiles.readText ⟨"", ["x.rb"]⟩ = .ok "a, b = 1, 2" := by decide +kernel
    obtain ⟨text, htext, tree, htree, _, hfound⟩ := h.finds 0 ⟨"", ["x.rb"]⟩ (by rw [hcollect]; rfl)
    rw [hread] at htext
    cases htext
    have hroot : tree = ⟨Source.ofString "a, b = 1, 2" "x.rb", Linter.twoAssigned, false⟩ :=
      (Except.ok.inj htree).symm
    have hone := finds_twoAssigned
    rw [← hroot, hfound] at hone
    cases hone
  have hclean : plainLinter.Clean twoFiles [⟨"/", ["y.rb"]⟩] := by
    have hcollect : twoFiles.collect [⟨"/", ["y.rb"]⟩] plainLinter.settings.exclude =
        [⟨"/", ["y.rb"]⟩] := by
      rfl
    have hread : twoFiles.readText ⟨"/", ["y.rb"]⟩ = .ok "" := by decide +kernel
    refine ⟨by decide +kernel, fun i p hp => ?_⟩
    rw [hcollect] at hp
    cases i with
    | zero =>
      cases hp
      exact ⟨"", hread, _, rfl, rfl, by decide +kernel⟩
    | succ i => cases hp
  obtain ⟨_, hone, _⟩ := exit_exact plainLinter paths twoFiles henabled
  obtain ⟨hzero, _⟩ := exit_exact plainLinter [⟨"/", ["y.rb"]⟩] twoFiles henabled
  exact ⟨henabled, hparses, hunclean, hclean, (hone hparses false).mpr hunclean,
    (hone hparses true).mpr hunclean, (hzero false).mpr hclean⟩

end Session

end MultiAssign
