import MultiAssign.Proofs.FileTree
import MultiAssign.Proofs.Passes
import MultiAssign.Command.Session

/-!
# The files after a check

A check goes through files one by one and may write to each of them.  The main statement,
`Session.runCheck_rewrites_only_corrected`, says what the files hold when it is through: the ones
that were corrected without a mistake hold their new text, and all others are what they were, byte
for byte.  It also says that a file fares as it would alone.

One step of the check changes no file but its own, and what it does there depends on that file only
(`Check.follows_file`, `Check.read?_file`).  A run of such steps is taken apart by induction over
the files (`Check.exists_checked_of_files`): because different paths lead to different files, a file
is still as it was when its turn comes, and stays as it is from then on.

The linter's parser may answer by what it was asked before.  So a file alone means a file with a
parser that has as many texts behind it (`Parser.after`); for a parser proper that is the same
parser.
-/

namespace MultiAssign

/-! ### Parsers with a past -/

/-- The parser, after it was given `k` texts. -/
def Parser.after (parser : Parser) (k : Nat) : Parser := fun calls source =>
  parser (k + calls) source

theorem Parser.Steady.after {parser : Parser} (h : parser.Steady) (k : Nat) :
    parser.after k = parser := by
  funext calls source
  exact h (k + calls) calls source

namespace Linter

variable {settings : Settings} {parser : Parser} {name : String}

theorem passes_after (k left pass calls : Nat) (current : String) (edits : List Edit)
    (report : Report) :
    passes ⟨settings, parser.after k⟩ name left pass calls current edits report =
      passes ⟨settings, parser⟩ name left pass (k + calls) current edits report := by
  induction left generalizing pass calls current edits report with
  | zero => rfl
  | succ left ih =>
    rw [passes, passes]
    simp only [Parser.after, ih, Nat.add_assoc]
    rfl

theorem run_after (k : Nat) (code : String) (autocorrect : Bool) (calls : Nat) :
    run ⟨settings, parser.after k⟩ code autocorrect name calls =
      run ⟨settings, parser⟩ code autocorrect name (k + calls) := by
  rw [run, run]
  simp only [Parser.after, passes_after, Nat.add_assoc]
  rfl

/-- For a parser proper it does not matter how many texts were parsed before. -/
theorem run_eq_of_steady (l : Linter) (h : l.parser.Steady) (code : String) (autocorrect : Bool)
    (name : String) (calls : Nat) :
    l.run code autocorrect name calls = l.run code autocorrect name 0 := by
  have hafter := @run_after l.settings l.parser name calls code autocorrect 0
  rw [h.after] at hafter
  exact hafter.symm

end Linter

namespace Check

variable {c : Check} {s s' s'' : Progress} {p : Path} {ps : List Path}

/-! ### One file -/

/-- The file that a path leads to is corrected: it can be read, linting it succeeds, and the outcome
`code` differs from what was read.  Before it, `calls` texts were parsed. -/
def Corrects (c : Check) (t : FileTree) (calls : Nat) (p : Path) (code : String) : Prop :=
  c.fix = true ∧ ∃ text report, t.readText p = .ok text ∧
    (c.linter.run text c.fix p.text calls).result = .ok report ∧ report.success = true ∧
    report.code = code ∧ code ≠ text

/-- The bytes of a file once it was checked. -/
def outcome (c : Check) (t : FileTree) (calls : Nat) (p : Path) : Option (List UInt8) :=
  match t.readText p with
  | .error _ => t.read? p
  | .ok text =>
    match (c.linter.run text c.fix p.text calls).result with
    | .error _ => t.read? p
    | .ok report =>
      if c.writesBack text report then (t.read? p).map fun _ => Utf8.encode report.code.toList
      else t.read? p

theorem outcome_of_corrects {t : FileTree} {calls : Nat} {code : String}
    (h : c.Corrects t calls p code) :
    c.outcome t calls p = (t.read? p).map fun _ => Utf8.encode code.toList := by
  obtain ⟨hfix, text, report, htext, hreport, hsuccess, rfl, hne⟩ := h
  have hwrites : c.writesBack text report = true := by simp [writesBack, hfix, hsuccess, hne]
  simp only [outcome, htext, hreport, hwrites, if_true]

theorem outcome_of_not_corrects {t : FileTree} {calls : Nat}
    (h : ∀ code, ¬ c.Corrects t calls p code) : c.outcome t calls p = t.read? p := by
  unfold outcome
  split
  · rfl
  · next text htext =>
    split
    · rfl
    · next report hreport =>
      rw [if_neg]
      intro hwrites
      simp only [writesBack, Bool.and_eq_true, bne_iff_ne, ne_eq] at hwrites
      obtain ⟨⟨hfix, hsuccess⟩, hne⟩ := hwrites
      exact h report.code ⟨hfix, text, report, htext, hreport, hsuccess, rfl, hne⟩

theorem outcome_after {settings : Settings} {parser : Parser} {fix : Bool} (t : FileTree)
    (k : Nat) : outcome ⟨⟨settings, parser.after k⟩, fix⟩ t 0 p =
      outcome ⟨⟨settings, parser⟩, fix⟩ t k p := by
  simp only [outcome, Linter.run_after, Nat.add_zero]
  rfl

theorem read?_file (c : Check) (s : Progress) (p : Path) :
    (c.file s p).tree.read? p = c.outcome s.tree s.parsed.length p := by
  unfold file outcome
  cases s.tree.readText p with
  | error fault => rfl
  | ok text =>
    simp only [lintText]
    cases (c.linter.run text c.fix p.text s.parsed.length).result with
    | error failure => rfl
    | ok report =>
      dsimp only
      split
      · exact FileTree.read?_write ..
      · rfl

/-- How a state of the check follows another one, if only the files of some paths were checked
between them. -/
structure Follows (s s' : Progress) (ps : List Path) : Prop where
  locate : ∀ q, s'.tree.locate q = s.tree.locate q
  closed : s'.tree.closed = s.tree.closed
  untouched : ∀ place, (∀ p ∈ ps, s.tree.locate p ≠ some place) →
    s'.tree.file? place = s.tree.file? place
  failed : s.failed = true → s'.failed = true
  reports : s.reports ⊆ s'.reports

namespace Follows

theorem refl (s : Progress) : Follows s s [] where
  locate _ := rfl
  closed := rfl
  untouched _ _ := rfl
  failed h := h
  reports _ h := h

theorem cons (h : Follows s s' [p]) (h' : Follows s' s'' ps) : Follows s s'' (p :: ps) where
  locate q := (h'.locate q).trans (h.locate q)
  closed := h'.closed.trans h.closed
  untouched place hplace := by
    rw [h'.untouched place, h.untouched place]
    · intro q hq
      rw [List.mem_singleton.mp hq]
      exact hplace p List.mem_cons_self
    · intro q hq
      rw [h.locate]
      exact hplace q (List.mem_cons_of_mem p hq)
  failed hs := h'.failed (h.failed hs)
  reports _ hr := h'.reports (h.reports hr)

/-- A path that leads to another file still leads to the same bytes. -/
theorem read?_eq (h : Follows s s' ps) {q : Path}
    (hq : ∀ p ∈ ps, s.tree.locate p ≠ s.tree.locate q) : s'.tree.read? q = s.tree.read? q := by
  rw [FileTree.read?, FileTree.read?, h.locate]
  cases hplace : s.tree.locate q with
  | none => rfl
  | some place =>
    rw [Option.bind_some, Option.bind_some, h.untouched place]
    intro p hp
    rw [← hplace]
    exact hq p hp

theorem readText_eq (h : Follows s s' ps) {q : Path}
    (hq : ∀ p ∈ ps, s.tree.locate p ≠ s.tree.locate q) :
    s'.tree.readText q = s.tree.readText q :=
  FileTree.readText_congr (h.locate q) h.closed (h.read?_eq hq)

end Follows

theorem follows_file (c : Check) (s : Progress) (p : Path) : Follows s (c.file s p) [p] := by
  unfold file
  split
  · exact ⟨fun _ => rfl, rfl, fun _ _ => rfl, fun _ => rfl, fun _ h => h⟩
  · next text _ =>
    simp only [lintText]
    split
    · exact ⟨fun _ => rfl, rfl, fun _ _ => rfl, fun h => h, fun _ h => h⟩
    · next report _ =>
      refine ⟨fun q => ?_, ?_, fun place hplace => ?_, fun h => ?_, fun _ h => ?_⟩
      · dsimp only
        split
        · exact FileTree.locate_write ..
        · rfl
      · dsimp only
        split
        · exact FileTree.closed_write ..
        · rfl
      · dsimp only
        split
        · exact FileTree.file?_write_of_ne (hplace p (List.mem_singleton_self p)) _
        · rfl
      · simp [h]
      · exact List.mem_append_left _ h

/-- A check touches the files of its paths only, wherever it stops. -/
theorem follows_files (c : Check) (s : Progress) (ps : List Path) :
    Follows s (c.files s ps) ps := by
  induction ps generalizing s with
  | nil => exact .refl s
  | cons p rest ih =>
    have hstep := c.follows_file s p
    rw [files]
    split
    · refine { hstep with untouched := fun place hplace => hstep.untouched place fun q hq => ?_ }
      rw [List.mem_singleton.mp hq]
      exact hplace p List.mem_cons_self
    · exact hstep.cons (ih _)

/-- How the file of a path stands in the state `s`: it was checked when `calls` texts were parsed
and the files were those of `t`. -/
structure Checked (c : Check) (t : FileTree) (calls : Nat) (p : Path) (s : Progress) : Prop where
  bytes : s.tree.read? p = c.outcome t calls p
  /-- It could not be read, or there is a report on it. -/
  report : (s.failed = true ∧ ∃ fault, t.readText p = .error fault) ∨
    ∃ text report, t.readText p = .ok text ∧
      (c.linter.run text c.fix p.text calls).result = .ok report ∧ (p, report) ∈ s.reports ∧
      (report.success = false → s.failed = true)

theorem checked_file (h : (c.file s p).stopped = none) :
    c.Checked s.tree s.parsed.length p (c.file s p) := by
  refine ⟨c.read?_file s p, ?_⟩
  unfold file at h ⊢
  split at h
  · next fault hfault =>
    rw [hfault]
    exact Or.inl ⟨rfl, fault, rfl⟩
  · next text htext =>
    rw [htext]
    simp only [lintText] at h ⊢
    split at h
    · cases h
    · next report hreport =>
      refine Or.inr ⟨text, report, rfl, hreport, ?_, ?_⟩
      · simp
      · intro hfailed
        simp [hfailed]

/-- What was checked stays as it is while other files are checked. -/
theorem Checked.follows {t : FileTree} {calls : Nat} (h : c.Checked t calls p s)
    (hfollows : Follows s s' ps) (hps : ∀ q ∈ ps, s.tree.locate q ≠ s.tree.locate p) :
    c.Checked t calls p s' := by
  refine ⟨(hfollows.read?_eq hps).trans h.bytes, ?_⟩
  rcases h.report with ⟨hfailed, hfault⟩ | ⟨text, report, htext, hreport, hmem, hfailed⟩
  · exact Or.inl ⟨hfollows.failed hfailed, hfault⟩
  · exact Or.inr ⟨text, report, htext, hreport, hfollows.reports hmem,
      fun hsuccess => hfollows.failed (hfailed hsuccess)⟩

/-- What is checked later is checked as it was, if no file before it leads to the same place. -/
theorem Checked.of_follows {calls : Nat} (h : c.Checked s'.tree calls p s'')
    (hfollows : Follows s s' ps) (hps : ∀ q ∈ ps, s.tree.locate q ≠ s.tree.locate p) :
    c.Checked s.tree calls p s'' := by
  have hread := hfollows.read?_eq hps
  have htext := hfollows.readText_eq hps
  refine ⟨h.bytes.trans ?_, ?_⟩
  · simp only [outcome, htext, hread]
  · simpa only [htext] using h.report

/-! ### All files -/

/-- **Every file is checked as if it were the first**, and nothing else is touched. -/
theorem exists_checked_of_files
    (hdistinct : ps.Pairwise fun p q => s.tree.locate p ≠ s.tree.locate q)
    (h : (c.files s ps).stopped = none) :
    Follows s (c.files s ps) ps ∧
    ∃ before : Path → Nat, ∀ p ∈ ps, c.Checked s.tree (before p) p (c.files s ps) := by
  induction ps generalizing s with
  | nil => exact ⟨.refl s, fun _ => 0, nofun⟩
  | cons p rest ih =>
    obtain ⟨hp, hrest⟩ := List.pairwise_cons.mp hdistinct
    have hstep := c.follows_file s p
    simp only [files] at h ⊢
    split at h
    · next hstopped =>
      rw [h] at hstopped
      cases hstopped
    · next hstopped =>
      rw [if_neg hstopped]
      have hgoes : (c.file s p).stopped = none := by simpa using hstopped
      have hrest' : rest.Pairwise fun p' q =>
          (c.file s p).tree.locate p' ≠ (c.file s p).tree.locate q := by
        simpa only [hstep.locate] using hrest
      obtain ⟨hfollows, before, hchecked⟩ := ih hrest' h
      refine ⟨hstep.cons hfollows, Function.update before p s.parsed.length, fun q hq => ?_⟩
      by_cases hqp : q = p
      · subst hqp
        rw [Function.update_self]
        refine (checked_file hgoes).follows hfollows fun q' hq' => ?_
        rw [hstep.locate, hstep.locate]
        exact (hp q' hq').symm
      · rw [Function.update_of_ne hqp]
        have hq := (List.mem_cons.mp hq).resolve_left hqp
        refine (hchecked q hq).of_follows hstep fun p' hp' => ?_
        rw [List.mem_singleton.mp hp']
        exact hp q hq

end Check

/-! ### The whole check -/

namespace Session

variable {linter : Linter} {fix json : Bool} {paths : List Path} {tree : FileTree}

theorem tree_conclude (fix json : Bool) (s : Progress) : (conclude fix json s).tree = s.tree := by
  unfold conclude
  split <;> rfl

theorem tree_runCheck (h : ∀ p ∈ paths, tree.has p = true) :
    (runCheck linter fix json paths tree).tree =
      (Check.files ⟨linter, fix⟩
        { tree, entries := opening json (tree.collect paths linter.settings.exclude).length }
        (tree.collect paths linter.settings.exclude)).tree := by
  have hmissing : paths.filter (fun p => !tree.has p) = [] := by
    simpa [List.filter_eq_nil_iff] using h
  simp only [runCheck, hmissing, List.isEmpty_nil, if_true]
  split
  · rfl
  · exact tree_conclude ..

theorem runCheck_of_missing (h : ∃ p ∈ paths, tree.has p = false) :
    (runCheck linter fix json paths tree).tree = tree := by
  have hmissing : (paths.filter fun p => !tree.has p).isEmpty = false := by
    simpa [List.filter_eq_nil_iff] using h
  simp only [runCheck, hmissing, Bool.false_eq_true, if_false]

theorem stopped_of_exit {code : Nat} (h : ∀ p ∈ paths, tree.has p = true)
    (hexit : (runCheck linter fix json paths tree).exit = .ok code) :
    (Check.files ⟨linter, fix⟩
      { tree, entries := opening json (tree.collect paths linter.settings.exclude).length }
      (tree.collect paths linter.settings.exclude)).stopped = none := by
  have hmissing : paths.filter (fun p => !tree.has p) = [] := by
    simpa [List.filter_eq_nil_iff] using h
  simp only [runCheck, hmissing, List.isEmpty_nil, if_true] at hexit
  split at hexit
  · cases hexit
  · next hstopped => exact hstopped

theorem read?_runCheck_singleton {p : Path} (hfile : tree.hasFile p = true)
    (hexclude : isExcluded linter.settings.exclude p = false) :
    (runCheck linter fix json [p] tree).tree.read? p = Check.outcome ⟨linter, fix⟩ tree 0 p := by
  rw [tree_runCheck (by simpa using FileTree.has_of_hasFile hfile),
    FileTree.collect_singleton hfile hexclude]
  simp only [Check.files, ite_self]
  exact Check.read?_file ..

/-- **A check rewrites the files that it corrected, and no others.**  A path that leads nowhere
leaves all files as they are.  Otherwise a file that was collected and corrected holds exactly its
new text; every other file holds the same bytes as before.  And each of the files that were
collected ends up as if it were checked alone. -/
theorem runCheck_rewrites_only_corrected (linter : Linter) (fix json : Bool) (paths : List Path)
    (tree : FileTree)
    (hdistinct : (tree.collect paths linter.settings.exclude).Pairwise
      fun p q => tree.locate p ≠ tree.locate q)
    {code : Nat} (hexit : (runCheck linter fix json paths tree).exit = .ok code) :
    ((∃ p ∈ paths, tree.has p = false) → (runCheck linter fix json paths tree).tree = tree) ∧
    (∀ place, (∀ p ∈ tree.collect paths linter.settings.exclude, tree.locate p ≠ some place) →
      (runCheck linter fix json paths tree).tree.file? place = tree.file? place) ∧
    ((∀ p ∈ paths, tree.has p = true) → ∃ before : Path → Nat,
      ∀ p ∈ tree.collect paths linter.settings.exclude,
        (∀ text, Check.Corrects ⟨linter, fix⟩ tree (before p) p text →
          (runCheck linter fix json paths tree).tree.read? p = some (Utf8.encode text.toList)) ∧
        ((∀ text, ¬ Check.Corrects ⟨linter, fix⟩ tree (before p) p text) →
          (runCheck linter fix json paths tree).tree.read? p = tree.read? p) ∧
        (runCheck linter fix json paths tree).tree.read? p =
          (runCheck ⟨linter.settings, linter.parser.after (before p)⟩ fix json [p]
            tree).tree.read? p ∧
        (linter.parser.Steady → (runCheck linter fix json paths tree).tree.read? p =
          (runCheck linter fix json [p] tree).tree.read? p)) := by
  by_cases hhas : ∀ p ∈ paths, tree.has p = true
  · have hmissing : ¬ ∃ p ∈ paths, tree.has p = false := by
      rintro ⟨p, hp, hfalse⟩
      rw [hhas p hp] at hfalse
      cases hfalse
    have hstopped := stopped_of_exit hhas hexit
    obtain ⟨hfollows, before, hchecked⟩ := Check.exists_checked_of_files hdistinct hstopped
    rw [tree_runCheck hhas]
    refine ⟨fun h => absurd h hmissing, hfollows.untouched, fun _ => ⟨before, fun p hp => ?_⟩⟩
    have hbytes := (hchecked p hp).bytes
    have hfile := FileTree.hasFile_of_mem_collect hp
    have hexclude := (FileTree.mem_collect.mp hp).2
    have halone : ∀ parser : Parser,
        (runCheck ⟨linter.settings, parser⟩ fix json [p] tree).tree.read? p =
          Check.outcome ⟨⟨linter.settings, parser⟩, fix⟩ tree 0 p :=
      fun parser => read?_runCheck_singleton hfile hexclude
    refine ⟨fun text htext => ?_, fun hnone => ?_, ?_, fun hsteady => ?_⟩
    · obtain ⟨bytes, hread⟩ := FileTree.exists_bytes_of_hasFile hfile
      rw [hbytes, Check.outcome_of_corrects htext, hread, Option.map_some]
    · rw [hbytes, Check.outcome_of_not_corrects hnone]
    · rw [hbytes, halone, Check.outcome_after]
    · rw [hbytes, halone, ← Check.outcome_after, hsteady.after]
  · have hmissing : ∃ p ∈ paths, tree.has p = false := by simpa using hhas
    rw [runCheck_of_missing hmissing]
    exact ⟨fun _ => rfl, fun _ _ => rfl, fun h => absurd h hhas⟩

/-- A file to correct, one that is closed, and one that is not asked for. -/
def threeFiles : FileTree where
  here := ["work"]
  files :=
    [(["work", "x.rb"], Utf8.encode "a, b = 1, 2".toList), (["work", "y.rb"], [0x61]),
      (["work", "z.rb"], [0x61])]
  closed := [(["work", "y.rb"], ⟨13, "Permission denied"⟩)]

def twoPaths : List Path := [⟨"", ["x.rb"]⟩, ⟨"/", ["work", "y.rb"]⟩]

def knowingLinter : Linter := ⟨default, Linter.knowing "a, b = 1, 2" Linter.twoAssigned⟩

theorem readText_threeFiles : threeFiles.readText ⟨"", ["x.rb"]⟩ = .ok "a, b = 1, 2" := by
  decide +kernel

theorem readText_threeFiles_fault :
    threeFiles.readText ⟨"/", ["work", "y.rb"]⟩ =
      .error (.refused ⟨13, "Permission denied"⟩) := by
  rfl

theorem collect_threeFiles :
    threeFiles.collect twoPaths knowingLinter.settings.exclude = twoPaths := by
  rfl

theorem exit_threeFiles : (runCheck knowingLinter true true twoPaths threeFiles).exit = .ok 1 := by
  have hmissing : (twoPaths.filter fun p => !threeFiles.has p) = [] := rfl
  have hrun : (knowingLinter.run "a, b = 1, 2" true (Path.mk "" ["x.rb"]).text 0).result =
      .ok Linter.twoAssignedReport :=
    Linter.run_twoAssigned.1
  have hwrites : Check.writesBack ⟨knowingLinter, true⟩ "a, b = 1, 2"
      Linter.twoAssignedReport = true := by
    decide
  have hfault : (threeFiles.writeText ⟨"", ["x.rb"]⟩ Linter.twoAssignedReport.code).readText
      ⟨"/", ["work", "y.rb"]⟩ = .error (.refused ⟨13, "Permission denied"⟩) := by
    rfl
  rw [runCheck, hmissing, collect_threeFiles]
  simp only [twoPaths, Check.files, Check.file, readText_threeFiles, Check.lintText,
    List.length_nil, hrun, hwrites, if_true, hfault, Option.isSome_none, Bool.false_eq_true,
    if_false, List.isEmpty_nil, conclude, Summary.exitCode, Bool.true_or]

/-- The first of the three files is rewritten, though the second one cannot be opened. -/
theorem runCheck_rewrites_only_corrected_first :
    let after := (runCheck knowingLinter true true twoPaths threeFiles).tree
    (threeFiles.collect twoPaths knowingLinter.settings.exclude).Pairwise
        (fun p q => threeFiles.locate p ≠ threeFiles.locate q) ∧
      (runCheck knowingLinter true true twoPaths threeFiles).exit = .ok 1 ∧
      after.read? ⟨"", ["x.rb"]⟩ = some (Utf8.encode "a = 1\nb = 2".toList) ∧
      after.read? ⟨"/", ["work", "y.rb"]⟩ = some [0x61] ∧
      after.file? ["work", "z.rb"] = some [0x61] := by
  intro after
  have hdistinct : (threeFiles.collect twoPaths knowingLinter.settings.exclude).Pairwise
      (fun p q => threeFiles.locate p ≠ threeFiles.locate q) := by
    rw [collect_threeFiles]
    decide +kernel
  have hhas : ∀ p ∈ twoPaths, threeFiles.has p = true := by decide +kernel
  obtain ⟨_, hothers, hfiles⟩ := runCheck_rewrites_only_corrected knowingLinter true true twoPaths
    threeFiles hdistinct exit_threeFiles
  obtain ⟨before, hbefore⟩ := hfiles hhas
  rw [collect_threeFiles] at hbefore hothers
  have hsteady : knowingLinter.parser.Steady := fun _ _ _ => rfl
  refine ⟨hdistinct, exit_threeFiles, ?_, ?_, ?_⟩
  · refine (hbefore ⟨"", ["x.rb"]⟩ (by decide)).1 _
      ⟨rfl, "a, b = 1, 2", Linter.twoAssignedReport, readText_threeFiles, ?_, rfl, rfl, by decide⟩
    rw [knowingLinter.run_eq_of_steady hsteady]
    exact Linter.run_twoAssigned.1
  · refine (hbefore ⟨"/", ["work", "y.rb"]⟩ (by decide)).2.1 ?_
    rintro text ⟨_, _, _, htext, _⟩
    rw [readText_threeFiles_fault] at htext
    cases htext
  · exact hothers ["work", "z.rb"] (by decide +kernel)

end Session

end MultiAssign
