import MultiAssign.Proofs.CheckedFiles
import MultiAssign.Proofs.LineEnds

/-!
# What an exit code of zero promises

A check that corrects and exits with zero has read all its files, and every offense that it found at
first could be corrected (`Session.resolved_of_exit`).  What the files hold afterwards is the last
text of a course of passes.  The main statement, `Session.runCheck_zero_leaves`, says what a second
look at that text finds: what the last pass would have gone on to correct.

That may be something.  The offenses of the first inspection count as mended as soon as one
correction was made, and those of the last one are not asked for, so a check that runs out of passes
exits with zero while offenses are left (`Session.runCheck_zero_leaves_nested`).
-/

namespace MultiAssign

namespace Linter

variable {l : Linter} {name : String} {calls : Nat} {code : String}

/-- The text, parsed after `calls` others, has no syntax errors, and its inspection finds the
offenses. -/
def Finds (l : Linter) (name : String) (calls : Nat) (text : String) (offenses : List Offense) :
    Prop :=
  ∃ tree, l.parser calls (Source.ofString text name) = .ok tree ∧ tree.hasErrors = false ∧
    (l.inspection.run tree true).result = .ok offenses

theorem Proposes.exists_finds {text : String} {edits : List Edit}
    (h : l.Proposes name calls text edits) :
    ∃ offenses, l.Finds name calls text offenses ∧ Offense.corrections offenses = edits := by
  obtain ⟨tree, offenses, htree, herrors, hoffenses, hedits⟩ := h
  exact ⟨offenses, ⟨tree, htree, herrors, hoffenses⟩, hedits⟩

theorem Finds.unique {text : String} {found found' : List Offense}
    (h : l.Finds name calls text found) (h' : l.Finds name calls text found') : found = found' := by
  obtain ⟨tree, htree, _, hfound⟩ := h
  obtain ⟨tree', htree', _, hfound'⟩ := h'
  rw [htree] at htree'
  cases htree'
  rw [hfound] at hfound'
  exact Except.ok.inj hfound'

theorem Finds.run (h : l.Finds name calls code found) (henabled : l.settings.enabled) :
    (l.run code false name calls).result = .ok { code, offenses := found } := by
  obtain ⟨tree, htree, herrors, hfound⟩ := h
  simp only [Linter.run, henabled, if_true, Run.result_parsing, htree, Run.result_noting, herrors,
    hfound, Bool.false_eq_true, if_false, Bool.false_and, Run.result_done]

/-- No pass changes which offenses are reported. -/
theorem offenses_of_passes {left pass : Nat} {current : String} {edits : List Edit}
    {report final : Report}
    (h : (l.passes name left pass calls current edits report).result = .ok final) :
    final.offenses = report.offenses := by
  induction left generalizing pass calls current edits report with
  | zero =>
    cases h
    rfl
  | succ left ih =>
    have hturn := turn_of_passes h
    generalize (l.passes name (left + 1) pass calls current edits report).parsed = parsed at hturn
    cases hturn with
    | rest _ hfinal => rw [hfinal]
    | back _ _ _ hfinal => rw [hfinal]
    | on _ _ _ hnext hresult =>
      rw [hnext] at hresult
      exact (ih hresult).trans rfl

/-- A run that succeeds reports the offenses of the text that it was given. -/
theorem finds_of_run (henabled : l.settings.enabled) {report : Report}
    (h : (l.run code true name calls).result = .ok report) (hsuccess : report.success = true) :
    l.Finds name calls code report.offenses := by
  rw [Linter.run, if_pos henabled, Run.result_parsing] at h
  split at h
  · cases h
  · next tree htree =>
    rw [Run.result_noting] at h
    split at h
    · cases h
      cases hsuccess
    · next herrors =>
      rw [Run.result_noting] at h
      split at h
      · cases h
      · next offenses hoffenses =>
        have hreported : report.offenses = offenses := by
          dsimp only at h
          split at h
          · exact offenses_of_passes h
          · cases h
            rfl
        rw [hreported]
        exact ⟨tree, htree, Bool.eq_false_iff.mpr herrors, hoffenses⟩

/-- **What a run that succeeds leaves behind**: the last text of a course, in which a second run
finds what the next pass would correct.  If there was no pass, these are the offenses reported. -/
theorem exists_left_of_run (henabled : l.settings.enabled) {report : Report}
    (h : (l.run code true name calls).result = .ok report) (hsuccess : report.success = true) :
    ∃ k t edits found, t 0 = code ∧ k ≤ l.settings.maxPasses ∧ Course l name calls k t edits ∧
      report.code = t k ∧ (report.corrected = 0 ↔ k = 0) ∧
      l.Finds name (calls + k) (t k) found ∧ Offense.corrections found = edits k ∧
      (k = 0 → found = report.offenses) ∧
      (k < l.settings.maxPasses → Edit.apply (t k) (edits k) = .ok (t k)) := by
  rcases broken_or_outcome_of_run henabled h with
    ⟨_, _, rfl⟩ | ⟨offenses, parsed, k, t, edits, _, rfl, hout⟩
  · cases hsuccess
  · obtain ⟨found, hfound, hcorrections⟩ := (hout.course.proposes k (Nat.le_refl k)).exists_finds
    have hcorrected : report.corrected = 0 ↔ k = 0 := by
      rw [hout.corrected, Nat.zero_add]
      exact hout.course.sum_eq_zero_iff
    refine ⟨k, t, edits, found, rfl, hout.le, hout.course, hout.code, hcorrected, hfound,
      hcorrections, ?_, ?_⟩
    · rintro rfl
      exact hfound.unique (finds_of_run henabled h hsuccess)
    · rcases hout.ending with ⟨_, _, _, hrest⟩ | ⟨_, hfailed, _⟩
      · exact hrest
      · rw [hfailed] at hsuccess
        cases hsuccess

end Linter

/-! ### The exit code -/

theorem Summary.exitCode_eq_zero_iff {fix failed : Bool} {reports : Reports} :
    exitCode fix failed reports = 0 ↔ failed = false ∧
      ∀ r ∈ reports, ∀ o ∈ r.2.offenses, o.isResolved fix r.2 = true := by
  have hremaining : remaining fix reports = 0 ↔
      ∀ r ∈ reports, ∀ o ∈ r.2.offenses, o.isResolved fix r.2 = true := by
    rw [remaining, List.length_eq_zero_iff, List.flatMap_eq_nil_iff]
    simp [List.filter_eq_nil_iff]
  rw [← hremaining, exitCode]
  cases failed <;> simp

namespace Session

variable {linter : Linter} {fix json : Bool} {paths : List Path} {tree : FileTree}

theorem exit_conclude (fix json : Bool) (s : Progress) :
    (conclude fix json s).exit = .ok (Summary.exitCode fix s.failed s.reports) := by
  unfold conclude
  split <;> rfl

theorem has_of_exit_zero (h : (runCheck linter fix json paths tree).exit = .ok 0) :
    ∀ p ∈ paths, tree.has p = true := by
  by_contra hmissing
  have hfilter : (paths.filter fun p => !tree.has p).isEmpty = false := by
    simpa [List.filter_eq_nil_iff] using hmissing
  simp only [runCheck, hfilter, Bool.false_eq_true, if_false] at h
  cases h

theorem exitCode_of_exit {code : Nat} (hhas : ∀ p ∈ paths, tree.has p = true)
    (h : (runCheck linter fix json paths tree).exit = .ok code) :
    let s := Check.files ⟨linter, fix⟩
      { tree, entries := opening json (tree.collect paths linter.settings.exclude).length }
      (tree.collect paths linter.settings.exclude)
    Summary.exitCode fix s.failed s.reports = code := by
  have hmissing : paths.filter (fun p => !tree.has p) = [] := by
    simpa [List.filter_eq_nil_iff] using hhas
  have hstopped := stopped_of_exit hhas h
  simp only [runCheck, hmissing, List.isEmpty_nil, if_true, hstopped, exit_conclude] at h
  exact Except.ok.inj h

/-- **A check that exits with zero read every file and linted it**, and each offense that it reports
could be corrected, in a file to which a correction was made. -/
theorem resolved_of_exit
    (hdistinct : (tree.collect paths linter.settings.exclude).Pairwise
      fun p q => tree.locate p ≠ tree.locate q)
    (h : (runCheck linter fix json paths tree).exit = .ok 0) :
    ∀ p ∈ tree.collect paths linter.settings.exclude, ∃ calls text report,
      tree.readText p = .ok text ∧
      (linter.run text fix p.text calls).result = .ok report ∧ report.success = true ∧
      (∀ o ∈ report.offenses, o.isResolved fix report = true) ∧
      (runCheck linter fix json paths tree).tree.read? p =
        Check.outcome ⟨linter, fix⟩ tree calls p := by
  have hhas := has_of_exit_zero h
  have hcode := Summary.exitCode_eq_zero_iff.mp (exitCode_of_exit hhas h)
  obtain ⟨_, before, hchecked⟩ := Check.exists_checked_of_files hdistinct (stopped_of_exit hhas h)
  intro p hp
  have hp := hchecked p hp
  rcases hp.report with ⟨hfailed, _⟩ | ⟨text, report, htext, hreport, hmem, hfailed⟩
  · rw [hcode.1] at hfailed
    cases hfailed
  · refine ⟨before p, text, report, htext, hreport, ?_, hcode.2 _ hmem, ?_⟩
    · by_contra hsuccess
      have := hfailed (Bool.eq_false_iff.mpr hsuccess)
      rw [hcode.1] at this
      cases this
    · rw [tree_runCheck hhas, hp.bytes]

end Session

/-- A file that was linted without a mistake holds the text of the report. -/
theorem Check.exists_outcome {c : Check} {t : FileTree} {calls : Nat} {p : Path}
    {text : String} {report : Report} (htext : t.readText p = .ok text)
    (hreport : (c.linter.run text c.fix p.text calls).result = .ok report)
    (hfix : c.fix = true) (hsuccess : report.success = true) (hplain : Plain report.code.toList) :
    ∃ bytes, c.outcome t calls p = some bytes ∧ textOfBytes bytes = .ok report.code := by
  obtain ⟨_, bytes, hbytes, hdecoded⟩ := FileTree.readText_eq_ok_iff.mp htext
  by_cases hcode : report.code = text
  · have hnone : ∀ code, ¬ c.Corrects t calls p code := by
      rintro code ⟨_, text', report', htext', hreport', _, rfl, hne⟩
      rw [htext] at htext'
      cases htext'
      rw [hreport] at hreport'
      cases hreport'
      exact hne hcode
    rw [outcome_of_not_corrects hnone, hcode]
    exact ⟨bytes, hbytes, hdecoded⟩
  · have hcorrects : c.Corrects t calls p report.code :=
      ⟨hfix, text, report, htext, hreport, hsuccess, rfl, hcode⟩
    rw [outcome_of_corrects hcorrects, hbytes, Option.map_some]
    exact ⟨_, rfl, textOfBytes_encode hplain⟩

namespace Session

theorem refusal?_runCheck {linter : Linter} {fix json : Bool} {paths : List Path}
    {tree : FileTree} (hhas : ∀ p ∈ paths, tree.has p = true) (p : Path) :
    (runCheck linter fix json paths tree).tree.refusal? p = tree.refusal? p := by
  have hfollows := Check.follows_files ⟨linter, fix⟩
    { tree, entries := opening json (tree.collect paths linter.settings.exclude).length }
    (tree.collect paths linter.settings.exclude)
  rw [tree_runCheck hhas, FileTree.refusal?, FileTree.refusal?, hfollows.locate, hfollows.closed]

/-- A file that was linted without a mistake is read back as the text of the report. -/
theorem readText_runCheck {linter : Linter} {json : Bool} {paths : List Path} {tree : FileTree}
    {calls : Nat} {p : Path} {text : String} {report : Report}
    (hhas : ∀ p ∈ paths, tree.has p = true) (htext : tree.readText p = .ok text)
    (hreport : (linter.run text true p.text calls).result = .ok report)
    (hsuccess : report.success = true) (hplain : Plain report.code.toList)
    (hbytes : (runCheck linter true json paths tree).tree.read? p =
      Check.outcome ⟨linter, true⟩ tree calls p) :
    (runCheck linter true json paths tree).tree.readText p = .ok report.code := by
  obtain ⟨bytes, houtcome, hcode⟩ := Check.exists_outcome (c := ⟨linter, true⟩) htext hreport rfl
    hsuccess hplain
  refine FileTree.readText_eq_ok_iff.mpr ⟨?_, bytes, hbytes.trans houtcome, hcode⟩
  rw [refusal?_runCheck hhas]
  exact (FileTree.readText_eq_ok_iff.mp htext).1

/-- **What an exit code of zero leaves in the files.**  Each file that was collected could be read.
It now holds the last text of a course of passes, and a second look at it finds exactly what the
next pass would correct.  So it finds nothing where nothing was found at first; and while passes
were left, no correction that it proposes changes the text. -/
theorem runCheck_zero_leaves (linter : Linter) (json : Bool) (paths : List Path) (tree : FileTree)
    (henabled : linter.settings.enabled) (hsteady : linter.parser.Steady)
    (hfaithful : linter.parser.Faithful)
    (hdistinct : (tree.collect paths linter.settings.exclude).Pairwise
      fun p q => tree.locate p ≠ tree.locate q)
    (hexit : (runCheck linter true json paths tree).exit = .ok 0) :
    ∀ p ∈ tree.collect paths linter.settings.exclude, ∃ k t edits found,
      tree.readText p = .ok (t 0) ∧ k ≤ linter.settings.maxPasses ∧
      Linter.Course linter p.text 0 k t edits ∧
      (runCheck linter true json paths tree).tree.readText p = .ok (t k) ∧
      (linter.run (t k) false p.text 0).result = .ok { code := t k, offenses := found } ∧
      Offense.corrections found = edits k ∧ (k = 0 → found = []) ∧
      (k < linter.settings.maxPasses → Edit.apply (t k) (edits k) = .ok (t k)) := by
  intro p hp
  obtain ⟨calls, text, report, htext, hreport, hsuccess, hresolved, hbytes⟩ :=
    resolved_of_exit hdistinct hexit p hp
  have hfirst := hreport
  rw [linter.run_eq_of_steady hsteady] at hfirst
  obtain ⟨k, t, edits, found, rfl, hk, hcourse, hcode, hcorrected, hfound, hedits, hzero, hrest⟩ :=
    Linter.exists_left_of_run henabled hfirst hsuccess
  have hfound0 : linter.Finds p.text 0 (t k) found := by
    obtain ⟨root, hroot, hfound⟩ := hfound
    exact ⟨root, hsteady _ 0 _ ▸ hroot, hfound⟩
  have hplain : Plain report.code.toList := by
    obtain ⟨_, _, _, hdecoded⟩ := FileTree.readText_eq_ok_iff.mp htext
    rw [hcode]
    exact hcourse.plain hfaithful (plain_of_textOfBytes hdecoded) k (Nat.le_refl k)
  refine ⟨k, t, edits, found, htext, hk, hcourse, ?_, hfound0.run henabled, hedits, ?_, hrest⟩
  · rw [← hcode]
    exact readText_runCheck (has_of_exit_zero hexit) htext hreport hsuccess hplain hbytes
  · intro hnone
    rw [hzero hnone]
    -- An offense would be resolved only if there had been a correction.
    refine List.eq_nil_iff_forall_not_mem.mpr fun o ho => ?_
    have := hresolved o ho
    simp [Offense.isResolved, hcorrected.mpr hnone] at this

/-! ### Two files -/

theorem exit_runCheck_singleton {linter : Linter} {fix json : Bool} {tree : FileTree} {p : Path}
    {text : String} {report : Report} (hfile : tree.hasFile p = true)
    (hexclude : isExcluded linter.settings.exclude p = false) (htext : tree.readText p = .ok text)
    (hreport : (linter.run text fix p.text 0).result = .ok report) :
    (runCheck linter fix json [p] tree).exit =
      .ok (Summary.exitCode fix (!report.success) [(p, report)]) := by
  have hmissing : [p].filter (fun q => !tree.has q) = [] := by
    simp [FileTree.has_of_hasFile hfile]
  simp only [runCheck, hmissing, List.isEmpty_nil, if_true,
    FileTree.collect_singleton hfile hexclude, Check.files, Check.file, htext, Check.lintText,
    List.length_nil, hreport, ite_self, exit_conclude, List.nil_append, Bool.false_or]

/-- The first of three files, checked alone, needs no second look. -/
theorem runCheck_zero_leaves_first :
    let paths : List Path := [⟨"", ["x.rb"]⟩]
    let after := (runCheck knowingLinter true false paths threeFiles).tree
    knowingLinter.settings.enabled ∧ knowingLinter.parser.Steady ∧ knowingLinter.parser.Faithful ∧
      (threeFiles.collect paths knowingLinter.settings.exclude).Pairwise
        (fun p q => threeFiles.locate p ≠ threeFiles.locate q) ∧
      (runCheck knowingLinter true false paths threeFiles).exit = .ok 0 ∧
      ∃ k t edits found, threeFiles.readText ⟨"", ["x.rb"]⟩ = .ok (t 0) ∧
        k ≤ knowingLinter.settings.maxPasses ∧
        Linter.Course knowingLinter "x.rb" 0 k t edits ∧
        after.readText ⟨"", ["x.rb"]⟩ = .ok (t k) ∧
        (knowingLinter.run (t k) false "x.rb" 0).result =
          .ok { code := t k, offenses := found } := by
  intro paths after
  have henabled : knowingLinter.settings.enabled := rfl
  have hsteady : knowingLinter.parser.Steady := fun _ _ _ => rfl
  have hfaithful : knowingLinter.parser.Faithful := by
    rintro _ _ _ ⟨⟩
    rfl
  have hdistinct : (threeFiles.collect paths knowingLinter.settings.exclude).Pairwise
      (fun p q => threeFiles.locate p ≠ threeFiles.locate q) := by
    decide +kernel
  have hexit : (runCheck knowingLinter true false paths threeFiles).exit = .ok 0 :=
    exit_runCheck_singleton rfl (by decide) readText_threeFiles Linter.run_twoAssigned.1
  obtain ⟨k, t, edits, found, hstart, hk, hcourse, hend, hfound, _⟩ :=
    runCheck_zero_leaves knowingLinter false paths threeFiles henabled hsteady hfaithful
      hdistinct hexit ⟨"", ["x.rb"]⟩ (by decide +kernel)
  exact ⟨henabled, hsteady, hfaithful, hdistinct, hexit, k, t, edits, found, hstart, hk,
    hcourse, hend, hfound⟩

/-- An assignment with another one inside its second value. -/
def nestedText : String := "a, b = 1, lambda { c, d = 3, 4 }\n"

/-- The same, after the outer assignment was taken apart. -/
def innerText : String := "a = 1\nb = lambda { c, d = 3, 4 }\n"

/-- `c, d = 3, 4`, which stands at the same place in both texts. -/
def innerAssigned : Node :=
  .multiAssign (some ⟨19, 30⟩)
    [.var (some ⟨19, 20⟩) .localVar "c", .var (some ⟨22, 23⟩) .localVar "d"]
    (.array (some ⟨26, 30⟩)
      [.literal (some ⟨26, 27⟩) .integer "3" [] true,
        .literal (some ⟨29, 30⟩) .integer "4" [] true] false)

def lambdaNode : Node :=
  .block (some ⟨10, 32⟩) (.send (some ⟨10, 32⟩) none "lambda" []) [innerAssigned]

def outerPairs : List Pair :=
  [⟨0, .var (some ⟨0, 1⟩) .localVar "a", .literal (some ⟨7, 8⟩) .integer "1" [] true, none⟩,
    ⟨1, .var (some ⟨3, 4⟩) .localVar "b", lambdaNode, none⟩]

def outerValues : Node := .array (some ⟨7, 32⟩) (outerPairs.map Pair.source) false

def outerAssigned : Node :=
  .multiAssign (some ⟨0, 32⟩) (outerPairs.map Pair.target) outerValues

def nestedRoot : Node := .program (some ⟨0, 33⟩) [outerAssigned]

def innerRoot : Node :=
  .program (some ⟨0, 33⟩)
    [.assign (some ⟨0, 5⟩) (.var (some ⟨0, 1⟩) .localVar "a")
        (.literal (some ⟨4, 5⟩) .integer "1" [] true) "=",
      .assign (some ⟨6, 32⟩) (.var (some ⟨6, 7⟩) .localVar "b") lambdaNode "="]

/-- A linter that makes one pass, with a parser that knows the two texts. -/
def nestedLinter : Linter where
  settings := { maxPasses := 1 }
  parser := fun _ source =>
    .ok ⟨source,
      if source.text = nestedText then nestedRoot
      else if source.text = innerText then innerRoot
      else .program none [], false⟩

def outerOffense : Offense where
  rule := Inspection.ruleName
  message := Inspection.ruleMessage
  path := "y.rb"
  line := 1
  column := 0
  start := 0
  stop := 32
  text := "a, b = 1, lambda { c, d = 3, 4 }"
  correction := some ⟨0, 32, "a = 1\nb = lambda { c, d = 3, 4 }"⟩

def innerOffense (line column : Nat) : Offense where
  rule := Inspection.ruleName
  message := Inspection.ruleMessage
  path := "y.rb"
  line
  column
  start := 19
  stop := 30
  text := "c, d = 3, 4"
  correction := some ⟨19, 30, "c = 3\n" ++ Split.spaces column ++ "d = 4"⟩

/-- Of two offenses, one inside the other, the pass corrects the outer one. -/
def nestedReport : Report where
  code := innerText
  offenses := [outerOffense, innerOffense 1 19]
  corrected := 1

/-- The text in `y.rb`, and the places of its two assignments. -/
def nestedSource : Source := Source.ofString nestedText "y.rb"

def outerPlace : Place := ⟨outerAssigned, [(nestedRoot, 0)]⟩

def innerPlace : Place :=
  ⟨innerAssigned, [(lambdaNode, 1), (outerValues, 1), (outerAssigned, 2), (nestedRoot, 0)]⟩

theorem edit_outerPlace (width : Nat) :
    Split.edit ⟨nestedSource, outerPlace, outerPairs, width⟩ .generic =
      .ok ⟨0, 32, "a = 1\nb = lambda { c, d = 3, 4 }"⟩ := by
  have hhead : (nestedSource.slice 7 32).head? = some '1' := rfl
  have hopening : outerValues.wordOpening nestedSource = [] := by
    simp only [outerValues, Node.wordOpening, Node.sourceIn, Node.span, Source.textOf,
      String.toList_ofList, hhead]
    rfl
  simp only [Split.edit, Split.text, Split.genericText, Split.lines, Split.opening, Split.value?,
    outerPlace, outerAssigned, hopening]
  rfl

theorem check_outerPlace :
    (nestedLinter.inspection.check nestedSource true outerPlace).result =
      .ok (some outerOffense) := by
  have hverdict : Inspection.verdict outerPlace = .splittable outerPairs := by cbv
  have hstrategy : ∀ width,
      Split.strategy? ⟨nestedSource, outerPlace, outerPairs, width⟩ = some .generic := by
    intro width
    cbv
  have hspan : outerPlace.node.span = some ⟨0, 32⟩ := rfl
  have hall : nestedLinter.inspection.strategies.contains .generic = true := rfl
  simp only [Inspection.check, hverdict, Inspection.report, hspan, Inspection.correct, hstrategy,
    Inspection.editWith, hall, if_true, edit_outerPlace]
  rfl

theorem inspect_nestedRoot :
    (nestedLinter.inspection.run ⟨nestedSource, nestedRoot, false⟩ true).result =
      .ok nestedReport.offenses := by
  have hplaces : Inspection.assignments nestedRoot = [outerPlace, innerPlace] := by cbv
  have hinner : (nestedLinter.inspection.check nestedSource true innerPlace).result =
      .ok (some (innerOffense 1 19)) := by
    cbv
  simp only [Inspection.run, hplaces, Inspection.checkAll, check_outerPlace, hinner]
  cbv

theorem inspect_innerRoot :
    (nestedLinter.inspection.run ⟨Source.ofString innerText "y.rb", innerRoot, false⟩ true).result =
      .ok [innerOffense 2 13] := by
  cbv

theorem run_nestedText :
    (nestedLinter.run nestedText true "y.rb" 0).result = .ok nestedReport := by
  have hparse : ∀ calls, nestedLinter.parser calls (Source.ofString nestedText "y.rb") =
      .ok ⟨nestedSource, nestedRoot, false⟩ := by
    intro calls
    rfl
  have hparse' : ∀ calls, nestedLinter.parser calls (Source.ofString innerText "y.rb") =
      .ok ⟨Source.ofString innerText "y.rb", innerRoot, false⟩ := by
    intro calls
    rfl
  have happly : Edit.apply nestedText (Offense.corrections nestedReport.offenses) =
      .ok innerText := by
    cbv
  have hsome : (Offense.corrections nestedReport.offenses).isEmpty = false := rfl
  have hselect : (Edit.select (Offense.corrections nestedReport.offenses)).length = 1 := by cbv
  have hne : innerText ≠ nestedText := by decide
  have henabled : nestedLinter.settings.enabled = true := rfl
  have hpasses : nestedLinter.settings.maxPasses = 1 := rfl
  have hoffenses : nestedReport.offenses.isEmpty = false := rfl
  simp only [Linter.run, henabled, if_true, hparse, Run.result_parsing, Run.result_noting,
    inspect_nestedRoot, Bool.false_eq_true, if_false, hoffenses, Bool.not_false, Bool.and_self,
    hpasses, Linter.passes, hsome, happly, hne, hparse', inspect_innerRoot, Run.result_done,
    hselect]
  rfl

theorem run_innerText :
    (nestedLinter.run innerText false "y.rb" 0).result =
      .ok { code := innerText, offenses := [innerOffense 2 13] } := by
  have hfinds : nestedLinter.Finds "y.rb" 0 innerText [innerOffense 2 13] :=
    ⟨⟨Source.ofString innerText "y.rb", innerRoot, false⟩, rfl, rfl, inspect_innerRoot⟩
  exact hfinds.run rfl

def nestedFile : FileTree where
  here := ["work"]
  files := [(["work", "y.rb"], Utf8.encode nestedText.toList)]

/-- The pass that was allowed went to the outer one of two assignments.  The check exits with zero,
and the inner one is still there. -/
theorem runCheck_zero_leaves_nested :
    let paths : List Path := [⟨"", ["y.rb"]⟩]
    let after := (runCheck nestedLinter true false paths nestedFile).tree
    nestedLinter.settings.enabled ∧ 1 ≤ nestedLinter.settings.maxPasses ∧
      nestedLinter.parser.Steady ∧
      nestedFile.collect paths nestedLinter.settings.exclude = paths ∧
      (runCheck nestedLinter true false paths nestedFile).exit = .ok 0 ∧
      ∃ text found, after.readText ⟨"", ["y.rb"]⟩ = .ok text ∧
        (nestedLinter.run text false "y.rb" 0).result = .ok { code := text, offenses := found } ∧
        found ≠ [] := by
  intro paths after
  have htext : nestedFile.readText ⟨"", ["y.rb"]⟩ = .ok nestedText := by decide +kernel
  have hfile : nestedFile.hasFile ⟨"", ["y.rb"]⟩ = true := rfl
  have hexclude : isExcluded nestedLinter.settings.exclude ⟨"", ["y.rb"]⟩ = false := by decide
  have hexit : (runCheck nestedLinter true false paths nestedFile).exit = .ok 0 :=
    exit_runCheck_singleton hfile hexclude htext run_nestedText
  have hcode : after.readText ⟨"", ["y.rb"]⟩ = .ok innerText := by
    have hplain : Plain nestedReport.code.toList := by decide
    have hhas : ∀ p ∈ paths, nestedFile.has p = true := by
      simpa [paths] using FileTree.has_of_hasFile hfile
    exact readText_runCheck hhas htext run_nestedText rfl hplain
      (read?_runCheck_singleton hfile hexclude)
  exact ⟨rfl, Nat.le_refl 1, fun _ _ _ => rfl, FileTree.collect_singleton hfile hexclude,
    hexit, innerText, _, hcode, run_innerText, by simp⟩

end Session

end MultiAssign
