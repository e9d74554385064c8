import MultiAssign.Proofs.ZeroExit

/-!
# What a correction keeps of a file

A file is read, corrected and written back.  This file says what becomes of the parts of it that no
correction replaces.

The corrections have their ranges in the text that was read, in which every line ends in a newline.
`Text.origin` takes a position of that text back to the file, and taking a piece of the text is
reading the piece of the file between the two positions (`Text.take_newlines`,
`Text.drop_newlines`).  So between its corrections the new file has the old pieces as they are read
(`Edit.outside_newlines`), and these are the old pieces themselves only where there is no carriage
return in them (`Edit.weave_newlines_eq_iff`).

The main statement, `Session.runCheck_keeps_iff`, says that of a file that a check comes to and
rewrites in one pass: its carriage returns outside of the corrections are lost, so that the rest of
the file is kept exactly if it had none.  A file in which it had some is
`Session.runCheck_loses_returns`.
-/

namespace MultiAssign

/-! ### Positions in a file -/

namespace Text

/-- Where a position of the text that is read from a file stands in the file. -/
def origin : List Char → Nat → Nat
  | _, 0 => 0
  | '\r' :: '\n' :: rest, n + 1 => origin rest n + 2
  | _ :: rest, n + 1 => origin rest n + 1
  | [], n + 1 => n + 1

@[simp] theorem origin_zero (cs : List Char) : origin cs 0 = 0 := by
  rw [origin]

@[simp] theorem origin_nil (n : Nat) : origin [] n = n := by
  cases n <;> rw [origin]

theorem drop_newlines (cs : List Char) (n : Nat) :
    (newlines cs).drop n = newlines (cs.drop (origin cs n)) := by
  fun_induction origin cs n with
  | case1 cs => rfl
  | case2 rest n ih => simpa [newlines] using ih
  | case3 c rest n hc ih =>
    rw [newlines.eq_2 _ _ hc]
    simpa using ih
  | case4 n => rfl

theorem take_newlines (cs : List Char) (n : Nat) :
    (newlines cs).take n = newlines (cs.take (origin cs n)) := by
  fun_induction origin cs n with
  | case1 cs => rfl
  | case2 rest n ih => simpa [newlines] using ih
  | case3 c rest n hc ih =>
    -- a line end of two characters is never cut
    have hc' : ∀ rest', c = '\r' → rest.take (origin rest n) = '\n' :: rest' → False := by
      intro rest' hr htake
      refine hc (rest' ++ rest.drop (origin rest n)) hr ?_
      rw [← List.cons_append, ← htake, List.take_append_drop]
    rw [newlines.eq_2 _ _ hc, List.take_succ_cons, List.take_succ_cons, newlines.eq_2 _ _ hc', ih]
  | case4 n => rfl

theorem origin_add (cs : List Char) (m n : Nat) :
    origin cs (m + n) = origin cs m + origin (cs.drop (origin cs m)) n := by
  fun_induction origin cs m with
  | case1 cs => simp
  | case2 rest m ih =>
    rw [show m + 1 + n = m + n + 1 by omega, origin, ih, List.drop_succ_cons, List.drop_succ_cons]
    omega
  | case3 c rest m hc ih =>
    rw [show m + 1 + n = m + n + 1 by omega, origin.eq_3 _ _ _ hc, ih, List.drop_succ_cons]
    omega
  | case4 m => simp

theorem slice_newlines (cs : List Char) {m n : Nat} (h : m ≤ n) :
    ((newlines cs).take n).drop m = newlines ((cs.take (origin cs n)).drop (origin cs m)) := by
  obtain ⟨k, rfl⟩ := Nat.exists_eq_add_of_le h
  rw [List.drop_take, List.drop_take, origin_add, Nat.add_sub_cancel_left, Nat.add_sub_cancel_left,
    drop_newlines, take_newlines]

end Text

/-! ### The pieces between edits -/

namespace Edit

/-- The pieces of a text from `cursor` on that lie outside of the ranges of ascending edits. -/
def outside (text : List Char) (cursor : Nat) : List Edit → List (List Char)
  | [] => [text.drop cursor]
  | e :: rest => (text.take e.start).drop cursor :: outside text e.stop rest

/-- Pieces of text with the replacements of edits between them. -/
def weave : List (List Char) → List Edit → List Char
  | [], _ => []
  | piece :: pieces, [] => piece ++ weave pieces []
  | piece :: pieces, e :: edits => piece ++ e.replacement.toList ++ weave pieces edits

/-- An edit of the text that is read from a file, as an edit of the file. -/
def inFile (cs : List Char) (e : Edit) : Edit :=
  { e with start := Text.origin cs e.start, stop := Text.origin cs e.stop }

/-- The ranges of the edits follow one another from `cursor` on. -/
def Ascending : Nat → List Edit → Prop
  | _, [] => True
  | cursor, e :: rest => cursor ≤ e.start ∧ e.start ≤ e.stop ∧ Ascending e.stop rest

/-- Edits that are applied keep the pieces outside of their ranges. -/
theorem eq_weave_of_splice {text out : List Char} {edits : List Edit} {cursor : Nat}
    (h : splice text cursor edits = .ok out) : out = weave (outside text cursor edits) edits := by
  induction edits generalizing cursor out with
  | nil =>
    cases h
    simp [outside, weave]
  | cons e rest ih =>
    obtain ⟨_, tail, htail, rfl⟩ := splice_cons_eq_ok_iff.mp h
    rw [outside, weave, ih htail]

theorem ascending_of_splice {text out : List Char} {edits : List Edit} {cursor : Nat}
    (h : splice text cursor (sift cursor edits).kept = .ok out) :
    Ascending cursor (sift cursor edits).kept := by
  induction edits generalizing cursor out with
  | nil => trivial
  | cons e rest ih =>
    rw [sift] at h ⊢
    split at h
    · next hskipped =>
      rw [if_pos hskipped]
      exact ih h
    · next hkept =>
      rw [if_neg hkept]
      obtain ⟨hinside, tail, htail, rfl⟩ := splice_cons_eq_ok_iff.mp h
      exact ⟨by omega, hinside.1, ih htail⟩

/-- **The pieces of a text are the pieces of its file**, as they are read. -/
theorem outside_newlines (cs : List Char) {edits : List Edit} {cursor : Nat}
    (h : Ascending cursor edits) :
    outside (Text.newlines cs) cursor edits =
      (outside cs (Text.origin cs cursor) (edits.map (inFile cs))).map Text.newlines := by
  induction edits generalizing cursor with
  | nil => simp [outside, Text.drop_newlines]
  | cons e rest ih =>
    obtain ⟨hstart, _, hrest⟩ := h
    rw [outside, List.map_cons, outside, List.map_cons, Text.slice_newlines cs hstart, ih hrest]
    rfl

/-- Reading the pieces takes out their carriage returns, and nothing brings others in. -/
theorem count_weave_newlines (pieces : List (List Char)) (edits : List Edit) :
    (weave (pieces.map Text.newlines) edits).count '\r' + pieces.flatten.count '\r' =
      (weave pieces edits).count '\r' := by
  have hnone : ∀ cs, (Text.newlines cs).count '\r' = 0 :=
    fun cs => List.count_eq_zero.mpr (Text.plain_newlines cs)
  fun_induction weave pieces edits with
  | case1 edits => rfl
  | case2 piece pieces ih =>
    simp only [List.map_cons, weave, List.flatten_cons, List.count_append, hnone]
    omega
  | case3 piece pieces e edits ih =>
    simp only [List.map_cons, weave, List.flatten_cons, List.count_append, hnone]
    omega

theorem weave_newlines_eq_iff {pieces : List (List Char)} {edits : List Edit} :
    weave (pieces.map Text.newlines) edits = weave pieces edits ↔
      ∀ piece ∈ pieces, Plain piece := by
  constructor
  · intro heq piece hpiece hr
    have hcount := count_weave_newlines pieces edits
    rw [heq] at hcount
    have hzero : pieces.flatten.count '\r' = 0 := by omega
    exact List.count_eq_zero.mp hzero (List.mem_flatten.mpr ⟨piece, hpiece, hr⟩)
  · intro hplain
    rw [List.map_congr_left fun piece hpiece => Text.newlines_eq_self (hplain piece hpiece),
      List.map_id']

/-- **Edits of the text that is read from a file keep what is read of the rest of the file.** -/
theorem eq_weave_of_apply {cs : List Char} {edits : List Edit} {out : String}
    (h : apply (String.ofList (Text.newlines cs)) edits = .ok out) :
    out.toList = weave ((outside cs 0 ((select edits).map (inFile cs))).map Text.newlines)
      (select edits) := by
  obtain ⟨chars, hchars, rfl⟩ := map_eq_ok_iff.mp h
  rw [String.toList_ofList] at hchars ⊢
  have hascending : Ascending 0 (select edits) := ascending_of_splice hchars
  rw [eq_weave_of_splice hchars, outside_newlines cs hascending, Text.origin_zero]

end Edit

/-- A run that changes its text in one pass has applied the edits that were proposed for it. -/
theorem Linter.exists_apply_of_run {l : Linter} {name code : String} {calls : Nat}
    {report : Report} (h : (l.run code true name calls).result = .ok report)
    (hsuccess : report.success = true) (hchanged : report.code ≠ code)
    (hpass : (l.run code true name calls).applied = 1) :
    ∃ edits, l.Proposes name calls code edits ∧ Edit.apply code edits = .ok report.code := by
  by_cases henabled : l.settings.enabled = true
  · rcases broken_or_outcome_of_run henabled h with
      ⟨_, _, rfl⟩ | ⟨offenses, parsed, k, t, edits, hparsed, rfl, hout⟩
    · cases hsuccess
    · rcases hout.ending with ⟨_, _, hk, _⟩ | ⟨_, hfailed, _⟩
      · have hk : k = 1 := by
          rw [Run.applied, hparsed] at hpass
          omega
        subst hk
        rw [hout.code]
        exact ⟨edits 0, hout.course.proposes 0 (Nat.zero_le 1),
          hout.course.applied 0 Nat.zero_lt_one⟩
      · rw [hfailed] at hsuccess
        cases hsuccess
  · rw [run, if_neg henabled] at h
    cases h
    exact absurd rfl hchanged

/-! ### The file in a check -/

namespace Check

variable {c : Check} {s : Progress}

theorem files_append {xs : List Path} (h : (c.files s xs).stopped = none) (ys : List Path) :
    c.files s (xs ++ ys) = c.files (c.files s xs) ys := by
  induction xs generalizing s with
  | nil => rfl
  | cons p rest ih =>
    rw [List.cons_append, files, files]
    rw [files] at h
    split at h
    · next hstopped =>
      rw [h] at hstopped
      cases hstopped
    · next hstopped =>
      rw [if_neg hstopped, if_neg hstopped]
      exact ih h

end Check

namespace Session

variable {linter : Linter} {json : Bool} {paths rest : List Path} {tree : FileTree} {p : Path}
  {s : Progress}

/-- A check that corrects comes to the file of a path in the state `s`, and the files of `rest` are
still to follow. -/
structure ComesTo (linter : Linter) (json : Bool) (paths : List Path) (tree : FileTree) (p : Path)
    (s : Progress) (rest : List Path) : Prop where
  has : ∀ q ∈ paths, tree.has q = true
  before : ∃ done, tree.collect paths linter.settings.exclude = done ++ p :: rest ∧
    s = Check.files ⟨linter, true⟩
      { tree, entries := opening json (tree.collect paths linter.settings.exclude).length } done
  goesOn : s.stopped = none

/-- A file stays as it was left in its turn, if no later path leads to it. -/
theorem ComesTo.read?_runCheck (h : ComesTo linter json paths tree p s rest)
    (hrest : ∀ q ∈ rest, tree.locate q ≠ tree.locate p) :
    (runCheck linter true json paths tree).tree.read? p =
      (Check.file ⟨linter, true⟩ s p).tree.read? p := by
  obtain ⟨hhas, ⟨done, hcollect, hs⟩, hgoes⟩ := h
  have hbefore := Check.follows_files ⟨linter, true⟩
    { tree, entries := opening json (tree.collect paths linter.settings.exclude).length } done
  rw [tree_runCheck hhas]
  nth_rewrite 2 [hcollect]
  rw [hs] at hgoes
  rw [Check.files_append hgoes, ← hs, Check.files]
  rw [← hs] at hbefore
  split
  · rfl
  · have hstep := Check.follows_file ⟨linter, true⟩ s p
    refine (Check.follows_files _ _ rest).read?_eq fun q hq => ?_
    rw [hstep.locate, hstep.locate, hbefore.locate, hbefore.locate]
    exact hrest q hq

/-- **What a correction in one pass keeps of a file.**  The check comes to a file with the text `cs`
and rewrites it in one pass.  Between its corrections the file then has the pieces of `cs` between
their ranges, with a newline for every line end.  So all of `cs` outside of the ranges is kept
exactly if there is no carriage return in it. -/
theorem runCheck_keeps_iff (hturn : ComesTo linter json paths tree p s rest)
    (hrest : ∀ q ∈ rest, tree.locate q ≠ tree.locate p) {bytes : List UInt8} {cs : List Char}
    (hbytes : s.tree.read? p = some bytes) (hcs : Utf8.decode bytes = .ok cs) {code : String}
    (hcorrects : Check.Corrects ⟨linter, true⟩ s.tree s.parsed.length p code)
    (hpass : (linter.run (String.ofList (Text.newlines cs)) true p.text s.parsed.length).applied =
      1) :
    ∃ edits,
      linter.Proposes p.text s.parsed.length (String.ofList (Text.newlines cs)) edits ∧
      let after := (runCheck linter true json paths tree).tree.read? p
      let pieces := Edit.outside cs 0 ((Edit.select edits).map (Edit.inFile cs))
      after = some (Utf8.encode (Edit.weave (pieces.map Text.newlines) (Edit.select edits))) ∧
      (after = some (Utf8.encode (Edit.weave pieces (Edit.select edits))) ↔
        ∀ piece ∈ pieces, Plain piece) := by
  have hafter : (runCheck linter true json paths tree).tree.read? p =
      some (Utf8.encode code.toList) := by
    rw [hturn.read?_runCheck hrest, Check.read?_file, Check.outcome_of_corrects hcorrects, hbytes,
      Option.map_some]
  obtain ⟨_, text, report, htext, hreport, hsuccess, rfl, hne⟩ := hcorrects
  obtain ⟨_, bytes', hbytes', hdecoded⟩ := FileTree.readText_eq_ok_iff.mp htext
  obtain rfl : bytes = bytes' := Option.some.inj (hbytes.symm.trans hbytes')
  rw [textOfBytes, hcs] at hdecoded
  cases hdecoded
  obtain ⟨edits, hedits, happly⟩ := Linter.exists_apply_of_run hreport hsuccess hne hpass
  refine ⟨edits, hedits, ?_⟩
  dsimp only
  rw [hafter, Edit.eq_weave_of_apply happly]
  refine ⟨rfl, ?_⟩
  rw [Option.some.injEq, Utf8.encode_inj, Edit.weave_newlines_eq_iff]

/-! ### A file with carriage returns -/

/-- Two lines that end in a carriage return and a newline. -/
def returnsChars : List Char := "a, b = 1, 2\r\nx\r\n".toList

def returnsFile : FileTree where
  here := ["work"]
  files := [(["work", "crlf.rb"], Utf8.encode returnsChars)]

def returnsRoot : Node :=
  .program (some ⟨0, 14⟩)
    [.multiAssign (some ⟨0, 11⟩)
      [.var (some ⟨0, 1⟩) .localVar "a", .var (some ⟨3, 4⟩) .localVar "b"]
      (.array (some ⟨7, 11⟩)
        [.literal (some ⟨7, 8⟩) .integer "1" [] true,
          .literal (some ⟨10, 11⟩) .integer "2" [] true] false),
      .var (some ⟨12, 13⟩) .localVar "x"]

def returnsLinter : Linter := ⟨default, Linter.knowing "a, b = 1, 2\nx\n" returnsRoot⟩

def returnsPath : Path := ⟨"", ["crlf.rb"]⟩

def returnsEdit : Edit := ⟨0, 11, "a = 1\nb = 2"⟩

theorem read?_returnsFile :
    returnsFile.read? returnsPath = some (Utf8.encode returnsChars) := by
  decide +kernel

theorem newlines_returnsChars :
    String.ofList (Text.newlines returnsChars) = "a, b = 1, 2\nx\n" := by
  decide

theorem run_returnsFile :
    let run := returnsLinter.run "a, b = 1, 2\nx\n" true "crlf.rb" 0
    run.result.map (fun report => (report.code, report.success)) =
      .ok ("a = 1\nb = 2\nx\n", true) ∧ run.applied = 1 := by
  cbv

theorem proposes_returnsFile :
    returnsLinter.Proposes "crlf.rb" 0 "a, b = 1, 2\nx\n" [returnsEdit] := by
  have hrun : (returnsLinter.inspection.run
      ⟨Source.ofString "a, b = 1, 2\nx\n" "crlf.rb", returnsRoot, false⟩ true).result.map
      Offense.corrections = .ok [returnsEdit] := by
    cbv
  obtain ⟨offenses, hoffenses, hcorrections⟩ := map_eq_ok_iff.mp hrun
  exact ⟨_, offenses, rfl, rfl, hoffenses, hcorrections⟩

theorem corrects_returnsFile :
    Check.Corrects ⟨returnsLinter, true⟩ returnsFile 0 returnsPath "a = 1\nb = 2\nx\n" := by
  obtain ⟨report, hreport, heq⟩ := map_eq_ok_iff.mp run_returnsFile.1
  obtain ⟨hcode, hsuccess⟩ := Prod.mk.inj heq
  have htext : returnsFile.readText returnsPath = .ok "a, b = 1, 2\nx\n" := by
    refine FileTree.readText_eq_ok_iff.mpr ⟨by decide +kernel, _, read?_returnsFile, ?_⟩
    rw [textOfBytes, Utf8.decode_encode, ← newlines_returnsChars]
  exact ⟨rfl, _, report, htext, hreport, hsuccess, hcode, by decide⟩

/-- The check of the file comes to it at once. -/
theorem runCheck_keeps_iff_returns :
    let s : Progress := { tree := returnsFile, entries := opening false 1 }
    ComesTo returnsLinter false [returnsPath] returnsFile returnsPath s [] ∧
    s.tree.read? returnsPath = some (Utf8.encode returnsChars) ∧
    Check.Corrects ⟨returnsLinter, true⟩ s.tree 0 returnsPath "a = 1\nb = 2\nx\n" ∧
    ∃ edits,
      returnsLinter.Proposes "crlf.rb" 0 (String.ofList (Text.newlines returnsChars)) edits ∧
      let after :=
        (runCheck returnsLinter true false [returnsPath] returnsFile).tree.read? returnsPath
      let pieces :=
        Edit.outside returnsChars 0 ((Edit.select edits).map (Edit.inFile returnsChars))
      after = some (Utf8.encode (Edit.weave (pieces.map Text.newlines) (Edit.select edits))) ∧
      (after = some (Utf8.encode (Edit.weave pieces (Edit.select edits))) ↔
        ∀ piece ∈ pieces, Plain piece) := by
  intro s
  have hcollect : returnsFile.collect [returnsPath] returnsLinter.settings.exclude =
      [returnsPath] := rfl
  have hturn : ComesTo returnsLinter false [returnsPath] returnsFile returnsPath s [] :=
    ⟨by decide +kernel, ⟨[], hcollect, by rw [hcollect]; rfl⟩, rfl⟩
  have hpass : (returnsLinter.run (String.ofList (Text.newlines returnsChars)) true "crlf.rb"
      0).applied = 1 := by
    rw [newlines_returnsChars]
    exact run_returnsFile.2
  exact ⟨hturn, read?_returnsFile, corrects_returnsFile,
    runCheck_keeps_iff hturn (List.forall_mem_nil _) read?_returnsFile
      (Utf8.decode_encode returnsChars)
      corrects_returnsFile hpass⟩

/-- **A check loses carriage returns.**  The correction has its range in the first line, but the
file ends up without the carriage returns that follow it. -/
theorem runCheck_loses_returns :
    let after :=
      (runCheck returnsLinter true false [returnsPath] returnsFile).tree.read? returnsPath
    let selected := Edit.select [returnsEdit]
    returnsFile.read? returnsPath = some (Utf8.encode returnsChars) ∧
    returnsLinter.Proposes "crlf.rb" 0 (String.ofList (Text.newlines returnsChars))
      [returnsEdit] ∧
    (returnsLinter.run (String.ofList (Text.newlines returnsChars)) true "crlf.rb" 0).applied =
      1 ∧
    Edit.weave (Edit.outside returnsChars 0 (selected.map (Edit.inFile returnsChars))) selected =
      "a = 1\nb = 2\r\nx\r\n".toList ∧
    after = some (Utf8.encode "a = 1\nb = 2\nx\n".toList) ∧
    after ≠ some (Utf8.encode "a = 1\nb = 2\r\nx\r\n".toList) := by
  intro after selected
  have hafter : after = some (Utf8.encode "a = 1\nb = 2\nx\n".toList) := by
    refine (read?_runCheck_singleton rfl (by decide)).trans ?_
    rw [Check.outcome_of_corrects corrects_returnsFile, read?_returnsFile, Option.map_some]
  have hselected : selected = [returnsEdit] := by
    unfold selected
    decide +kernel
  refine ⟨read?_returnsFile, ?_, ?_, ?_, hafter, ?_⟩
  · rw [newlines_returnsChars]
    exact proposes_returnsFile
  · rw [newlines_returnsChars]
    exact run_returnsFile.2
  · rw [hselected]
    decide
  · rw [hafter]
    decide

end Session

end MultiAssign
