import MultiAssign.Lint
import Mathlib.Algebra.BigOperators.Group.Finset.Basic
import Mathlib.Data.List.Permutation

/-!
# The passes of a run

A run that corrects goes through its text in passes.  Each pass applies the edits that the
inspection proposes, and the next one starts from the outcome.  `Turn` says what one turn of the
loop can do: it comes to rest because nothing changes, it goes back because the outcome is broken,
or it goes on.  From that, by induction over the passes, a run follows a `Course` of texts, each of
which can be parsed and is changed by the edits proposed for it, and `Outcome` says where the course
ends and why (`outcome_of_passes`).

Two results rest on it.  `run_corrects_in_passes` accounts for everything in the report by the
course.  `run_again_changes_nothing` says that a run that succeeds without using up its passes has
come to rest, so that a second run finds nothing to change.
-/

namespace MultiAssign

namespace Run

@[simp] theorem result_done (report : Report) : (done report).result = .ok report := rfl

@[simp] theorem result_noting (entries : List Entry) (r : Run) :
    (noting entries r).result = r.result := rfl

@[simp] theorem result_parsing (text : String) (r : Run) :
    (parsing text r).result = r.result := rfl

@[simp] theorem parsed_noting (entries : List Entry) (r : Run) :
    (noting entries r).parsed = r.parsed := rfl

@[simp] theorem parsed_parsing (text : String) (r : Run) :
    (parsing text r).parsed = text :: r.parsed := rfl

/-- The passes that a run has applied, if it succeeds: it parses its text once before them all, and
the outcome of each. -/
def applied (r : Run) : Nat := r.parsed.length - 1

end Run

namespace Edit

theorem apply_of_select_eq_nil {edits : List Edit} (h : select edits = []) (text : String) :
    apply text edits = .ok text := by
  rw [apply, h, splice, List.drop_zero]
  exact congrArg Except.ok (String.ofList_toList (s := text))

theorem apply_of_isEmpty {edits : List Edit} (h : edits.isEmpty) (text : String) :
    apply text edits = .ok text := by
  rw [List.isEmpty_iff.mp h]
  exact apply_of_select_eq_nil (by simp [select, selection, sorted, sift]) text

theorem select_length_pos {edits : List Edit} {text patched : String}
    (h : apply text edits = .ok patched) (hne : patched ≠ text) : 0 < (select edits).length := by
  refine List.length_pos_iff.mpr fun hnil => hne ?_
  rw [apply_of_select_eq_nil hnil] at h
  exact (Except.ok.inj h).symm

end Edit

/-- The tree of a text does not depend on what was parsed before. -/
def Parser.Steady (parser : Parser) : Prop :=
  ∀ calls calls' source, parser calls source = parser calls' source

namespace Linter

variable {l : Linter} {name : String}

/-- The text, parsed after `calls` others, has no syntax errors, and its inspection proposes the
edits. -/
def Proposes (l : Linter) (name : String) (calls : Nat) (text : String) (edits : List Edit) :
    Prop :=
  ∃ tree offenses, l.parser calls (Source.ofString text name) = .ok tree ∧
    tree.hasErrors = false ∧ (l.inspection.run tree true).result = .ok offenses ∧
    Offense.corrections offenses = edits

/-- The text, parsed after `calls` others, has syntax errors. -/
def Broken (l : Linter) (name : String) (calls : Nat) (text : String) : Prop :=
  ∃ tree, l.parser calls (Source.ofString text name) = .ok tree ∧ tree.hasErrors = true

theorem Proposes.not_broken {calls : Nat} {text : String} {edits : List Edit}
    (h : l.Proposes name calls text edits) : ¬ l.Broken name calls text := by
  rintro ⟨tree, htree, herrors⟩
  obtain ⟨tree', _, htree', herrors', _⟩ := h
  rw [htree] at htree'
  cases htree'
  rw [herrors] at herrors'
  cases herrors'

/-! ### One turn of the loop -/

/-- What one turn does in a run that gives the report `final`, with the texts that are parsed from
there on. -/
inductive Turn (l : Linter) (name : String) (left pass calls : Nat) (current : String)
    (edits : List Edit) (report final : Report) : List String → Prop
  /-- Nothing changes. -/
  | rest : Edit.apply current edits = .ok current → final = { report with code := current } →
      Turn l name left pass calls current edits report final []
  /-- The outcome is broken, and given up. -/
  | back {patched error : String} : Edit.apply current edits = .ok patched → patched ≠ current →
      l.Broken name calls patched →
      final = { report with
        code := current, errors := report.errors ++ [error], success := false } →
      Turn l name left pass calls current edits report final [patched]
  /-- The next turn starts from the outcome. -/
  | on {patched : String} {proposed : List Edit} {next : Run} :
      Edit.apply current edits = .ok patched → patched ≠ current →
      l.Proposes name calls patched proposed →
      next = l.passes name left (pass + 1) (calls + 1) patched proposed
        { report with corrected := report.corrected + (Edit.select edits).length } →
      next.result = .ok final →
      Turn l name left pass calls current edits report final (patched :: next.parsed)

theorem turn_of_passes {left pass calls : Nat} {current : String} {edits : List Edit}
    {report final : Report}
    (h : (l.passes name (left + 1) pass calls current edits report).result = .ok final) :
    Turn l name left pass calls current edits report final
      (l.passes name (left + 1) pass calls current edits report).parsed := by
  rw [passes] at h ⊢
  split at h
  · next hempty =>
    rw [if_pos hempty]
    cases h
    exact .rest (Edit.apply_of_isEmpty hempty current) rfl
  · next hempty =>
    rw [if_neg hempty, Run.parsed_noting]
    rw [Run.result_noting] at h
    split at h
    · cases h
    · next patched happly =>
      split at h
      · next hsame =>
        cases h
        rw [if_pos hsame]
        exact .rest (hsame ▸ happly) rfl
      · next hne =>
        rw [if_neg hne, Run.parsed_parsing]
        rw [Run.result_parsing] at h
        split at h
        · cases h
        · next tree htree =>
          rw [Run.parsed_noting]
          rw [Run.result_noting] at h
          split at h
          · next herrors =>
            cases h
            rw [if_pos herrors]
            exact .back happly hne ⟨tree, htree, herrors⟩ rfl
          · next herrors =>
            rw [if_neg herrors, Run.parsed_noting]
            rw [Run.result_noting] at h
            split at h
            · cases h
            · next offenses hoffenses =>
              have hproposes : l.Proposes name calls patched (Offense.corrections offenses) :=
                ⟨tree, offenses, htree, Bool.eq_false_iff.mpr herrors, hoffenses, rfl⟩
              exact .on happly hne hproposes rfl h

/-! ### The course of the texts -/

/-- The course of `k` passes: `t i` is the text after `i` of them, and `edits i` are the edits that
are proposed for it. -/
structure Course (l : Linter) (name : String) (calls k : Nat) (t : Nat → String)
    (edits : Nat → List Edit) : Prop where
  proposes : ∀ i ≤ k, l.Proposes name (calls + i) (t i) (edits i)
  applied : ∀ i < k, Edit.apply (t i) (edits i) = .ok (t (i + 1))
  changed : ∀ i < k, t (i + 1) ≠ t i

/-- The sequence with one more member before the first. -/
def startingWith {α : Type} (a : α) (f : Nat → α) : Nat → α
  | 0 => a
  | i + 1 => f i

theorem Course.start {calls : Nat} {text : String} {proposed : List Edit}
    (h : l.Proposes name calls text proposed) :
    Course l name calls 0 (fun _ => text) fun _ => proposed where
  proposes i hi := by rwa [Nat.le_zero.mp hi]
  applied i hi := absurd hi (Nat.not_lt_zero i)
  changed i hi := absurd hi (Nat.not_lt_zero i)

theorem Course.startingWith {calls k : Nat} {t : Nat → String} {edits : Nat → List Edit}
    {text : String} {proposed : List Edit} (h : Course l name (calls + 1) k t edits)
    (hp : l.Proposes name calls text proposed) (happly : Edit.apply text proposed = .ok (t 0))
    (hne : t 0 ≠ text) :
    Course l name calls (k + 1) (startingWith text t) (startingWith proposed edits) where
  proposes
    | 0, _ => hp
    | i + 1, hi => by
      rw [show calls + (i + 1) = calls + 1 + i by omega]
      exact h.proposes i (Nat.le_of_succ_le_succ hi)
  applied
    | 0, _ => happly
    | i + 1, hi => h.applied i (Nat.lt_of_succ_lt_succ hi)
  changed
    | 0, _ => hne
    | i + 1, hi => h.changed i (Nat.lt_of_succ_lt_succ hi)

theorem Course.sum_eq_zero_iff {calls k : Nat} {t : Nat → String} {edits : Nat → List Edit}
    (h : Course l name calls k t edits) :
    ∑ i ∈ Finset.range k, (Edit.select (edits i)).length = 0 ↔ k = 0 := by
  constructor
  · intro hsum
    by_contra hk
    have hpos := Nat.pos_of_ne_zero hk
    have hzero := Finset.sum_eq_zero_iff.mp hsum 0 (Finset.mem_range.mpr hpos)
    have := Edit.select_length_pos (h.applied 0 hpos) (h.changed 0 hpos)
    omega
  · rintro rfl
    rfl

/-- The course that passes follow, of which at most `left` are allowed, and how it ends: `parsed`
texts after the first are parsed on the way from `report` to `final`. -/
structure Outcome (l : Linter) (name : String) (left calls : Nat) (report final : Report)
    (parsed k : Nat) (t : Nat → String) (edits : Nat → List Edit) : Prop where
  course : Course l name calls k t edits
  le : k ≤ left
  code : final.code = t k
  corrected : final.corrected =
    report.corrected + ∑ i ∈ Finset.range k, (Edit.select (edits i)).length
  /-- It comes to rest or uses up its passes, or else goes back from a broken text. -/
  ending :
    (final.errors = report.errors ∧ final.success = report.success ∧ parsed = k ∧
      (k < left → Edit.apply (t k) (edits k) = .ok (t k))) ∨
    (final.errors ≠ [] ∧ final.success = false ∧ parsed = k + 1 ∧ k < left ∧
      ∃ text, Edit.apply (t k) (edits k) = .ok text ∧ text ≠ t k ∧
        l.Broken name (calls + k + 1) text)

theorem Outcome.startingWith {left calls parsed k : Nat} {report final : Report}
    {t : Nat → String} {edits : Nat → List Edit} {text : String} {proposed : List Edit}
    (h : Outcome l name left (calls + 1)
      { report with corrected := report.corrected + (Edit.select proposed).length } final parsed k
      t edits)
    (hp : l.Proposes name calls text proposed) (happly : Edit.apply text proposed = .ok (t 0))
    (hne : t 0 ≠ text) :
    Outcome l name (left + 1) calls report final (parsed + 1) (k + 1) (startingWith text t)
      (startingWith proposed edits) where
  course := h.course.startingWith hp happly hne
  le := Nat.succ_le_succ h.le
  code := h.code
  corrected := by
    rw [h.corrected, Finset.sum_range_succ']
    simp only [Linter.startingWith]
    omega
  ending := by
    rw [show calls + (k + 1) + 1 = calls + 1 + k + 1 by omega]
    rcases h.ending with ⟨herrors, hsuccess, hparsed, hrest⟩ |
      ⟨herrors, hsuccess, hparsed, hk, hend⟩
    · exact Or.inl ⟨herrors, hsuccess, by omega, fun hk => hrest (Nat.lt_of_succ_lt_succ hk)⟩
    · exact Or.inr ⟨herrors, hsuccess, by omega, Nat.succ_lt_succ hk, hend⟩

/-- **The passes follow a course** from the text they are given. -/
theorem outcome_of_passes {left pass calls : Nat} {current : String} {proposed : List Edit}
    {report final : Report} (hp : l.Proposes name calls current proposed)
    (h : (l.passes name left pass (calls + 1) current proposed report).result = .ok final) :
    ∃ k t edits, t 0 = current ∧ Outcome l name left calls report final
      (l.passes name left pass (calls + 1) current proposed report).parsed.length k t edits := by
  induction left generalizing pass calls current proposed report with
  | zero =>
    cases h
    exact ⟨0, _, _, rfl, .start hp, Nat.le_refl 0, rfl, rfl,
      Or.inl ⟨rfl, rfl, rfl, fun hk => absurd hk (Nat.lt_irrefl 0)⟩⟩
  | succ left ih =>
    have hturn := turn_of_passes h
    generalize (l.passes name (left + 1) pass (calls + 1) current proposed report).parsed = parsed
      at hturn ⊢
    cases hturn with
    | rest happly hfinal =>
      subst hfinal
      exact ⟨0, _, _, rfl, .start hp, Nat.zero_le _, rfl, rfl,
        Or.inl ⟨rfl, rfl, rfl, fun _ => happly⟩⟩
    | back happly hne hbroken hfinal =>
      subst hfinal
      refine ⟨0, _, _, rfl, .start hp, Nat.zero_le _, rfl, rfl, Or.inr ?_⟩
      exact ⟨by simp, rfl, rfl, Nat.succ_pos left, _, happly, hne, hbroken⟩
    | on happly hne hproposes hnext hresult =>
      subst hnext
      obtain ⟨k, t, edits, rfl, hout⟩ := ih hproposes hresult
      exact ⟨k + 1, _, _, rfl, hout.startingWith hp happly hne⟩

/-- A run parses its text first, and unless that is broken, the passes start from there. -/
theorem broken_or_outcome_of_run {code : String} {calls : Nat} (henabled : l.settings.enabled)
    {report : Report} (h : (l.run code true name calls).result = .ok report) :
    (l.Broken name calls code ∧ (l.run code true name calls).parsed.length = 1 ∧
      report = { code, errors := ["Syntax error in " ++ name], success := false }) ∨
    ∃ offenses parsed k t edits, (l.run code true name calls).parsed.length = parsed + 1 ∧
      t 0 = code ∧
      Outcome l name l.settings.maxPasses calls { code, offenses } report parsed k t edits := by
  rw [run, if_pos henabled] at h ⊢
  rw [Run.result_parsing] at h
  rw [Run.parsed_parsing, List.length_cons]
  split at h
  · cases h
  · next tree htree =>
    rw [Run.result_noting] at h
    rw [Run.parsed_noting]
    split at h
    · next herrors =>
      cases h
      rw [if_pos herrors]
      exact Or.inl ⟨⟨tree, htree, herrors⟩, rfl, rfl⟩
    · next herrors =>
      rw [if_neg herrors, Run.parsed_noting]
      rw [Run.result_noting] at h
      split at h
      · cases h
      · next offenses hoffenses =>
        have hp : l.Proposes name calls code (Offense.corrections offenses) :=
          ⟨tree, offenses, htree, Bool.eq_false_iff.mpr herrors, hoffenses, rfl⟩
        dsimp only at h ⊢
        split at h
        · next hsome =>
          rw [if_pos hsome]
          obtain ⟨k, t, edits, hstart, hout⟩ := outcome_of_passes hp h
          exact Or.inr ⟨offenses, _, k, t, edits, rfl, hstart, hout⟩
        · next hnone =>
          cases h
          rw [if_neg hnone]
          have hnil : offenses = [] := by simpa using hnone
          subst hnil
          refine Or.inr ⟨[], 0, 0, _, _, rfl, rfl, .start hp, Nat.zero_le _, rfl, rfl, ?_⟩
          exact Or.inl ⟨rfl, rfl, rfl, fun _ => Edit.apply_of_isEmpty rfl code⟩

/-- **A run accounts for every pass.**  It reports a broken text as it is.  From any other text it
follows a course of at most as many passes as are allowed, and reports the last text of it.  What it
counts are the edits selected in these passes, so it counts nothing only if there were none.  It
fails only where one more pass would have led to a broken text, which it then gives up.  The texts
it has parsed are those of the course, and the broken one if there is one. -/
theorem run_corrects_in_passes (l : Linter) (henabled : l.settings.enabled) (code name : String)
    (calls : Nat) {report : Report} (h : (l.run code true name calls).result = .ok report) :
    (l.run code true name calls).parsed.length ≤ l.settings.maxPasses + 1 ∧
    (l.Broken name calls code → report.code = code ∧ report.offenses = [] ∧
      report.corrected = 0 ∧ report.success = false) ∧
    (¬ l.Broken name calls code → ∃ k t edits, k ≤ l.settings.maxPasses ∧
      t 0 = code ∧ t k = report.code ∧ Course l name calls k t edits ∧
      (l.run code true name calls).parsed.length = (if report.success then k + 1 else k + 2) ∧
      report.corrected = ∑ i ∈ Finset.range k, (Edit.select (edits i)).length ∧
      (report.corrected = 0 ↔ k = 0) ∧ (report.success = false ↔ report.errors ≠ []) ∧
      (report.errors ≠ [] ↔ k < l.settings.maxPasses ∧
        ∃ text, Edit.apply (t k) (edits k) = .ok text ∧ text ≠ t k ∧
          l.Broken name (calls + k + 1) text)) := by
  rcases broken_or_outcome_of_run henabled h with
    ⟨hbroken, hparsed, rfl⟩ | ⟨offenses, parsed, k, t, edits, hparsed, rfl, hout⟩
  · exact ⟨by omega, fun _ => ⟨rfl, rfl, rfl, rfl⟩, fun hn => absurd hbroken hn⟩
  · have hle := hout.le
    have hstart := (hout.course.proposes 0 (Nat.zero_le k)).not_broken
    have hcorrected : report.corrected =
        ∑ i ∈ Finset.range k, (Edit.select (edits i)).length := by
      rw [hout.corrected]
      exact Nat.zero_add _
    refine ⟨?_, fun hbroken => absurd hbroken hstart, fun _ =>
      ⟨k, t, edits, hle, rfl, hout.code.symm, hout.course, ?_, hcorrected, ?_, ?_, ?_⟩⟩
    · rcases hout.ending with ⟨_, _, hk, _⟩ | ⟨_, _, hk, hlt, _⟩ <;> omega
    · rcases hout.ending with ⟨_, hsuccess, hk, _⟩ | ⟨_, hsuccess, hk, _⟩
      · rw [hparsed, hk, if_pos hsuccess]
      · rw [hparsed, hk, hsuccess]
        rfl
    · rw [hcorrected]
      exact hout.course.sum_eq_zero_iff
    · rcases hout.ending with ⟨herrors, hsuccess, _⟩ | ⟨herrors, hsuccess, _⟩
      · simp [herrors, hsuccess]
      · simp [herrors, hsuccess]
    · rcases hout.ending with ⟨herrors, _, _, hrest⟩ | ⟨herrors, _, _, hk, hend⟩
      · refine iff_of_false (fun hne => hne herrors) ?_
        rintro ⟨hk, text, happly, hne, _⟩
        rw [hrest hk] at happly
        exact hne (Except.ok.inj happly).symm
      · exact iff_of_true herrors ⟨hk, hend⟩

/-- A parser that knows one text, and takes every other one for an empty program. -/
def knowing (text : String) (root : Node) : Parser := fun _ source =>
  .ok ⟨source, if source.text = text then root else .program none [], false⟩

def twoAssigned : Node :=
  .program (some ⟨0, 11⟩)
    [.multiAssign (some ⟨0, 11⟩)
      [.var (some ⟨0, 1⟩) .localVar "a", .var (some ⟨3, 4⟩) .localVar "b"]
      (.array (some ⟨7, 11⟩)
        [.literal (some ⟨7, 8⟩) .integer "1" [] true,
          .literal (some ⟨10, 11⟩) .integer "2" [] true] false)]

def twoAssignedReport : Report where
  code := "a = 1\nb = 2"
  offenses :=
    [{ rule := Inspection.ruleName, message := Inspection.ruleMessage, path := "x.rb", line := 1,
       column := 0, start := 0, stop := 11, text := "a, b = 1, 2",
       correction := some ⟨0, 11, "a = 1\nb = 2"⟩ }]
  corrected := 1

theorem run_twoAssigned :
    let run := run ⟨{}, knowing "a, b = 1, 2" twoAssigned⟩ "a, b = 1, 2" true "x.rb" 0
    run.result = .ok twoAssignedReport ∧ run.applied = 1 := by
  cbv

/-- The text `a, b = 1, 2` takes a pass, after which nothing is left to correct. -/
theorem run_corrects_in_passes_once :
    let l : Linter := ⟨{}, knowing "a, b = 1, 2" twoAssigned⟩
    l.settings.enabled ∧
      (l.run "a, b = 1, 2" true "x.rb" 0).result = .ok twoAssignedReport ∧
      ¬ l.Broken "x.rb" 0 "a, b = 1, 2" ∧
      ∃ k t edits, k ≤ 10 ∧ k ≠ 0 ∧ t 0 = "a, b = 1, 2" ∧ t k = "a = 1\nb = 2" ∧
        Course l "x.rb" 0 k t edits ∧
        1 = ∑ i ∈ Finset.range k, (Edit.select (edits i)).length := by
  intro l
  have henabled : l.settings.enabled := rfl
  have hresult := run_twoAssigned.1
  have hbroken : ¬ l.Broken "x.rb" 0 "a, b = 1, 2" := by
    rintro ⟨tree, htree, herrors⟩
    cases htree
    cases herrors
  obtain ⟨k, t, edits, hk, hstart, hend, hcourse, _, hsum, hzero, _⟩ :=
    (run_corrects_in_passes l henabled "a, b = 1, 2" "x.rb" 0 hresult).2.2 hbroken
  have hne : k ≠ 0 := fun h => absurd (hzero.mpr h) Nat.one_ne_zero
  exact ⟨henabled, hresult, hbroken, k, t, edits, hk, hne, hstart, hend, hcourse, hsum⟩

/-! ### A second run -/

theorem Proposes.of_steady (hparser : l.parser.Steady) {calls : Nat} {text : String}
    {edits : List Edit} (h : l.Proposes name calls text edits) (calls' : Nat) :
    l.Proposes name calls' text edits := by
  obtain ⟨tree, offenses, htree, hrest⟩ := h
  exact ⟨tree, offenses, hparser calls calls' _ ▸ htree, hrest⟩

theorem result_passes_of_stable {text : String} {edits : List Edit}
    (h : Edit.apply text edits = .ok text) (left pass calls : Nat) (report : Report) :
    (l.passes name left pass calls text edits report).result =
      .ok { report with code := text } := by
  cases left with
  | zero => rfl
  | succ left =>
    rw [passes]
    split
    · rfl
    · rw [Run.result_noting, h]
      simp only [if_true, Run.result_done]

theorem exists_run_of_stable (henabled : l.settings.enabled) {calls : Nat} {text : String}
    {edits : List Edit} (hp : l.Proposes name calls text edits)
    (hstable : Edit.apply text edits = .ok text) :
    ∃ offenses, (l.run text true name calls).result = .ok { code := text, offenses } := by
  obtain ⟨tree, offenses, htree, herrors, hoffenses, rfl⟩ := hp
  refine ⟨offenses, ?_⟩
  simp only [run, henabled, if_true, Run.result_parsing, htree, Run.result_noting, herrors,
    hoffenses, Bool.false_eq_true, if_false]
  split
  · exact result_passes_of_stable hstable ..
  · rfl

/-- **A second run changes nothing**, if the first one succeeded and had passes left. -/
theorem run_again_changes_nothing (l : Linter) (henabled : l.settings.enabled)
    (hparser : l.parser.Steady) (code name : String) (calls calls' : Nat) {report : Report}
    (h : (l.run code true name calls).result = .ok report) (hsuccess : report.success = true)
    (hleft : (l.run code true name calls).applied < l.settings.maxPasses) :
    ∃ again, (l.run report.code true name calls').result = .ok again ∧
      again.success = true ∧ again.code = report.code ∧ again.corrected = 0 := by
  rcases broken_or_outcome_of_run henabled h with
    ⟨_, _, rfl⟩ | ⟨offenses, parsed, k, t, edits, hparsed, _, hout⟩
  · cases hsuccess
  · rcases hout.ending with ⟨_, _, hk, hrest⟩ | ⟨_, hfailed, _⟩
    · have hk : k < l.settings.maxPasses := by
        rw [Run.applied, hparsed] at hleft
        omega
      have hp := (hout.course.proposes k (Nat.le_refl k)).of_steady hparser calls'
      rw [hout.code]
      obtain ⟨offenses', hagain⟩ := exists_run_of_stable henabled hp (hrest hk)
      exact ⟨_, hagain, rfl, rfl, rfl⟩
    · rw [hfailed] at hsuccess
      cases hsuccess

/-- The run on `a, b = 1, 2` has passes left after its only one. -/
theorem run_again_changes_nothing_once :
    let l : Linter := ⟨{}, knowing "a, b = 1, 2" twoAssigned⟩
    l.settings.enabled ∧ l.parser.Steady ∧
      (l.run "a, b = 1, 2" true "x.rb" 0).result = .ok twoAssignedReport ∧
      (l.run "a, b = 1, 2" true "x.rb" 0).applied < l.settings.maxPasses ∧
      ∃ again, (l.run twoAssignedReport.code true "x.rb" 2).result = .ok again ∧
        again.success = true ∧ again.code = twoAssignedReport.code ∧ again.corrected = 0 := by
  intro l
  have henabled : l.settings.enabled := rfl
  have hparser : l.parser.Steady := fun _ _ _ => rfl
  have hresult := run_twoAssigned.1
  have hleft : (l.run "a, b = 1, 2" true "x.rb" 0).applied < l.settings.maxPasses := by
    rw [run_twoAssigned.2]
    decide
  refine ⟨henabled, hparser, hresult, hleft, ?_⟩
  exact run_again_changes_nothing l henabled hparser "a, b = 1, 2" "x.rb" 0 2 hresult rfl hleft

end Linter

end MultiAssign
