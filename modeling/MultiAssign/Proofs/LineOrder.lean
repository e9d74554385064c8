import MultiAssign.Proofs.EditRanges
import Mathlib.Data.List.TakeWhile
import Mathlib.Data.Prod.Lex
import Mathlib.Order.Monotone.Basic

/-!
# Lines and columns in order

A position in a text is shown to the user as a line and a column.  The line counts newlines from the
left, the column goes back to the last one.  This file says that the two fit together: a later
position has a later line, or a later column in the same one (`Source.strictMono_lineColumn`), so
no two positions are shown alike, and offenses that stand in the order of their positions stand in
the order of what is shown of them (`Source.positions_shown_in_order`).

The last line of a text is what is left behind its last newline (`Source.exists_lastLine`).  More
text without a newline leaves the start of that line where it is (`Source.lastLineStart_append`),
and that covers the positions past the end of the text, where nothing more comes.
-/

namespace MultiAssign

namespace Source

variable {cs more : List Char}

/-! ### The last line of a text -/

/-- A text is what comes up to its last newline, and a line without a newline. -/
theorem exists_lastLine (cs : List Char) :
    ∃ before line, cs = before ++ line ∧ lastLineStart cs = before.length ∧ '\n' ∉ line ∧
      (before = [] ∨ ∃ lines, before = lines ++ ['\n']) := by
  refine ⟨(cs.reverse.dropWhile (· != '\n')).reverse, (cs.reverse.takeWhile (· != '\n')).reverse,
    ?_, ?_, ?_, ?_⟩
  · rw [← List.reverse_append, List.takeWhile_append_dropWhile, List.reverse_reverse]
  · have hlength := congrArg List.length
      (List.takeWhile_append_dropWhile (p := (· != '\n')) (l := cs.reverse))
    rw [List.length_append, List.length_reverse] at hlength
    rw [lastLineStart, List.length_reverse]
    omega
  · intro hmem
    have := List.mem_takeWhile_imp (List.mem_reverse.mp hmem)
    simp at this
  · cases hrest : cs.reverse.dropWhile (· != '\n') with
    | nil => exact Or.inl rfl
    | cons c rest =>
      have hc := List.head?_dropWhile_not (· != '\n') cs.reverse
      rw [hrest] at hc
      simp only [List.head?_cons, bne_eq_false_iff_eq] at hc
      rw [hc, List.reverse_cons]
      exact Or.inr ⟨rest.reverse, rfl⟩

theorem lastLineStart_le_length (cs : List Char) : lastLineStart cs ≤ cs.length := Nat.sub_le _ _

/-- **More text in the same line leaves the start of the line where it is.** -/
theorem lastLineStart_append (hmore : '\n' ∉ more) :
    lastLineStart (cs ++ more) = lastLineStart cs := by
  have hall : ∀ c ∈ more.reverse, (c != '\n') = true := by
    intro c hc
    simp only [bne_iff_ne, ne_eq]
    rintro rfl
    exact hmore (List.mem_reverse.mp hc)
  rw [lastLineStart, lastLineStart, List.reverse_append, List.takeWhile_append_of_pos hall,
    List.length_append, List.length_append, List.length_reverse]
  omega

/-! ### The line of a position -/

theorem sub_columnOf (s : Source) (p : Nat) :
    p - s.columnOf p = lastLineStart (s.chars.take p) := by
  have hle := lastLineStart_le_length (s.chars.take p)
  rw [List.length_take] at hle
  rw [columnOf]
  omega

/-- **The column goes back to the start of the line**: that is the start of the text or the place
behind a newline, there is no newline from there to the position, and as many newlines before it as
the line says. -/
theorem sub_columnOf_spec (s : Source) (p : Nat) :
    (p - s.columnOf p = 0 ∨ ∃ k, p - s.columnOf p = k + 1 ∧ s.chars[k]? = some '\n') ∧
    '\n' ∉ s.slice (p - s.columnOf p) p ∧
    (s.chars.take (p - s.columnOf p)).count '\n' = s.lineOf p - 1 := by
  obtain ⟨before, line, htake, hstart, hline, hbefore⟩ := exists_lastLine (s.chars.take p)
  have hchars : s.chars = before ++ line ++ s.chars.drop p := by
    rw [← htake, List.take_append_drop]
  rw [sub_columnOf, hstart]
  refine ⟨?_, ?_, ?_⟩
  · rcases hbefore with rfl | ⟨lines, rfl⟩
    · exact Or.inl rfl
    · refine Or.inr ⟨lines.length, by simp, ?_⟩
      rw [hchars]
      simp
  · rw [slice, htake, List.drop_left]
    exact hline
  · have hfirst : s.chars.take before.length = before := by
      rw [hchars, List.append_assoc, List.take_left]
    rw [hfirst, lineOf, htake, List.count_append, List.count_eq_zero.mpr hline]
    rfl

/-- The line and the column of a position, in the order in which texts are read. -/
def lineColumn (s : Source) (p : Nat) : Nat ×ₗ Nat := toLex (s.lineOf p, s.columnOf p)

/-- **A later position has a later line, or a later column in the same line.** -/
theorem strictMono_lineColumn (s : Source) : StrictMono s.lineColumn := by
  intro p q hpq
  obtain ⟨d, rfl⟩ := Nat.exists_eq_add_of_lt hpq
  have htake : s.chars.take (p + d + 1) = s.chars.take p ++ (s.chars.drop p).take (d + 1) := by
    rw [Nat.add_assoc, List.take_add]
  rw [lineColumn, lineColumn, Prod.Lex.toLex_lt_toLex]
  by_cases hnewline : '\n' ∈ (s.chars.drop p).take (d + 1)
  · refine Or.inl ?_
    have := List.count_pos_iff.mpr hnewline
    simp only [lineOf, htake, List.count_append]
    omega
  · refine Or.inr ⟨?_, ?_⟩
    · simp only [lineOf, htake, List.count_append, List.count_eq_zero.mpr hnewline, Nat.add_zero]
    · have hle := lastLineStart_le_length (s.chars.take p)
      rw [List.length_take] at hle
      simp only [columnOf, htake, lastLineStart_append hnewline]
      omega

end Source

/-! ### Offenses -/

def Offense.lineColumn (o : Offense) : Nat ×ₗ Nat := toLex (o.line, o.column)

namespace Inspection

variable {i : Inspection} {source : Source} {place : Place} {withCorrections : Bool}

theorem lineColumn_of_report {order : List Pair} {o : Offense}
    (h : (i.report source place order withCorrections).result = .ok o) :
    o.lineColumn = source.lineColumn o.start := by
  unfold report at h
  split at h
  · cases h
  · split at h
    · obtain ⟨edit, _, rfl⟩ := map_eq_ok_iff.mp h
      rfl
    · cases h
      rfl

theorem lineColumn_of_check {o : Offense}
    (h : (i.check source withCorrections place).result = .ok (some o)) :
    o.lineColumn = source.lineColumn o.start := by
  unfold check at h
  split at h
  · cases h
  · obtain ⟨o', ho', ho⟩ := map_eq_ok_iff.mp h
    cases ho
    exact lineColumn_of_report ho'

/-- **What is shown of an offense is where it starts.** -/
theorem lineColumn_of_mem_run {tree : SyntaxTree} {offenses : List Offense}
    (h : (i.run tree withCorrections).result = .ok offenses) {o : Offense} (ho : o ∈ offenses) :
    o.lineColumn = tree.source.lineColumn o.start := by
  obtain ⟨found, hfound, rfl⟩ := map_eq_ok_iff.mp h
  obtain ⟨p, _, hcheck⟩ := exists_check_of_mem_checkAll hfound (List.mem_mergeSort.mp ho)
  exact lineColumn_of_check hcheck

theorem pairwise_start_run {tree : SyntaxTree} {offenses : List Offense}
    (h : (i.run tree withCorrections).result = .ok offenses) :
    offenses.Pairwise fun a b => a.start ≤ b.start := by
  obtain ⟨found, _, rfl⟩ := map_eq_ok_iff.mp h
  have hsorted : (found.mergeSort fun a b => decide (a.start ≤ b.start)).Pairwise
      fun a b => decide (a.start ≤ b.start) = true :=
    List.pairwise_mergeSort (fun a b c hab hbc => by simp at *; omega)
      (fun a b => by simp; omega) found
  exact hsorted.imp of_decide_eq_true

end Inspection

namespace Source

/-- **Positions are shown in their order, and no two alike.**  The line and the column of a later
position come later, past the end of the text too.  The column of a position goes back to the start
of its line, and the line counts the newlines up to there.  So the offenses of a tree stand in the
order of the lines and columns that are shown of them, and two are shown at the same place only if
they start at the same position. -/
theorem positions_shown_in_order (s : Source) :
    StrictMono s.lineColumn ∧
    (∀ p, s.columnOf p ≤ p ∧
      (p - s.columnOf p = 0 ∨ ∃ k, p - s.columnOf p = k + 1 ∧ s.chars[k]? = some '\n') ∧
      '\n' ∉ s.slice (p - s.columnOf p) p ∧
      (s.chars.take (p - s.columnOf p)).count '\n' = s.lineOf p - 1) ∧
    ∀ (i : Inspection) (tree : SyntaxTree) (withCorrections : Bool) (offenses : List Offense),
      tree.source = s → (i.run tree withCorrections).result = .ok offenses →
        offenses.Pairwise (fun a b => a.lineColumn ≤ b.lineColumn) ∧
        ∀ a ∈ offenses, ∀ b ∈ offenses, a.lineColumn = b.lineColumn ↔ a.start = b.start := by
  refine ⟨s.strictMono_lineColumn, fun p => ⟨Nat.sub_le _ _, s.sub_columnOf_spec p⟩, ?_⟩
  rintro i tree withCorrections offenses rfl h
  refine ⟨?_, fun a ha b hb => ?_⟩
  · refine (Inspection.pairwise_start_run h).imp_of_mem fun {a b} ha hb hab => ?_
    rw [Inspection.lineColumn_of_mem_run h ha, Inspection.lineColumn_of_mem_run h hb]
    exact tree.source.strictMono_lineColumn.monotone hab
  · rw [Inspection.lineColumn_of_mem_run h ha, Inspection.lineColumn_of_mem_run h hb]
    exact tree.source.strictMono_lineColumn.injective.eq_iff

def blankLine : Source := ofString "a\n\nb" "x.rb"

/-- A newline ends its own line, an empty line has the one column, and past the end the last line
goes on; the outer of two assignments is shown before the inner one. -/
theorem positions_shown_in_order_handled :
    blankLine.lineColumn 1 < blankLine.lineColumn 2 ∧ blankLine.lineColumn 2 = toLex (2, 0) ∧
    blankLine.lineColumn 4 < blankLine.lineColumn 9 ∧ blankLine.lineColumn 9 = toLex (3, 6) ∧
    blankLine.chars[2]? = some '\n' ∧ '\n' ∉ blankLine.slice (9 - blankLine.columnOf 9) 9 ∧
    ∃ offenses,
      (Inspection.run ⟨2, Strategy.all⟩ Inspection.handledTree true).result = .ok offenses ∧
      offenses.map (fun o => o.lineColumn) = [toLex (1, 0), toLex (1, 25)] ∧
      offenses.Pairwise fun a b => a.lineColumn ≤ b.lineColumn := by
  obtain ⟨hmono, hcolumn, _⟩ := positions_shown_in_order blankLine
  have hall : (Inspection.run ⟨2, Strategy.all⟩ Inspection.handledTree true).result.map
      (·.map fun o => (o.line, o.column)) = .ok [(1, 0), (1, 25)] := by
    simp only [Inspection.handledTree, Inspection.names_handled]
    cbv
  obtain ⟨offenses, hoffenses, hmap⟩ := map_eq_ok_iff.mp hall
  refine ⟨hmono (by decide), by decide, hmono (by decide), by decide, by decide,
    (hcolumn 9).2.2.1, offenses, hoffenses, ?_, ?_⟩
  · have hshown := congrArg (List.map toLex) hmap
    rw [List.map_map] at hshown
    exact hshown
  · exact ((positions_shown_in_order Inspection.handledTree.source).2.2 _ _ _ _ rfl hoffenses).1

end Source

end MultiAssign
