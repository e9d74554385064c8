import MultiAssign.Proofs.SoundEdits
import MultiAssign.Proofs.SafeOrder

/-!
# Rows of a split assignment

A split assignment is a text of several lines, and the columns in which they start are part of what
it should look like.  The column of a position is a matter of the whole text before it, so that they
can only be seen in the text after the edit.

`Source.Shows` says that between two positions a text consists of given rows: each has the column it
should have, by `Source.columnOf`, and there is nothing but a line break and blanks from one to the
next.  A row is a piece of source text and may have line breaks of its own.  `Split.Layout` gives
the rows for each strategy, with the assignments in the column of the statement or one step further
in.

The two meet in `TextRow.stack`, the rows as they are written one below the other.  The replacement
of a split is such a stack (`Split.exists_layout_of_text`).  All of its rows but the first have
their column because a newline and the blanks before them are part of the stack
(`Source.columnOf_of_newline`), and the first has it because it stands where the statement stood
(`TextRow.shows_of_replaced`).  The main statement is `Split.edit_shows_rows`.
-/

namespace MultiAssign

/-- A piece of text and the column it starts in. -/
structure TextRow where
  column : Nat
  text : String

namespace Source

/-- The row stands in a text at a position. -/
structure HasRow (s : Source) (position : Nat) (row : TextRow) : Prop where
  column : s.columnOf position = row.column
  text : row.text.toList <+: s.chars.drop position

/-- From one position up to another a text consists of rows, with nothing but a newline and the
indentation of the next row between two of them. -/
inductive Shows (s : Source) : Nat → List TextRow → Nat → Prop where
  | last {start : Nat} {row : TextRow} (here : s.HasRow start row) :
    Shows s start [row] (start + row.text.length)
  | cons {start position stop indent : Nat} {row : TextRow} {rows : List TextRow}
    (here : s.HasRow start row)
    (between : s.slice (start + row.text.length) position = '\n' :: List.replicate indent ' ')
    (below : Shows s position rows stop) : Shows s start (row :: rows) stop

theorem columnOf_congr {s t : Source} {position : Nat}
    (h : s.chars.take position = t.chars.take position) :
    s.columnOf position = t.columnOf position := by
  rw [columnOf, columnOf, h]

theorem columnOf_of_newline {s : Source} {before line after : List Char}
    (h : s.chars = before ++ '\n' :: line ++ after) (hline : '\n' ∉ line) :
    s.columnOf (before ++ '\n' :: line).length = line.length := by
  have htail : (before ++ '\n' :: line).reverse.takeWhile (· != '\n') = line.reverse := by
    have hall : ∀ c ∈ line.reverse, (c != '\n') = true := by
      intro c hc
      simp only [bne_iff_ne, ne_eq]
      rintro rfl
      exact hline (List.mem_reverse.mp hc)
    rw [List.reverse_append, List.reverse_cons, List.append_assoc,
      List.takeWhile_append_of_pos hall]
    simp
  rw [columnOf, h, List.take_left, lastLineStart, htail, List.length_reverse]
  simp only [List.length_append, List.length_cons]
  omega

theorem slice_of_chars {s : Source} {before piece after : List Char}
    (h : s.chars = before ++ piece ++ after) :
    s.slice before.length (before ++ piece).length = piece := by
  rw [slice, h, List.take_left, List.drop_left]

end Source

namespace TextRow

def below (row : TextRow) : List Char :=
  '\n' :: (List.replicate row.column ' ' ++ row.text.toList)

def stack : List TextRow → List Char
  | [] => []
  | row :: rows => row.text.toList ++ rows.flatMap below

theorem stack_append {rows : List TextRow} (h : rows ≠ []) (more : List TextRow) :
    stack (rows ++ more) = stack rows ++ more.flatMap below := by
  cases rows with
  | nil => exact absurd rfl h
  | cons row rows => simp [stack]

theorem stack_cons_cons (row next : TextRow) (rows : List TextRow) :
    stack (row :: next :: rows) =
      row.text.toList ++ '\n' :: List.replicate next.column ' ' ++ stack (next :: rows) := by
  simp [stack, below]

theorem hasRow_of_chars {s : Source} {row : TextRow} {before after : List Char}
    (h : s.chars = before ++ row.text.toList ++ after)
    (hcolumn : s.columnOf before.length = row.column) : s.HasRow before.length row := by
  refine ⟨hcolumn, ?_⟩
  rw [h, List.append_assoc, List.drop_left]
  exact List.prefix_append _ after

/-- **Rows that were stacked are shown**, if the first of them stands in its column. -/
theorem shows_stack : ∀ (rows : List TextRow) (row : TextRow) (s : Source)
    (before after : List Char),
    s.chars = before ++ stack (row :: rows) ++ after → s.columnOf before.length = row.column →
      s.Shows before.length (row :: rows) (before.length + (stack (row :: rows)).length) := by
  intro rows
  induction rows with
  | nil =>
    intro row s before after h hcolumn
    have hrow : stack [row] = row.text.toList := by simp [stack]
    rw [hrow] at h ⊢
    rw [String.length_toList]
    exact .last (hasRow_of_chars h hcolumn)
  | cons next rows ih =>
    intro row s before after h hcolumn
    rw [stack_cons_cons] at h ⊢
    -- the next row starts behind this one, a newline and its own indentation
    let gap : List Char := '\n' :: List.replicate next.column ' '
    have hchars : s.chars =
        (before ++ row.text.toList) ++ gap ++ (stack (next :: rows) ++ after) := by
      rw [h]
      simp only [gap, List.append_assoc]
    have hnext : s.columnOf (before ++ row.text.toList ++ gap).length = next.column := by
      rw [Source.columnOf_of_newline hchars (by simp), List.length_replicate]
    have hbelow := ih next s (before ++ row.text.toList ++ gap) after
      (hchars.trans (List.append_assoc _ _ _).symm) hnext
    have hstop : (before ++ row.text.toList ++ gap).length + (stack (next :: rows)).length =
        before.length + (row.text.toList ++ gap ++ stack (next :: rows)).length := by
      simp only [List.length_append]
      omega
    rw [hstop] at hbelow
    have hhere : s.HasRow before.length row := by
      rw [List.append_assoc] at hchars
      exact hasRow_of_chars hchars hcolumn
    have hbetween : s.slice (before.length + row.text.length)
        (before ++ row.text.toList ++ gap).length = '\n' :: List.replicate next.column ' ' := by
      rw [← String.length_toList, ← List.length_append]
      exact Source.slice_of_chars hchars
    exact .cons hhere hbetween hbelow

/-- Rows that are put into a text in place of a range are shown from its start on, if the first of
them has the column of that start. -/
theorem shows_of_replaced {s t : Source} {start stop : Nat} {row : TextRow} {rows : List TextRow}
    (ht : t.chars = s.chars.take start ++ stack (row :: rows) ++ s.chars.drop stop)
    (hstart : start ≤ s.chars.length) (hcolumn : s.columnOf start = row.column) :
    t.Shows start (row :: rows) (start + (stack (row :: rows)).length) := by
  have hlength : (s.chars.take start).length = start := List.length_take_of_le hstart
  have htake : t.chars.take start = s.chars.take start := by
    rw [ht, List.append_assoc, List.take_append_of_le_length (Nat.le_of_eq hlength.symm),
      List.take_take, Nat.min_self]
  rw [Source.columnOf_congr htake.symm] at hcolumn
  have hshows := shows_stack rows row t (s.chars.take start) (s.chars.drop stop) ht
  rw [hlength] at hshows
  exact hshows hcolumn

end TextRow

/-! ### The rows of a split -/

def Node.keyword? : Node → Option Span
  | conditional _ _ _ _ _ _ keyword => keyword
  | loop _ _ _ _ _ keyword => keyword
  | _ => none

namespace Split

def column (r : Split) : Nat := r.source.columnOf r.place.span.start

/-- The assignments as rows in one column; an empty row if there are none. -/
def rowsAt (r : Split) (column : Nat) : List TextRow :=
  (if r.lines.isEmpty then [""] else r.lines).map fun line => ⟨column, line⟩

/-- How an assignment is laid out when it is split. -/
inductive Layout (r : Split) : Strategy → List TextRow → Prop where
  /-- The assignments, in the column of the statement. -/
  | generic : Layout r .generic (r.rowsAt r.column)
  /-- The modifier, the assignments one step further in, and an `end` below the modifier. -/
  | modifier {guard : Place} {keyword : Span} (parent : r.place.parent? = some guard)
    (known : guard.node.keyword? = some keyword) :
    Layout r .modifier
      (⟨r.column, r.source.textOf ⟨keyword.start, guard.span.stop⟩⟩ ::
        r.rowsAt (r.column + r.width) ++ [⟨r.column, "end"⟩])
  /-- The assignments in the column of the statement, a `rescue` in that of the method, and the
  handler. -/
  | implicitBegin {guard method : Place} {span : Option Span} {body handler : Node}
    (parent : r.place.parent? = some guard)
    (isGuard : guard.node = .rescueModifier span body handler)
    (whole : usesImplicitBegin guard = true) (outer : guard.parent? = some method) :
    Layout r .rescue
      (r.rowsAt r.column ++
        [⟨r.source.columnOf method.span.start, "rescue"⟩, ⟨r.column, handler.sourceIn r.source⟩])
  /-- A `begin`, the assignments one step further in, a `rescue`, the handler one step further in,
  and an `end`. -/
  | explicitBegin {guard : Place} {span : Option Span} {body handler : Node}
    (parent : r.place.parent? = some guard)
    (isGuard : guard.node = .rescueModifier span body handler)
    (part : usesImplicitBegin guard = false) :
    Layout r .rescue
      (⟨r.column, "begin"⟩ :: r.rowsAt (r.column + r.width) ++
        [⟨r.column, "rescue"⟩, ⟨r.column + r.width, handler.sourceIn r.source⟩,
          ⟨r.column, "end"⟩])

variable {r : Split}

theorem toList_spaces (n : Nat) : (spaces n).toList = List.replicate n ' ' := by
  simp [spaces]

theorem spaces_add (m n : Nat) : spaces (m + n) = spaces m ++ spaces n := by
  rw [spaces, List.replicate_add, String.ofList_append]
  rfl

theorem exists_rowsAt_eq_cons (r : Split) (n : Nat) :
    ∃ line rows, r.rowsAt n = ⟨n, line⟩ :: rows := by
  unfold rowsAt
  split
  · exact ⟨"", [], rfl⟩
  · next h =>
    obtain ⟨line, lines, hlines⟩ := List.exists_cons_of_ne_nil (by simpa using h)
    exact ⟨line, _, by rw [hlines, List.map_cons]⟩

/-- Lines that are stacked are rows in the column of their indentation. -/
theorem toList_stacked (n : Nat) : ∀ (lines : List String) (line : String),
    (stacked (spaces n) (line :: lines)).toList =
      TextRow.stack ((line :: lines).map fun line => ⟨n, line⟩) := by
  intro lines
  induction lines with
  | nil => intro line; simp [stacked, TextRow.stack]
  | cons next lines ih =>
    intro line
    have hnext := ih next
    simp only [stacked, String.toList_intercalate, List.map_cons] at hnext ⊢
    rw [List.intercalate_cons_cons, hnext, TextRow.stack_cons_cons, String.toList_append,
      toList_spaces]
    simp

theorem toList_stacked_lines (r : Split) (n : Nat) :
    (stacked (spaces n) r.lines).toList = TextRow.stack (r.rowsAt n) := by
  unfold rowsAt
  cases r.lines with
  | nil => simp [stacked, TextRow.stack]
  | cons line lines => exact toList_stacked n lines line

theorem flatMap_below_rowsAt (r : Split) (n : Nat) :
    (r.rowsAt n).flatMap TextRow.below =
      '\n' :: (List.replicate n ' ' ++ (stacked (spaces n) r.lines).toList) := by
  obtain ⟨line, rows, hrows⟩ := r.exists_rowsAt_eq_cons n
  rw [toList_stacked_lines, hrows]
  simp [TextRow.below, TextRow.stack]

theorem offset_eq {offset : String} (h : r.offset = .ok offset) : offset = spaces r.column := by
  obtain ⟨span, hspan, rfl⟩ := map_eq_ok_iff.mp h
  rw [column, Place.span, span_of_knownSpan hspan]
  rfl

theorem indentation_eq {indentation : String} (h : r.indentation = .ok indentation) :
    indentation = spaces (r.column + r.width) := by
  obtain ⟨offset, hoffset, rfl⟩ := map_eq_ok_iff.mp h
  rw [offset_eq hoffset, spaces_add]

theorem eq_of_guard {guard : Place} (h : r.guard = .ok guard) : r.place.parent? = some guard := by
  unfold Split.guard at h
  split at h
  · next parent hparent =>
    cases h
    exact hparent
  · cases h

theorem modifierHeader_eq {source : Source} {guard : Place} {header : String}
    (h : modifierHeader source guard.node = .ok header) :
    ∃ keyword, guard.node.keyword? = some keyword ∧
      header = source.textOf ⟨keyword.start, guard.span.stop⟩ := by
  have hheader : ∀ {keyword : Span}, (knownSpan guard.node >>= fun span =>
      pure (source.textOf ⟨keyword.start, span.stop⟩)) = .ok header →
      header = source.textOf ⟨keyword.start, guard.span.stop⟩ := by
    intro keyword h
    obtain ⟨span, hspan, h⟩ := bind_eq_ok_iff.mp h
    cases h
    rw [Place.span, span_of_knownSpan hspan]
    rfl
  unfold modifierHeader at h
  split at h <;> dsimp only at h
  · next hguard =>
    split at h
    · cases h
    · exact ⟨_, by rw [hguard, Node.keyword?], hheader h⟩
  · next hguard =>
    split at h
    · cases h
    · exact ⟨_, by rw [hguard, Node.keyword?], hheader h⟩
  · cases h

/-! ### The text of a split as rows -/

/-- The first row of a layout stands where the assignment stood. -/
theorem Layout.exists_eq_cons {strategy : Strategy} {rows : List TextRow}
    (h : r.Layout strategy rows) :
    ∃ text below, rows = ⟨r.column, text⟩ :: below := by
  cases h with
  | generic => exact r.exists_rowsAt_eq_cons r.column
  | modifier => exact ⟨_, _, rfl⟩
  | implicitBegin =>
    obtain ⟨line, rows, hrows⟩ := r.exists_rowsAt_eq_cons r.column
    exact ⟨line, _, by rw [hrows, List.cons_append]⟩
  | explicitBegin => exact ⟨_, _, rfl⟩

theorem toList_genericText {text : String} (h : r.genericText = .ok text) :
    text.toList = TextRow.stack (r.rowsAt r.column) := by
  obtain ⟨offset, hoffset, h⟩ := bind_eq_ok_iff.mp h
  cases h
  rw [offset_eq hoffset, toList_stacked_lines]

theorem exists_layout_of_modifierText {text : String} (h : r.modifierText = .ok text) :
    ∃ rows, r.Layout .modifier rows ∧ text.toList = TextRow.stack rows := by
  obtain ⟨indentation, hindentation, h⟩ := bind_eq_ok_iff.mp h
  obtain ⟨guard, hguard, h⟩ := bind_eq_ok_iff.mp h
  obtain ⟨header, hheader, h⟩ := bind_eq_ok_iff.mp h
  obtain ⟨offset, hoffset, h⟩ := bind_eq_ok_iff.mp h
  cases h
  obtain ⟨keyword, hkeyword, rfl⟩ := modifierHeader_eq hheader
  refine ⟨_, .modifier (eq_of_guard hguard) hkeyword, ?_⟩
  rw [indentation_eq hindentation, offset_eq hoffset]
  simp [TextRow.stack, flatMap_below_rowsAt, TextRow.below, toList_spaces]

theorem toList_explicitBegin {handler text : String} (h : r.explicitBegin handler = .ok text) :
    text.toList = TextRow.stack
      (⟨r.column, "begin"⟩ :: r.rowsAt (r.column + r.width) ++
        [⟨r.column, "rescue"⟩, ⟨r.column + r.width, handler⟩, ⟨r.column, "end"⟩]) := by
  obtain ⟨indentation, hindentation, h⟩ := bind_eq_ok_iff.mp h
  obtain ⟨offset, hoffset, h⟩ := bind_eq_ok_iff.mp h
  cases h
  rw [indentation_eq hindentation, offset_eq hoffset]
  simp [TextRow.stack, flatMap_below_rowsAt, TextRow.below, toList_spaces]

theorem toList_implicitBegin {guard : Place} {handler text : String}
    (h : r.implicitBegin guard handler = .ok text) :
    ∃ method, guard.parent? = some method ∧
      text.toList = TextRow.stack (r.rowsAt r.column ++
        [⟨r.source.columnOf method.span.start, "rescue"⟩, ⟨r.column, handler⟩]) := by
  obtain ⟨lines, hlines, h⟩ := bind_eq_ok_iff.mp h
  split at h
  · cases h
  · next method hmethod =>
    obtain ⟨methodOffset, hoffset', h⟩ := bind_eq_ok_iff.mp h
    obtain ⟨offset, hoffset, h⟩ := bind_eq_ok_iff.mp h
    cases h
    obtain ⟨span, hspan, rfl⟩ := map_eq_ok_iff.mp hoffset'
    have hne : r.rowsAt r.column ≠ [] := by
      obtain ⟨line, rows, hrows⟩ := r.exists_rowsAt_eq_cons r.column
      simp [hrows]
    refine ⟨method, hmethod, ?_⟩
    rw [TextRow.stack_append hne, ← toList_genericText hlines, offset_eq hoffset, Place.span,
      span_of_knownSpan hspan]
    simp [TextRow.below, toList_spaces]

theorem exists_layout_of_rescueText {text : String} (h : r.rescueText = .ok text) :
    ∃ rows, r.Layout .rescue rows ∧ text.toList = TextRow.stack rows := by
  unfold rescueText at h
  split at h
  · next span body handler above hparent =>
    dsimp only at h
    split at h
    · next hwhole =>
      obtain ⟨method, hmethod, htext⟩ := toList_implicitBegin h
      exact ⟨_, .implicitBegin hparent rfl hwhole hmethod, htext⟩
    · next hpart =>
      exact ⟨_, .explicitBegin hparent rfl (Bool.eq_false_iff.mpr hpart), toList_explicitBegin h⟩
  · cases h

/-- **The text of a split is a stack of the rows of its layout.** -/
theorem exists_layout_of_text {strategy : Strategy} {text : String}
    (h : r.text strategy = .ok text) :
    ∃ rows, r.Layout strategy rows ∧ text.toList = TextRow.stack rows := by
  cases strategy with
  | generic => exact ⟨_, .generic, toList_genericText h⟩
  | modifier => exact exists_layout_of_modifierText h
  | rescue => exact exists_layout_of_rescueText h

end Split

/-! ### One edit -/

/-- One edit inside a text replaces its range, and nothing else. -/
theorem Edit.apply_singleton {source : Source} {e : Edit} (hle : e.start ≤ e.stop)
    (hstop : e.stop ≤ source.chars.length) :
    apply source.text [e] = .ok (String.ofList
      (source.chars.take e.start ++ e.replacement.toList ++ source.chars.drop e.stop)) := by
  have hselect : select [e] = [e] := by simp [select, selection, sorted, sift]
  have hchars : source.text.toList = source.chars := String.toList_ofList
  rw [apply, hselect, hchars, splice, if_neg (by omega), splice]
  rfl

namespace Split

variable {r : Split}

def line (r : Split) (target element : Node) : String :=
  target.sourceIn r.source ++ " = " ++ element.standalone r.source r.opening

theorem lines_perm {span : Option Span} {targets : List Node} {value : Node}
    (hnode : r.place.node = .multiAssign span targets value)
    (hverdict : Inspection.verdict r.place = .splittable r.order) :
    r.lines.Perm (List.zipWith r.line targets value.sourceElements) := by
  rw [Inspection.verdict, hnode] at hverdict
  obtain ⟨_, _, horder⟩ := classify_eq_splittable_iff.mp hverdict
  obtain ⟨pairs, hpairs⟩ := Pair.exists_ofLists_of_findOrder horder
  have hperm := (Pair.safeOrder_of_findOrder hpairs horder).perm
  have hlines : r.lines = (r.order.map Pair.content).map fun c => r.line c.1 c.2 := by
    rw [lines, List.map_map]
    rfl
  rw [hlines, ← List.map_uncurry_zip_eq_zipWith, ← Pair.map_content_of_ofLists hpairs]
  exact (hperm.map Pair.content).map _

theorem range_and_text_of_edit {strategy : Strategy} {e : Edit} (h : r.edit strategy = .ok e) :
    r.range strategy = .ok e.span ∧ r.text strategy = .ok e.replacement := by
  obtain ⟨range, hrange, h⟩ := bind_eq_ok_iff.mp h
  obtain ⟨text, htext, h⟩ := bind_eq_ok_iff.mp h
  cases h
  exact ⟨hrange, htext⟩

/-- An edit starts where the assignment does, if its modifier does. -/
theorem start_of_range {strategy : Strategy} {s : Span} (h : r.range strategy = .ok s)
    (hguard : strategy ≠ .generic → ∀ guard, r.place.parent? = some guard →
      guard.span.start = r.place.span.start) : s.start = r.place.span.start := by
  cases strategy with
  | generic =>
    rw [Place.span, span_of_knownSpan h]
    rfl
  | modifier | rescue =>
    obtain ⟨guard, hparent, hspan⟩ := bind_eq_ok_iff.mp h
    rw [← hguard (by decide) guard (eq_of_guard hparent), Place.span, span_of_knownSpan hspan]
    rfl

/-- **A split shows each assignment once, in line with the statement.**  The ranges of the tree lie
in the text, and what is replaced starts where the assignment does.  Then the edit can be applied,
and only its range changes: there the new text shows the rows of the layout, each in its column, one
below the other.  The assignments among them are those of the statement, in another order. -/
theorem edit_shows_rows {root : Node} {span : Option Span} {targets : List Node} {value : Node}
    {strategy : Strategy} {e : Edit}
    (hspans : ∀ n ∈ root.walk, ∃ s ∈ n.span, s.start ≤ s.stop ∧ s.stop ≤ r.source.chars.length)
    (hplace : r.place ∈ (Place.top root).walk)
    (hnode : r.place.node = .multiAssign span targets value)
    (hverdict : Inspection.verdict r.place = .splittable r.order)
    (hedit : r.edit strategy = .ok e)
    (hguard : strategy ≠ .generic → ∀ guard, r.place.parent? = some guard →
      guard.span.start = r.place.span.start) :
    ∃ out rows, Edit.apply r.source.text [e] = .ok out ∧
      out.toList =
        r.source.chars.take e.start ++ e.replacement.toList ++ r.source.chars.drop e.stop ∧
      r.Layout strategy rows ∧
      (Source.ofString out r.source.name).Shows e.start rows (e.start + e.replacement.length) ∧
      r.lines.Perm (List.zipWith r.line targets value.sourceElements) := by
  obtain ⟨n, hn, hspan⟩ := exists_span_of_edit hplace hedit
  obtain ⟨s, hs, hle, hstop⟩ := hspans n hn
  rw [hspan] at hs
  cases hs
  obtain ⟨hrange, htext⟩ := range_and_text_of_edit hedit
  have hcolumn : r.source.columnOf e.start = r.column := by
    rw [column, ← start_of_range hrange hguard]
    rfl
  have happly := Edit.apply_singleton hle hstop
  obtain ⟨rows, hlayout, hrows⟩ := exists_layout_of_text htext
  refine ⟨_, rows, happly, String.toList_ofList, hlayout, ?_, lines_perm hnode hverdict⟩
  obtain ⟨first, below, rfl⟩ := hlayout.exists_eq_cons
  rw [← String.length_toList, hrows]
  exact TextRow.shows_of_replaced String.toList_ofList (Nat.le_trans hle hstop) hcolumn

/-! ### A method with a rescue -/

/-- The body of a method, with an assignment that has to come before the one it stands behind. -/
def rescuedText : Source := Source.ofString "def m\n  a, b = 1, a rescue nil\nend\n" "x.rb"

def rescuedAssigned : Node :=
  .multiAssign (some ⟨8, 19⟩)
    [.var (some ⟨8, 9⟩) .localVar "a", .var (some ⟨11, 12⟩) .localVar "b"]
    (.array (some ⟨15, 19⟩)
      [.literal (some ⟨15, 16⟩) .integer "1" [] true, .var (some ⟨18, 19⟩) .localVar "a"] false)

def rescuedGuard : Node :=
  .rescueModifier (some ⟨8, 30⟩) rescuedAssigned
    (.literal (some ⟨27, 30⟩) .nilWord "nil" [] true)

def rescuedMethod : Node := .methodDef (some ⟨0, 34⟩) "m" [rescuedGuard] false [] [] none

def rescuedRoot : Node := .program (some ⟨0, 35⟩) [rescuedMethod]

def rescuedSplit : Split where
  source := rescuedText
  place := ⟨rescuedAssigned, [(rescuedGuard, 0), (rescuedMethod, 0), (rescuedRoot, 0)]⟩
  order :=
    [⟨1, .var (some ⟨11, 12⟩) .localVar "b", .var (some ⟨18, 19⟩) .localVar "a", none⟩,
      ⟨0, .var (some ⟨8, 9⟩) .localVar "a", .literal (some ⟨15, 16⟩) .integer "1" [] true, none⟩]
  width := 2

theorem verdict_rescuedSplit :
    Inspection.verdict rescuedSplit.place = .splittable rescuedSplit.order := by
  cbv

theorem edit_rescuedSplit :
    rescuedSplit.edit .rescue = .ok ⟨8, 30, "b = a\n  a = 1\nrescue\n  nil"⟩ := by
  rfl

theorem lines_rescuedSplit : rescuedSplit.lines = ["b = a", "a = 1"] := rfl

/-- The rows of its layout: the `rescue` stands in the column of the method. -/
theorem rows_rescuedSplit {rows : List TextRow} (h : rescuedSplit.Layout .rescue rows) :
    rows = [⟨2, "b = a"⟩, ⟨2, "a = 1"⟩, ⟨0, "rescue"⟩, ⟨2, "nil"⟩] := by
  have hcolumn : rescuedSplit.column = 2 := rfl
  cases h with
  | implicitBegin parent isGuard whole outer =>
    cases parent
    cases isGuard
    cases outer
    have hmethod : rescuedSplit.source.columnOf 0 = 0 := rfl
    have hhandler : (Node.literal (some ⟨27, 30⟩) .nilWord "nil" [] true).sourceIn
        rescuedSplit.source = "nil" := rfl
    rw [rowsAt, hcolumn, lines_rescuedSplit, hhandler, Place.span]
    simp [rescuedMethod, Node.span, hmethod]
  | explicitBegin parent isGuard part =>
    cases parent
    cases part

/-- The assignments change places, and the `rescue` stands in the column of the method. -/
theorem edit_shows_rows_rescued :
    rescuedSplit.strategy? = some .rescue ∧
    ∃ out, Edit.apply rescuedText.text [⟨8, 30, "b = a\n  a = 1\nrescue\n  nil"⟩] = .ok out ∧
      (Source.ofString out "x.rb").Shows 8
        [⟨2, "b = a"⟩, ⟨2, "a = 1"⟩, ⟨0, "rescue"⟩, ⟨2, "nil"⟩] 34 ∧
      rescuedSplit.lines.Perm ["a = 1", "b = a"] := by
  have hplaces : Inspection.assignments rescuedRoot = [rescuedSplit.place] := by cbv
  have hplace : rescuedSplit.place ∈ (Place.top rescuedRoot).walk :=
    (List.mem_filter.mp (hplaces ▸ List.mem_singleton_self rescuedSplit.place)).1
  have hspans : ∀ n ∈ rescuedRoot.walk,
      ∃ s ∈ n.span, s.start ≤ s.stop ∧ s.stop ≤ rescuedSplit.source.chars.length := by
    rw [Node.walk_eq_preorder]
    decide
  have hguard : Strategy.rescue ≠ .generic → ∀ guard, rescuedSplit.place.parent? = some guard →
      guard.span.start = rescuedSplit.place.span.start := by
    rintro _ guard ⟨⟩
    rfl
  have hstrategy : rescuedSplit.strategy? = some .rescue := by decide +kernel
  obtain ⟨out, rows, hout, _, hlayout, hshows, hperm⟩ := edit_shows_rows hspans hplace rfl
    verdict_rescuedSplit edit_rescuedSplit hguard
  rw [rows_rescuedSplit hlayout] at hshows
  have hpositional : List.zipWith rescuedSplit.line
      [.var (some ⟨8, 9⟩) .localVar "a", .var (some ⟨11, 12⟩) .localVar "b"]
      [.literal (some ⟨15, 16⟩) .integer "1" [] true, .var (some ⟨18, 19⟩) .localVar "a"] =
      ["a = 1", "b = a"] := rfl
  exact ⟨hstrategy, out, hout, hshows, hpositional ▸ hperm⟩

end Split

end MultiAssign
