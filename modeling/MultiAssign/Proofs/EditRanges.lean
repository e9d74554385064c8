import MultiAssign.Proofs.Places
import MultiAssign.Proofs.ReadingRanges
import MultiAssign.Inspection
import Mathlib.Data.List.Permutation

/-!
# The edits of one inspection

An inspection proposes edits for several parallel assignments of a tree, and these may stand in one
another.  This file says that two of the edits lie apart or one in the other, but never overlap in
part (`Inspection.corrections_laminar`).

The range of an edit is always the range of a node: of the assignment itself or of the modifier that
it stands before (`Inspection.exists_span_of_mem_corrections`).  So it is enough that the ranges of
nodes do not overlap in part, which `Node.laidIn_ofConcrete` says of every tree that was read from
an arranged one.
-/

namespace MultiAssign

def Edit.span (e : Edit) : Span := ⟨e.start, e.stop⟩

namespace Split

theorem span_of_knownSpan {n : Node} {s : Span} (h : knownSpan n = .ok s) : n.span = some s := by
  unfold knownSpan at h
  split at h
  · next s' hs =>
    cases h
    exact hs
  · cases h

theorem mem_walk_of_guard {root : Node} {r : Split} (hplace : r.place ∈ (Place.top root).walk)
    {p : Place} (hp : r.guard = .ok p) : p.node ∈ root.walk := by
  have habove := (Place.mem_walk_of_mem_walk hplace).2
  unfold guard Place.parent? at hp
  cases hpath : r.place.above with
  | nil =>
    rw [hpath] at hp
    cases hp
  | cons a above =>
    rw [hpath] at hp habove
    cases hp
    exact habove a List.mem_cons_self

/-- Whatever the strategy, the range of a node is replaced. -/
theorem exists_span_of_range {root : Node} {r : Split} (hplace : r.place ∈ (Place.top root).walk)
    {strategy : Strategy} {s : Span} (h : r.range strategy = .ok s) :
    ∃ n ∈ root.walk, n.span = some s := by
  cases strategy with
  | generic =>
    exact ⟨r.place.node, (Place.mem_walk_of_mem_walk hplace).1, span_of_knownSpan h⟩
  | modifier | rescue =>
    obtain ⟨p, hp, hspan⟩ := bind_eq_ok_iff.mp h
    exact ⟨p.node, mem_walk_of_guard hplace hp, span_of_knownSpan hspan⟩

theorem exists_span_of_edit {root : Node} {r : Split} (hplace : r.place ∈ (Place.top root).walk)
    {strategy : Strategy} {e : Edit} (h : r.edit strategy = .ok e) :
    ∃ n ∈ root.walk, n.span = some e.span := by
  obtain ⟨s, hs, h⟩ := bind_eq_ok_iff.mp h
  obtain ⟨text, _, h⟩ := bind_eq_ok_iff.mp h
  cases h
  exact exists_span_of_range hplace hs

end Split

namespace Inspection

variable {i : Inspection} {source : Source} {place : Place} {withCorrections : Bool}

theorem edit_of_correct {r : Split} {line : Nat} {e : Edit}
    (h : (i.correct r line).result = .ok (some e)) : ∃ strategy, r.edit strategy = .ok e := by
  unfold correct at h
  split at h
  · cases h
  · next strategy _ =>
    split at h
    · next edit hedit =>
      cases h
      unfold editWith at hedit
      split at hedit
      · exact ⟨strategy, hedit⟩
      · cases hedit
    · split at h <;> cases h

theorem edit_of_report {order : List Pair} {o : Offense} {e : Edit}
    (h : (i.report source place order withCorrections).result = .ok o)
    (he : o.correction = some e) :
    ∃ strategy, (⟨source, place, order, i.width⟩ : Split).edit strategy = .ok e := by
  unfold report at h
  split at h
  · cases h
  · split at h
    · obtain ⟨edit, hedit, rfl⟩ := map_eq_ok_iff.mp h
      cases he
      exact edit_of_correct hedit
    · cases h
      cases he

theorem edit_of_check {o : Offense} {e : Edit}
    (h : (i.check source withCorrections place).result = .ok (some o))
    (he : o.correction = some e) :
    ∃ order strategy, (⟨source, place, order, i.width⟩ : Split).edit strategy = .ok e := by
  unfold check at h
  split at h
  · cases h
  · next order _ =>
    obtain ⟨o', ho', ho⟩ := map_eq_ok_iff.mp h
    cases ho
    exact ⟨order, edit_of_report ho' he⟩

theorem exists_check_of_mem_checkAll {places : List Place} {offenses : List Offense}
    (h : (i.checkAll source withCorrections places).result = .ok offenses) {o : Offense}
    (ho : o ∈ offenses) :
    ∃ p ∈ places, (i.check source withCorrections p).result = .ok (some o) := by
  induction places generalizing offenses with
  | nil =>
    cases h
    exact absurd ho List.not_mem_nil
  | cons p rest ih =>
    rw [checkAll] at h
    cases hp : (i.check source withCorrections p).result with
    | error failure =>
      simp only [hp] at h
      cases h
    | ok found =>
      simp only [hp] at h
      obtain ⟨others, hothers, rfl⟩ := map_eq_ok_iff.mp h
      rcases List.mem_append.mp ho with ho | ho
      · cases Option.mem_toList.mp ho
        exact ⟨p, List.mem_cons_self, hp⟩
      · obtain ⟨q, hq, hcheck⟩ := ih hothers ho
        exact ⟨q, List.mem_cons_of_mem p hq, hcheck⟩

/-- **The range of an edit is the range of a node of the tree.** -/
theorem exists_span_of_mem_corrections {tree : SyntaxTree} {offenses : List Offense}
    (h : (i.run tree withCorrections).result = .ok offenses) {e : Edit}
    (he : e ∈ Offense.corrections offenses) : ∃ n ∈ tree.root.walk, n.span = some e.span := by
  obtain ⟨found, hfound, rfl⟩ := map_eq_ok_iff.mp h
  obtain ⟨o, ho, hcorrection⟩ := List.mem_filterMap.mp he
  obtain ⟨p, hp, hcheck⟩ := exists_check_of_mem_checkAll hfound (List.mem_mergeSort.mp ho)
  obtain ⟨order, strategy, hedit⟩ := edit_of_check hcheck hcorrection
  exact Split.exists_span_of_edit (List.mem_filter.mp hp).1 hedit

/-- **The edits of one inspection do not overlap in part**: of any two, the ranges lie apart or one
in the other. -/
theorem corrections_laminar (i : Inspection) {source : Source} {parse : Parse} {tree : SyntaxTree}
    (harranged : parse.root.Arranged) (htree : SyntaxTree.ofParse source parse = .ok tree)
    {offenses : List Offense} (h : (i.run tree true).result = .ok offenses) :
    ∀ e ∈ Offense.corrections offenses, ∀ e' ∈ Offense.corrections offenses,
      e.span.Laminar e'.span := by
  intro e he e' he'
  obtain ⟨root, hroot, rfl⟩ := map_eq_ok_iff.mp htree
  have hlaid := Node.laidIn_ofConcrete harranged hroot
  obtain ⟨n, hn, hspan⟩ := exists_span_of_mem_corrections h he
  obtain ⟨m, hm, hspan'⟩ := exists_span_of_mem_corrections h he'
  rw [← List.flatMap_singleton Node.walk root] at hn hm
  exact hlaid.laminar n hn m hm e.span hspan e'.span hspan'

/-- A text in which a parallel assignment has a rescue, and the handler is another one. -/
def handled : Source := Source.ofString "a, b = 1, 2 rescue begin c, d = 3, 4 end" "x.rb"

def handledParse : Parse where
  hasErrors := false
  root :=
    .mk ⟨"program", 0, 40, true, none⟩
      [.mk ⟨"assignment", 0, 40, true, none⟩
        [.mk ⟨"left_assignment_list", 0, 4, true, some "left"⟩
          [.mk ⟨"identifier", 0, 1, true, none⟩ [], .mk ⟨",", 1, 2, false, none⟩ [],
            .mk ⟨"identifier", 3, 4, true, none⟩ []],
          .mk ⟨"=", 5, 6, false, none⟩ [],
          .mk ⟨"right_assignment_list", 7, 40, true, some "right"⟩
            [.mk ⟨"integer", 7, 8, true, none⟩ [], .mk ⟨",", 8, 9, false, none⟩ [],
              .mk ⟨"rescue_modifier", 10, 40, true, none⟩
                [.mk ⟨"integer", 10, 11, true, some "body"⟩ [],
                  .mk ⟨"rescue", 12, 18, false, none⟩ [],
                  .mk ⟨"begin", 19, 40, true, some "handler"⟩
                    [.mk ⟨"begin", 19, 24, false, none⟩ [],
                      .mk ⟨"assignment", 25, 36, true, none⟩
                        [.mk ⟨"left_assignment_list", 25, 29, true, some "left"⟩
                          [.mk ⟨"identifier", 25, 26, true, none⟩ [],
                            .mk ⟨",", 26, 27, false, none⟩ [],
                            .mk ⟨"identifier", 28, 29, true, none⟩ []],
                          .mk ⟨"=", 30, 31, false, none⟩ [],
                          .mk ⟨"right_assignment_list", 32, 36, true, some "right"⟩
                            [.mk ⟨"integer", 32, 33, true, none⟩ [],
                              .mk ⟨",", 33, 34, false, none⟩ [],
                              .mk ⟨"integer", 35, 36, true, none⟩ []]],
                      .mk ⟨"end", 37, 40, false, none⟩ []]]]]]

/-- The syntax tree of that text: the outer assignment ends before the rescue. -/
def handledTree : SyntaxTree where
  source := handled
  hasErrors := false
  root :=
    .program (some ⟨0, 40⟩)
      [.rescueModifier (some ⟨0, 40⟩)
        (.multiAssign (some ⟨0, 11⟩)
          [.var (some ⟨0, 1⟩) .localVar (handled.bytesText 0 1),
            .var (some ⟨3, 4⟩) .localVar (handled.bytesText 3 4)]
          (.array (some ⟨7, 11⟩)
            [.literal (some ⟨7, 8⟩) .integer (handled.bytesText 7 8) [] true,
              .literal (some ⟨10, 11⟩) .integer (handled.bytesText 10 11) [] true] false))
        (.begin (some ⟨19, 40⟩)
          [.multiAssign (some ⟨25, 36⟩)
            [.var (some ⟨25, 26⟩) .localVar (handled.bytesText 25 26),
              .var (some ⟨28, 29⟩) .localVar (handled.bytesText 28 29)]
            (.array (some ⟨32, 36⟩)
              [.literal (some ⟨32, 33⟩) .integer (handled.bytesText 32 33) [] true,
                .literal (some ⟨35, 36⟩) .integer (handled.bytesText 35 36) [] true] false)]
          [] [] none)]

theorem ofParse_handled : SyntaxTree.ofParse handled handledParse = .ok handledTree := rfl

theorem names_handled :
    handled.bytesText 0 1 = "a" ∧ handled.bytesText 3 4 = "b" ∧
      handled.bytesText 7 8 = "1" ∧ handled.bytesText 10 11 = "2" ∧
      handled.bytesText 25 26 = "c" ∧ handled.bytesText 28 29 = "d" ∧
      handled.bytesText 32 33 = "3" ∧ handled.bytesText 35 36 = "4" := by
  decide +kernel

theorem corrections_handled :
    (run ⟨2, Strategy.all⟩ handledTree true).result.map Offense.corrections =
      .ok [⟨0, 40, "begin\n  a = 1\n  b = 2\nrescue\n  begin c, d = 3, 4 end\nend"⟩,
        ⟨25, 36, "c = 3\n                         d = 4"⟩] := by
  simp only [handledTree, names_handled]
  cbv

/-- The edit of the assignment in the handler lies inside the edit of the guarded one. -/
theorem corrections_laminar_handled :
    handledParse.root.Arranged ∧ SyntaxTree.ofParse handled handledParse = .ok handledTree ∧
    ∃ offenses e e', (run ⟨2, Strategy.all⟩ handledTree true).result = .ok offenses ∧
      Offense.corrections offenses = [e, e'] ∧ e.span = ⟨0, 40⟩ ∧ e'.span = ⟨25, 36⟩ ∧
      e.span.Laminar e'.span := by
  have harranged : handledParse.root.Arranged := by decide
  obtain ⟨offenses, hoffenses, hcorrections⟩ := map_eq_ok_iff.mp corrections_handled
  refine ⟨harranged, ofParse_handled, offenses, _, _, hoffenses, hcorrections, rfl, rfl, ?_⟩
  apply corrections_laminar ⟨2, Strategy.all⟩ harranged ofParse_handled hoffenses
  · rw [hcorrections]
    exact List.mem_cons_self
  · rw [hcorrections]
    exact List.mem_cons_of_mem _ List.mem_cons_self

end Inspection

end MultiAssign
