import MultiAssign.Proofs.Places
import MultiAssign.Inspection
import MultiAssign.Syntax.Reading
import Mathlib.Data.List.Permutation

/-!
# Here-documents in a statement that is split

The text of a here-document stands below the line that opens it.  A statement that opens one cannot
be spread over several lines, since the first of the new lines would be taken for that text.

A correction can replace more than the value of an assignment, though, and the value is all that is
looked at before it is split.  So this file takes apart what is replaced: the value, the targets,
and what is left of the guard when the assignment is taken out of it (`Place.part`).  A
here-document of the statement is opened in one of these (`Place.hasHeredoc_replaced`), because the
assignment and its guard are no literals themselves.

The main statement, `Split.splits_heredoc_iff`, says which statements with a here-document are split
all the same: those that stand in a list of statements and open theirs in a target or in the guard
alone.  `Split.splits_heredoc_condition` is one of them with the text that comes of it.
-/

namespace MultiAssign

/-- The parts of the statement that a correction replaces. -/
inductive Part where
  /-- What is assigned. -/
  | value
  /-- What it is assigned to. -/
  | targets
  /-- The condition of a modifier, or the handler of a `rescue`. -/
  | guard
  deriving DecidableEq, Repr

namespace Node

theorem eq_multiAssign {node : Node} (h : node.isMultiAssign = true) :
    ∃ span targets value, node = .multiAssign span targets value := by
  unfold isMultiAssign at h
  split at h
  · exact ⟨_, _, _, rfl⟩
  · cases h

theorem opensHeredoc_of_isModifierBody {source : Source} {parent : Node} {i : Nat}
    (h : parent.isModifierBody i = true) : parent.opensHeredoc source = false := by
  cases parent <;> first | rfl | cases h

theorem opensHeredoc_of_isRescueBody {source : Source} {parent : Node} {i : Nat}
    (h : parent.isRescueBody i = true) : parent.opensHeredoc source = false := by
  cases parent <;> first | rfl | cases h

theorem hasHeredoc_eq (source : Source) (node : Node) :
    node.hasHeredoc source =
      (node.opensHeredoc source || node.children.any (hasHeredoc source)) := by
  rw [hasHeredoc, contains, walk_eq, List.any_cons, List.any_flatMap]
  rfl

end Node

namespace Place

def part (p : Place) : Part → List Node
  | .value =>
    match p.node with
    | .multiAssign _ _ value => [value]
    | _ => []
  | .targets =>
    match p.node with
    | .multiAssign _ targets _ => targets
    | _ => []
  | .guard =>
    match p.above with
    | (parent, i) :: _ =>
      if p.hasModifier || p.hasRescue then parent.children.eraseIdx i else []
    | [] => []

def opensIn (p : Place) (source : Source) (part : Part) : Bool :=
  (p.part part).any (Node.hasHeredoc source)

variable {root : Node} {p : Place} {source : Source}

theorem hasHeredoc_multiAssign (h : p.node.isMultiAssign = true) :
    p.node.hasHeredoc source = (p.opensIn source .targets || p.opensIn source .value) := by
  obtain ⟨span, targets, value, hnode⟩ := Node.eq_multiAssign h
  rw [opensIn, opensIn, part, part, hnode, Node.hasHeredoc_eq, Node.children, List.any_append]
  rfl

/-- **The statement that is replaced opens a here-document in the assignment or in the rest of its
guard.** -/
theorem hasHeredoc_replaced (hp : p ∈ (top root).walk) :
    p.replaced.node.hasHeredoc source =
      (p.node.hasHeredoc source || p.opensIn source .guard) := by
  rcases eq_top_or_mem_children hp with rfl | ⟨parent, _, hparent⟩
  · exact (Bool.or_false _).symm
  · obtain ⟨i, child, hchild, rfl⟩ := mem_children.mp hparent
    by_cases hguard : (parent.node.isModifierBody i || parent.node.isRescueBody i) = true
    · have hopens : parent.node.opensHeredoc source = false := by
        rcases Bool.or_eq_true_iff.mp hguard with h | h
        · exact Node.opensHeredoc_of_isModifierBody h
        · exact Node.opensHeredoc_of_isRescueBody h
      -- the assignment is a child of the guard, and the part `guard` is made of the others
      have hperm : (child :: parent.node.children.eraseIdx i).Perm parent.node.children := by
        obtain ⟨hi, rfl⟩ := List.getElem?_eq_some_iff.mp hchild
        exact List.getElem_cons_eraseIdx_perm hi
      simp only [replaced, opensIn, part, hasModifier, hasRescue, hguard, if_true]
      rw [← List.any_cons, hperm.any_eq]
      exact (Node.hasHeredoc_eq source parent.node).trans (by rw [hopens, Bool.false_or])
    · simp only [replaced, opensIn, part, hasModifier, hasRescue, hguard, Bool.false_eq_true,
        if_false, List.any_nil, Bool.or_false]

end Place

namespace Split

variable {r : Split}

/-- The value is all of the statement that is looked at before it is split. -/
theorem strategy?_eq_some_iff {strategy : Strategy} (h : r.place.node.isMultiAssign = true) :
    r.strategy? = some strategy ↔
      r.place.strategy = strategy ∧ r.place.inStatementList = true ∧
        r.place.opensIn r.source .value = false := by
  obtain ⟨span, targets, value, hnode⟩ := Node.eq_multiAssign h
  have hvalue : r.place.opensIn r.source .value = value.hasHeredoc r.source := by
    rw [Place.opensIn, Place.part, hnode]
    exact Bool.or_false _
  simp only [strategy?, value?, hnode, hvalue, Option.ite_none_right_eq_some, Bool.and_eq_true,
    Bool.not_eq_true', Option.some.injEq]
  exact and_comm

/-- **Which statements with a here-document are split**: those in a list of statements whose value
opens none, so that it is opened in a target or in the guard. -/
theorem splits_heredoc_iff {root : Node} (hplace : r.place ∈ Inspection.assignments root)
    (strategy : Strategy) :
    (r.strategy? = some strategy ∧ r.place.replaced.node.hasHeredoc r.source = true) ↔
      r.place.strategy = strategy ∧ r.place.inStatementList = true ∧
        r.place.opensIn r.source .value = false ∧
        (r.place.opensIn r.source .targets = true ∨ r.place.opensIn r.source .guard = true) := by
  obtain ⟨hwalk, hassign⟩ := List.mem_filter.mp hplace
  rw [strategy?_eq_some_iff hassign, Place.hasHeredoc_replaced hwalk,
    Place.hasHeredoc_multiAssign hassign, Bool.or_eq_true, Bool.or_eq_true]
  constructor
  · rintro ⟨⟨hstrategy, hlist, hvalue⟩, (htargets | hopens) | hguard⟩
    · exact ⟨hstrategy, hlist, hvalue, Or.inl htargets⟩
    · exact absurd hopens (Bool.eq_false_iff.mp hvalue)
    · exact ⟨hstrategy, hlist, hvalue, Or.inr hguard⟩
  · rintro ⟨hstrategy, hlist, hvalue, hopens⟩
    exact ⟨⟨hstrategy, hlist, hvalue⟩, hopens.imp_left Or.inl⟩

/-! ### A here-document in a handler and in a condition -/

def openingAssigned : Node :=
  .multiAssign (some ⟨0, 11⟩)
    [.var (some ⟨0, 1⟩) .localVar "a", .var (some ⟨3, 4⟩) .localVar "b"]
    (.array (some ⟨7, 11⟩)
      [.literal (some ⟨7, 8⟩) .integer "1" [] true,
        .literal (some ⟨10, 11⟩) .integer "2" [] true] false)

def openingPairs : List Pair :=
  [⟨0, .var (some ⟨0, 1⟩) .localVar "a", .literal (some ⟨7, 8⟩) .integer "1" [] true, none⟩,
    ⟨1, .var (some ⟨3, 4⟩) .localVar "b", .literal (some ⟨10, 11⟩) .integer "2" [] true, none⟩]

/-- The text of a here-document, as a parser reads it behind the line that opens it. -/
def heredocBody (start stop : Nat) : Node :=
  .other (some ⟨start, stop⟩) "heredoc_body"
    [.other (some ⟨start, stop - 1⟩) "heredoc_content" [] [],
      .other (some ⟨stop - 1, stop⟩) "heredoc_end" [] []] []

def handlerGuard : Node :=
  .rescueModifier (some ⟨0, 23⟩) openingAssigned (.literal (some ⟨19, 23⟩) .other "<<~X" [] true)

def handlerRoot : Node := .program (some ⟨0, 30⟩) [handlerGuard, heredocBody 23 29]

def handlerSplit : Split where
  source := Source.ofString "a, b = 1, 2 rescue <<~X\n  t\nX\n" "x.rb"
  place := ⟨openingAssigned, [(handlerGuard, 0), (handlerRoot, 0)]⟩
  order := openingPairs
  width := 2

/-- The statement is split although its handler opens a here-document. -/
theorem splits_heredoc_handler :
    Inspection.assignments handlerRoot = [handlerSplit.place] ∧
      handlerSplit.strategy? = some .rescue ∧
      handlerSplit.place.replaced.node.hasHeredoc handlerSplit.source = true := by
  have hplaces : Inspection.assignments handlerRoot = [handlerSplit.place] := by cbv
  have hplace : handlerSplit.place ∈ Inspection.assignments handlerRoot :=
    hplaces ▸ List.mem_singleton_self handlerSplit.place
  have hvalue : handlerSplit.place.opensIn handlerSplit.source .value = false := by decide +kernel
  have hguard : handlerSplit.place.opensIn handlerSplit.source .guard = true := by decide +kernel
  exact ⟨hplaces, (splits_heredoc_iff hplace .rescue).mpr ⟨rfl, rfl, hvalue, Or.inr hguard⟩⟩

/-- The assignment with a condition that is a here-document. -/
def conditionText : Source := Source.ofString "a, b = 1, 2 if <<~X\n  t\nX\n" "x.rb"

def conditionParse : Parse where
  hasErrors := false
  root :=
    .mk ⟨"program", 0, 26, true, none⟩
      [.mk ⟨"if_modifier", 0, 19, true, none⟩
        [.mk ⟨"assignment", 0, 11, true, some "body"⟩
          [.mk ⟨"left_assignment_list", 0, 4, true, some "left"⟩
            [.mk ⟨"identifier", 0, 1, true, none⟩ [], .mk ⟨",", 1, 2, false, none⟩ [],
              .mk ⟨"identifier", 3, 4, true, none⟩ []],
            .mk ⟨"=", 5, 6, false, none⟩ [],
            .mk ⟨"right_assignment_list", 7, 11, true, some "right"⟩
              [.mk ⟨"integer", 7, 8, true, none⟩ [], .mk ⟨",", 8, 9, false, none⟩ [],
                .mk ⟨"integer", 10, 11, true, none⟩ []]],
          .mk ⟨"if", 12, 14, false, none⟩ [],
          .mk ⟨"heredoc_beginning", 15, 19, true, some "condition"⟩ []],
        .mk ⟨"heredoc_body", 19, 25, true, none⟩
          [.mk ⟨"heredoc_content", 19, 24, true, none⟩ [],
            .mk ⟨"heredoc_end", 24, 25, true, none⟩ []]]

def conditionGuard : Node :=
  .conditional (some ⟨0, 19⟩) "if" (.literal (some ⟨15, 19⟩) .other "<<~X" [] true)
    [openingAssigned] none true (some ⟨12, 14⟩)

def conditionRoot : Node := .program (some ⟨0, 26⟩) [conditionGuard, heredocBody 19 25]

def conditionSplit : Split where
  source := conditionText
  place := ⟨openingAssigned, [(conditionGuard, 0), (conditionRoot, 0)]⟩
  order := openingPairs
  width := 2

theorem ofParse_condition :
    SyntaxTree.ofParse conditionText conditionParse =
      .ok ⟨conditionText, conditionRoot, false⟩ := by
  have ha : conditionText.bytesText 0 1 = "a" := by decide +kernel
  have hb : conditionText.bytesText 3 4 = "b" := by decide +kernel
  have hone : conditionText.bytesText 7 8 = "1" := by decide +kernel
  have htwo : conditionText.bytesText 10 11 = "2" := by decide +kernel
  have hopens : conditionText.bytesText 15 19 = "<<~X" := by decide +kernel
  rw [conditionRoot, conditionGuard, openingAssigned, ← ha, ← hb, ← hone, ← htwo, ← hopens]
  rfl

/-- **A statement that opens a here-document is split.**  The line below the one that opens it is
then an assignment, which becomes the text of the here-document. -/
theorem splits_heredoc_condition :
    SyntaxTree.ofParse conditionText conditionParse = .ok ⟨conditionText, conditionRoot, false⟩ ∧
      Inspection.assignments conditionRoot = [conditionSplit.place] ∧
      Inspection.verdict conditionSplit.place = .splittable conditionSplit.order ∧
      conditionSplit.place.replaced.node.hasHeredoc conditionText = true ∧
      conditionSplit.strategy? = some .modifier ∧
      conditionSplit.edit .modifier = .ok ⟨0, 19, "if <<~X\n  a = 1\n  b = 2\nend"⟩ ∧
      Edit.apply conditionText.text [⟨0, 19, "if <<~X\n  a = 1\n  b = 2\nend"⟩] =
        .ok "if <<~X\n  a = 1\n  b = 2\nend\n  t\nX\n" := by
  have hplaces : Inspection.assignments conditionRoot = [conditionSplit.place] := by cbv
  have hverdict :
      Inspection.verdict conditionSplit.place = .splittable conditionSplit.order := by cbv
  have hopens : conditionSplit.place.replaced.node.hasHeredoc conditionText = true := by
    decide +kernel
  have hstrategy : conditionSplit.strategy? = some .modifier := by decide +kernel
  have hedit : conditionSplit.edit .modifier =
      .ok ⟨0, 19, "if <<~X\n  a = 1\n  b = 2\nend"⟩ := rfl
  have happly : Edit.apply conditionText.text [⟨0, 19, "if <<~X\n  a = 1\n  b = 2\nend"⟩] =
      .ok "if <<~X\n  a = 1\n  b = 2\nend\n  t\nX\n" := by decide +kernel
  exact ⟨ofParse_condition, hplaces, hverdict, hopens, hstrategy, hedit, happly⟩

end Split

end MultiAssign
