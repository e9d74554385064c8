import MultiAssign.Proofs.EditRanges
import MultiAssign.Proofs.Encoding

/-!
# Inspections that do not fail

An inspection can stop for want of a range or of a parent, and edits whose ranges leave the text
cannot be applied.  Neither happens for a tree that was read from an arranged one inside its text
(`Inspection.run_succeeds_of_arranged`): the inspection gives its offenses, the edits lie in the
text, and they can be applied.

A correction may also be refused, as when the keyword of a modifier is not known; the inspection
goes on from there.  So the steps of a correction are shown to be **tame** (`Tame`): they give a
result or a refusal, and nothing else.  They are, because all they ask for are the ranges of nodes
of the tree, and each of these has one, and the parents of places to which their own condition gives
one.  The result of an inspection can then be written down without its failures
(`Inspection.result_run`): one offense for each assignment that breaks the rule, with its correction
if that can be made.
-/

namespace MultiAssign

/-! ### Computations that only refuse -/

/-- The computation gives a result, or a failure that is a refusal. -/
def Tame {α : Type} (x : Except Failure α) : Prop :=
  ∀ failure, x = .error failure → failure.isRefusal = true

namespace Tame

variable {α β : Type} {x : Except Failure α}

theorem ok (a : α) : Tame (.ok a) := nofun

theorem error {failure : Failure} (h : failure.isRefusal = true) :
    Tame (.error failure : Except Failure α) := by
  rintro _ ⟨⟩
  exact h

theorem bind {f : α → Except Failure β} (hx : Tame x) (hf : ∀ a, x = .ok a → Tame (f a)) :
    Tame (x >>= f) := by
  cases x with
  | error failure => exact error (hx failure rfl)
  | ok a => exact hf a rfl

theorem map {f : α → β} (hx : Tame x) : Tame (x.map f) := by
  cases x with
  | error failure => exact error (hx failure rfl)
  | ok a => exact ok (f a)

end Tame

/-! ### Edits inside a text -/

namespace Edit

theorem kept_sublist (cursor : Nat) (edits : List Edit) :
    (sift cursor edits).kept.Sublist edits := by
  induction edits generalizing cursor with
  | nil => exact List.Sublist.refl []
  | cons e rest ih =>
    rw [sift]
    split
    · exact (ih cursor).cons e
    · exact (ih e.stop).cons_cons e

theorem mem_of_mem_select {edits : List Edit} {e : Edit} (h : e ∈ select edits) : e ∈ edits :=
  List.mem_mergeSort.mp ((kept_sublist 0 (sorted edits)).subset h)

/-- What it takes to write the first edit into a text, and what comes of it. -/
theorem splice_cons_eq_ok_iff {text out : List Char} {cursor : Nat} {e : Edit} {rest : List Edit} :
    splice text cursor (e :: rest) = .ok out ↔
      (e.start ≤ e.stop ∧ e.stop ≤ text.length) ∧ ∃ tail, splice text e.stop rest = .ok tail ∧
        (text.take e.start).drop cursor ++ e.replacement.toList ++ tail = out := by
  rw [splice]
  by_cases hrange : e.stop < e.start ∨ text.length < e.stop
  · rw [if_pos hrange]
    exact ⟨nofun, fun ⟨hinside, _⟩ => by omega⟩
  · rw [if_neg hrange]
    cases splice text e.stop rest with
    | error failure => simp
    | ok tail => simp [show e.start ≤ e.stop ∧ e.stop ≤ text.length by omega]

theorem exists_splice {text : List Char} {edits : List Edit}
    (h : ∀ e ∈ edits, e.start ≤ e.stop ∧ e.stop ≤ text.length) (cursor : Nat) :
    ∃ out, splice text cursor edits = .ok out := by
  induction edits generalizing cursor with
  | nil => exact ⟨_, rfl⟩
  | cons e rest ih =>
    obtain ⟨tail, htail⟩ := ih (fun f hf => h f (List.mem_cons_of_mem e hf)) e.stop
    exact ⟨_, splice_cons_eq_ok_iff.mpr ⟨h e List.mem_cons_self, tail, htail, rfl⟩⟩

theorem exists_apply {text : String} {edits : List Edit}
    (h : ∀ e ∈ edits, e.start ≤ e.stop ∧ e.stop ≤ text.toList.length) :
    ∃ out, apply text edits = .ok out := by
  obtain ⟨out, hout⟩ := exists_splice (fun e he => h e (mem_of_mem_select he)) 0
  exact ⟨String.ofList out, by rw [apply, hout]; rfl⟩

end Edit

/-! ### The steps of a correction -/

namespace Place

/-- What stands before a modifier or a `rescue` has a parent. -/
theorem exists_parent_of_strategy {p : Place} (h : p.strategy ≠ .generic) :
    ∃ parent, p.parent? = some parent := by
  cases habove : p.above with
  | nil => simp [strategy, hasModifier, hasRescueClause, hasRescue, habove] at h
  | cons a above => exact ⟨⟨a.1, above⟩, by rw [parent?, habove]⟩

end Place

namespace Split

def Located (root : Node) : Prop := ∀ n ∈ root.walk, ∃ s, n.span = some s

variable {root : Node} {r : Split}

theorem tame_knownSpan (hroot : Located root) {n : Node} (hn : n ∈ root.walk) :
    Tame (knownSpan n) := by
  obtain ⟨s, hs⟩ := hroot n hn
  rw [knownSpan, hs]
  exact .ok s

theorem tame_offset (hroot : Located root) (hplace : r.place ∈ (Place.top root).walk) :
    Tame r.offset :=
  (tame_knownSpan hroot (Place.mem_walk_of_mem_walk hplace).1).map

theorem tame_indentation (hroot : Located root) (hplace : r.place ∈ (Place.top root).walk) :
    Tame r.indentation := (tame_offset hroot hplace).map

theorem tame_genericText (hroot : Located root) (hplace : r.place ∈ (Place.top root).walk) :
    Tame r.genericText := (tame_offset hroot hplace).bind fun _ _ => .ok _

/-- A modifier whose keyword is not known is a refusal. -/
theorem tame_modifierHeader (hroot : Located root) {guard : Node} (hguard : guard ∈ root.walk) :
    Tame (modifierHeader r.source guard) := by
  have hspan := tame_knownSpan hroot hguard
  unfold modifierHeader
  split <;> dsimp only
  · split
    · exact .error rfl
    · exact hspan.bind fun _ _ => .ok _
  · split
    · exact .error rfl
    · exact hspan.bind fun _ _ => .ok _
  · exact .error rfl

theorem tame_guard {parent : Place} (hparent : r.place.parent? = some parent) : Tame r.guard := by
  rw [guard, hparent]
  exact .ok parent

theorem tame_modifierText (hroot : Located root) (hplace : r.place ∈ (Place.top root).walk)
    {parent : Place} (hparent : r.place.parent? = some parent) : Tame r.modifierText := by
  refine (tame_indentation hroot hplace).bind fun _ _ => ?_
  refine (tame_guard hparent).bind fun guard hguard => ?_
  refine (tame_modifierHeader hroot (mem_walk_of_guard hplace hguard)).bind fun _ _ => ?_
  exact (tame_offset hroot hplace).bind fun _ _ => .ok _

theorem tame_explicitBegin (hroot : Located root) (hplace : r.place ∈ (Place.top root).walk)
    (handler : String) : Tame (r.explicitBegin handler) := by
  refine (tame_indentation hroot hplace).bind fun _ _ => ?_
  exact (tame_offset hroot hplace).bind fun _ _ => .ok _

/-- A body that can take a `rescue` clause itself is that of a method of the tree. -/
theorem tame_implicitBegin (hroot : Located root) (hplace : r.place ∈ (Place.top root).walk)
    {guard : Place} (habove : ∀ a ∈ guard.above, a.1 ∈ root.walk)
    (himplicit : usesImplicitBegin guard = true) (handler : String) :
    Tame (r.implicitBegin guard handler) := by
  refine (tame_genericText hroot hplace).bind fun _ _ => ?_
  unfold usesImplicitBegin at himplicit
  cases hpath : guard.above with
  | nil => simp [hpath] at himplicit
  | cons a above =>
    rw [Place.parent?, hpath]
    have hmethod : a.1 ∈ root.walk := habove a (hpath ▸ List.mem_cons_self)
    refine (tame_knownSpan hroot hmethod).map.bind fun _ _ => ?_
    exact (tame_offset hroot hplace).bind fun _ _ => .ok _

theorem tame_rescueText (hroot : Located root) (hplace : r.place ∈ (Place.top root).walk) :
    Tame r.rescueText := by
  unfold rescueText
  split
  · next span body handler above hparent =>
    dsimp only
    split
    · next himplicit =>
      refine tame_implicitBegin hroot hplace ?_ himplicit _
      intro a ha
      have hpath := (Place.mem_walk_of_mem_walk hplace).2
      unfold Place.parent? at hparent
      split at hparent
      · cases hparent
      · next habove =>
        cases hparent
        exact hpath a (habove ▸ List.mem_cons_of_mem _ ha)
    · exact tame_explicitBegin hroot hplace _
  · exact .error rfl

theorem eq_of_strategy? {strategy : Strategy} (h : r.strategy? = some strategy) :
    strategy = r.place.strategy := by
  obtain ⟨_, hstrategy⟩ := Option.ite_none_right_eq_some.mp h
  exact (Option.some.inj hstrategy).symm

/-- **The edit of the strategy that fits the place is tame.** -/
theorem tame_edit (hroot : Located root) (hplace : r.place ∈ (Place.top root).walk) :
    Tame (r.edit r.place.strategy) := by
  have hrange : Tame (r.range r.place.strategy) := by
    cases hstrategy : r.place.strategy with
    | generic => exact tame_knownSpan hroot (Place.mem_walk_of_mem_walk hplace).1
    | modifier | rescue =>
      obtain ⟨parent, hparent⟩ := Place.exists_parent_of_strategy (p := r.place) (by
        rw [hstrategy]
        nofun)
      exact (tame_guard hparent).bind fun guard hguard =>
        tame_knownSpan hroot (mem_walk_of_guard hplace hguard)
  have htext : Tame (r.text r.place.strategy) := by
    cases hstrategy : r.place.strategy with
    | generic => exact tame_genericText hroot hplace
    | modifier =>
      obtain ⟨parent, hparent⟩ := Place.exists_parent_of_strategy (p := r.place) (by
        rw [hstrategy]
        nofun)
      exact tame_modifierText hroot hplace hparent
    | rescue => exact tame_rescueText hroot hplace
  exact hrange.bind fun _ _ => htext.bind fun _ _ => .ok _

end Split

/-! ### The inspection without its failures -/

/-- The range of what stands at a place, the empty one at the start if it is not known. -/
def Place.span (p : Place) : Span := p.node.span.getD ⟨0, 0⟩

def Split.edit? (r : Split) : Option Edit :=
  r.strategy?.bind fun strategy => (r.edit strategy).toOption

namespace Inspection

def breaksRule (place : Place) : Bool := (verdict place).order?.isSome

/-- The assignments of a tree that break the rule, by where they start. -/
def flagged (root : Node) : List Place :=
  ((assignments root).filter breaksRule).mergeSort fun p q => p.span.start ≤ q.span.start

def correction? (i : Inspection) (source : Source) (place : Place) : Option Edit :=
  if place.strategy ∈ i.strategies then
    (verdict place).order?.bind fun order => Split.edit? ⟨source, place, order, i.width⟩
  else none

def offenseAt (source : Source) (place : Place) (correction : Option Edit) : Offense where
  rule := ruleName
  message := ruleMessage
  path := source.name
  line := source.lineOf place.span.start
  column := source.columnOf place.span.start
  start := place.span.start
  stop := place.span.stop
  text := source.textOf place.span
  correction

/-- The offense that an inspection reports at a place. -/
def offense (i : Inspection) (source : Source) (withCorrections : Bool) (place : Place) : Offense :=
  offenseAt source place (if withCorrections then i.correction? source place else none)

variable {root : Node} {place : Place}

/-- **A correction that cannot be made is left out**, and nothing else comes of it. -/
theorem result_correct (i : Inspection) {r : Split} (hroot : Split.Located root)
    (hplace : r.place ∈ (Place.top root).walk) (line : Nat) :
    (i.correct r line).result =
      .ok (if r.place.strategy ∈ i.strategies then r.edit? else none) := by
  unfold correct Split.edit?
  cases hstrategy : r.strategy? with
  | none => rw [Option.bind_none, ite_self]
  | some strategy =>
    obtain rfl := Split.eq_of_strategy? hstrategy
    by_cases hmem : r.place.strategy ∈ i.strategies
    · have htame := Split.tame_edit hroot hplace
      simp only [editWith, List.contains_iff_mem.mpr hmem, if_true, if_pos hmem, Option.bind_some]
      cases hedit : r.edit r.place.strategy with
      | ok edit => rfl
      | error failure =>
        simp only [htame failure hedit, if_true]
        rfl
    · simp only [editWith, List.contains_iff_mem, if_neg hmem]
      rfl

theorem result_check (i : Inspection) (source : Source) (hroot : Split.Located root)
    (hplace : place ∈ (Place.top root).walk) (withCorrections : Bool) :
    (i.check source withCorrections place).result =
      .ok (if breaksRule place then some (i.offense source withCorrections place) else none) := by
  obtain ⟨span, hspan⟩ := hroot place.node (Place.mem_walk_of_mem_walk hplace).1
  unfold check breaksRule
  cases hverdict : verdict place with
  | exempt why => rfl
  | splittable order =>
    simp only [report, hspan]
    cases withCorrections with
    | false => simp [offense, offenseAt, Place.span, hspan, Verdict.order?, Except.map]
    | true =>
      have hcorrect := i.result_correct (r := ⟨source, place, order, i.width⟩) hroot hplace
        (source.lineOf span.start)
      simp [hcorrect, offense, offenseAt, correction?, Place.span, hspan, hverdict, Verdict.order?,
        Except.map]

theorem result_checkAll (i : Inspection) (source : Source) (hroot : Split.Located root)
    (withCorrections : Bool) {places : List Place}
    (hplaces : ∀ p ∈ places, p ∈ (Place.top root).walk) :
    (i.checkAll source withCorrections places).result =
      .ok ((places.filter breaksRule).map (i.offense source withCorrections)) := by
  induction places with
  | nil => rfl
  | cons p rest ih =>
    have hp := i.result_check source hroot (hplaces p List.mem_cons_self) withCorrections
    have hrest := ih fun q hq => hplaces q (List.mem_cons_of_mem p hq)
    simp only [checkAll, hp, hrest, List.filter_cons]
    cases breaksRule p <;> rfl

/-- **The result of an inspection**: one offense for each assignment that breaks the rule. -/
theorem result_run (i : Inspection) (tree : SyntaxTree) (hroot : Split.Located tree.root)
    (withCorrections : Bool) :
    (i.run tree withCorrections).result =
      .ok ((flagged tree.root).map (i.offense tree.source withCorrections)) := by
  have hplaces : ∀ p ∈ assignments tree.root, p ∈ (Place.top tree.root).walk :=
    fun p hp => (List.mem_filter.mp hp).1
  rw [run, i.result_checkAll tree.source hroot withCorrections hplaces, flagged]
  -- an offense starts where its assignment does, so it does not matter which of them are sorted
  refine congrArg Except.ok (Eq.symm ?_)
  exact List.map_mergeSort fun p _ q _ => rfl

theorem exists_run (i : Inspection) (tree : SyntaxTree) (hroot : Split.Located tree.root)
    (withCorrections : Bool) :
    ∃ offenses, (i.run tree withCorrections).result = .ok offenses :=
  ⟨_, i.result_run tree hroot withCorrections⟩

/-- **The inspection of an arranged tree succeeds**, every edit lies inside the text, and the edits
can be applied to it. -/
theorem run_succeeds_of_arranged (i : Inspection) {source : Source} {parse : Parse}
    {tree : SyntaxTree} (harranged : parse.root.Arranged)
    (hstop : parse.root.label.stop ≤ source.bytes.length)
    (htree : SyntaxTree.ofParse source parse = .ok tree) :
    ∃ offenses, (i.run tree true).result = .ok offenses ∧
      (∀ e ∈ Offense.corrections offenses, e.start ≤ e.stop ∧ e.stop ≤ source.chars.length) ∧
      ∃ out, Edit.apply source.text (Offense.corrections offenses) = .ok out := by
  obtain ⟨root, hroot, rfl⟩ := map_eq_ok_iff.mp htree
  have hlaid := Node.laidIn_ofConcrete harranged hroot
  have hlocated : Split.Located root := by
    intro n hn
    rw [← List.flatMap_singleton Node.walk root] at hn
    obtain ⟨s, hs, _⟩ := hlaid.inside n hn
    exact ⟨s, hs⟩
  obtain ⟨offenses, hoffenses⟩ := i.exists_run ⟨source, root, parse.hasErrors⟩ hlocated true
  have hinside : ∀ e ∈ Offense.corrections offenses,
      e.start ≤ e.stop ∧ e.stop ≤ source.chars.length := by
    intro e he
    obtain ⟨n, hn, hspan⟩ := exists_span_of_mem_corrections hoffenses he
    rw [← List.flatMap_singleton Node.walk root] at hn
    obtain ⟨s, hs, _, hle, hle'⟩ := hlaid.inside n hn
    rw [hspan] at hs
    cases hs
    exact ⟨hle, Nat.le_trans hle' (source.charOffset_le_length hstop)⟩
  refine ⟨offenses, hoffenses, hinside, Edit.exists_apply ?_⟩
  rw [Source.text, String.toList_ofList]
  exact hinside

def accented : Source := Source.ofString "a, b = 1, é" "x.rb"

/-- A tree that ends between these two bytes. -/
def cutParse : Parse where
  hasErrors := false
  root :=
    .mk ⟨"program", 0, 12, true, none⟩
      [.mk ⟨"assignment", 0, 11, true, none⟩
        [.mk ⟨"left_assignment_list", 0, 4, true, some "left"⟩
          [.mk ⟨"identifier", 0, 1, true, none⟩ [], .mk ⟨",", 1, 2, false, none⟩ [],
            .mk ⟨"identifier", 3, 4, true, none⟩ []],
          .mk ⟨"=", 5, 6, false, none⟩ [],
          .mk ⟨"right_assignment_list", 7, 11, true, some "right"⟩
            [.mk ⟨"integer", 7, 8, true, none⟩ [], .mk ⟨",", 8, 9, false, none⟩ [],
              .mk ⟨"identifier", 10, 11, true, none⟩ []]]]

def cutTree : SyntaxTree where
  source := accented
  hasErrors := false
  root :=
    .program (some (accented.spanOfBytes 0 12))
      [.multiAssign (some (accented.spanOfBytes 0 11))
        [.var (some (accented.spanOfBytes 0 1)) .localVar (accented.bytesText 0 1),
          .var (some (accented.spanOfBytes 3 4)) .localVar (accented.bytesText 3 4)]
        (.array (some (accented.spanOfBytes 7 11))
          [.literal (some (accented.spanOfBytes 7 8)) .integer (accented.bytesText 7 8) [] true,
            .var (some (accented.spanOfBytes 10 11)) .localVar (accented.bytesText 10 11)] false)]

theorem ofParse_accented : SyntaxTree.ofParse accented cutParse = .ok cutTree := rfl

theorem names_accented :
    accented.bytesText 0 1 = "a" ∧ accented.bytesText 3 4 = "b" ∧
      accented.bytesText 7 8 = "1" ∧ accented.bytesText 10 11 = "\uFFFD" := by
  decide +kernel

theorem ranges_accented :
    accented.spanOfBytes 0 12 = ⟨0, 11⟩ ∧ accented.spanOfBytes 0 11 = ⟨0, 10⟩ ∧
      accented.spanOfBytes 0 1 = ⟨0, 1⟩ ∧ accented.spanOfBytes 3 4 = ⟨3, 4⟩ ∧
      accented.spanOfBytes 7 11 = ⟨7, 10⟩ ∧ accented.spanOfBytes 7 8 = ⟨7, 8⟩ ∧
      accented.spanOfBytes 10 11 = ⟨10, 10⟩ := by
  decide +kernel

theorem corrections_accented :
    (run ⟨2, Strategy.all⟩ cutTree true).result.map Offense.corrections =
      .ok [⟨0, 10, "a = 1\nb = "⟩] := by
  simp only [cutTree, names_accented, ranges_accented]
  cbv

/-- The edit for an assignment that ends inside a character leaves that character alone. -/
theorem run_succeeds_of_arranged_cut :
    cutParse.root.Arranged ∧ cutParse.root.label.stop ≤ accented.bytes.length ∧
    SyntaxTree.ofParse accented cutParse = .ok cutTree ∧
    ∃ offenses, (run ⟨2, Strategy.all⟩ cutTree true).result = .ok offenses ∧
      Offense.corrections offenses = [⟨0, 10, "a = 1\nb = "⟩] ∧ 10 ≤ accented.chars.length ∧
      ∃ out, Edit.apply accented.text (Offense.corrections offenses) = .ok out := by
  have harranged : cutParse.root.Arranged := by decide
  have hstop : cutParse.root.label.stop ≤ accented.bytes.length := by decide
  obtain ⟨offenses, hoffenses, hinside, happly⟩ :=
    run_succeeds_of_arranged ⟨2, Strategy.all⟩ harranged hstop ofParse_accented
  have hcorrections : Offense.corrections offenses = [⟨0, 10, "a = 1\nb = "⟩] := by
    have heq := corrections_accented
    rw [hoffenses] at heq
    exact Except.ok.inj heq
  refine ⟨harranged, hstop, ofParse_accented, offenses, hoffenses, hcorrections, ?_, happly⟩
  exact (hinside _ (hcorrections ▸ List.mem_cons_self)).2

end Inspection

end MultiAssign
