import MultiAssign.Proofs.MadeNodes
import MultiAssign.Proofs.SoundEdits

/-!
# Corrections have no say in what is reported

An inspection can be asked for corrections or not, and any of the strategies can be switched off.
This file says what that changes (`Inspection.reports_alike`): the offenses are the same, in the
same order, and each of them has the correction it has when all strategies are there, or none if its
own strategy is switched off.

On the way to a correction a keyword can be found missing, or the strategy itself.  These are
refusals, and a refusal costs the offense its correction and nothing else.  No other failure is
possible in a tree that was read, where each node has its range (`SyntaxTree.located_ofParse`); so
the result of an inspection can be written down without failures (`Inspection.result_run`), as one
offense for each assignment that breaks the rule.  The statement is then about each of them alone.
-/

namespace MultiAssign

/-! ### Every node that is read has its range -/

/-- A rule gives a node the range of the concrete node it stands for, and what it makes up on the
way is made up with a range. -/
theorem Reading.Makes.exists_span {source : Source} {label : Label} {children : List Reading}
    {n : Node} (h : Makes source label children n) : ∃ s, n.span = some s := by
  cases h with
  | node | target => exact ⟨_, Node.span_located _ _⟩
  | call | guarded | values => exact ⟨_, rfl⟩

/-- **Every node of a tree that was read has its range**, whatever concrete tree it was read from.
-/
theorem SyntaxTree.located_ofParse {source : Source} {parse : Parse} {tree : SyntaxTree}
    (h : SyntaxTree.ofParse source parse = .ok tree) : Split.Located tree.root := by
  obtain ⟨root, hroot, rfl⟩ := map_eq_ok_iff.mp h
  exact Node.all_ofConcrete hroot fun _ _ _ hmade => hmade.exists_span

/-! ### Flagged assignments -/

def Offense.erased (o : Offense) : Offense := { o with correction := none }

namespace Inspection

variable {root : Node} {place : Place}

theorem span_of_mem_flagged (hroot : Split.Located root) (hplace : place ∈ flagged root) :
    place.node.span = some place.span := by
  have hplace := (List.mem_filter.mp (List.mem_mergeSort.mp hplace)).1
  obtain ⟨span, hspan⟩ := hroot place.node
    (Place.mem_walk_of_mem_walk (List.mem_filter.mp hplace).1).1
  rw [Place.span, hspan]
  rfl

/-! ### Fewer strategies -/

/-- Without some strategies an offense keeps its correction, unless it needs one of them. -/
theorem offense_filter (width : Nat) (removed : List Strategy) (source : Source) (place : Place) :
    offense ⟨width, Strategy.all.filter (· ∉ removed)⟩ source true place =
      if place.strategy ∈ removed then (offense ⟨width, Strategy.all⟩ source true place).erased
      else offense ⟨width, Strategy.all⟩ source true place := by
  have hall : place.strategy ∈ Strategy.all := by
    cases place.strategy <;> decide
  by_cases hremoved : place.strategy ∈ removed
  · simp [offense, offenseAt, correction?, Offense.erased, hremoved]
  · simp [offense, correction?, hall, hremoved]

/-- **Corrections have no say in what is reported.**  With corrections or without, and whichever
strategies are switched off, the offenses of a tree that was read are those of its flagged
assignments, in their order; with corrections, an offense has the one it has under all strategies,
or none if the strategy of its assignment is switched off. -/
theorem reports_alike {source : Source} {parse : Parse} {tree : SyntaxTree}
    (htree : SyntaxTree.ofParse source parse = .ok tree) (width : Nat) (removed : List Strategy) :
    ∃ bare full reduced : List Offense,
      (∀ i : Inspection, (i.run tree false).result = .ok bare) ∧
      (run ⟨width, Strategy.all⟩ tree true).result = .ok full ∧
      (run ⟨width, Strategy.all.filter (· ∉ removed)⟩ tree true).result = .ok reduced ∧
      reduced.map Offense.erased = bare ∧
      (flagged tree.root).map (·.node.span) = full.map (fun o => some ⟨o.start, o.stop⟩) ∧
      reduced = List.zipWith (fun p o => if p.strategy ∈ removed then o.erased else o)
        (flagged tree.root) full := by
  have hroot := SyntaxTree.located_ofParse htree
  refine ⟨(flagged tree.root).map fun p => offenseAt tree.source p none, _, _,
    fun i => i.result_run tree hroot false, result_run _ tree hroot true,
    result_run _ tree hroot true, ?_, ?_, ?_⟩
  · rw [List.map_map]
    rfl
  · rw [List.map_map]
    exact List.map_congr_left fun p hp => span_of_mem_flagged hroot hp
  · rw [List.zipWith_map_right, List.zipWith_self]
    exact List.map_congr_left fun p _ => offense_filter width removed tree.source p

/-- With the clause for a `rescue` switched off, the outer of two assignments is still reported, and
the inner one keeps its correction. -/
theorem reports_alike_handled :
    SyntaxTree.ofParse handled handledParse = .ok handledTree ∧
    ∃ bare full reduced : List Offense,
      (run ⟨2, Strategy.all⟩ handledTree false).result = .ok bare ∧
      (run ⟨2, Strategy.all⟩ handledTree true).result = .ok full ∧
      (run ⟨2, [.generic, .modifier]⟩ handledTree true).result = .ok reduced ∧
      reduced.map Offense.erased = bare ∧
      full.map Offense.isCorrectable = [true, true] ∧
      reduced.map Offense.isCorrectable = [false, true] := by
  obtain ⟨bare, full, reduced, hbare, hfull, hreduced, herased, _, hzip⟩ :=
    reports_alike ofParse_handled 2 [.rescue]
  have hall : (run ⟨2, Strategy.all⟩ handledTree true).result.map (·.map Offense.isCorrectable) =
      .ok [true, true] := by
    simp only [handledTree, names_handled]
    cbv
  rw [hfull] at hall
  have hall : full.map Offense.isCorrectable = [true, true] := Except.ok.inj hall
  have hstrategies : (flagged handledTree.root).map Place.strategy = [.rescue, .generic] := by
    simp only [handledTree, names_handled]
    cbv
  have hsome : reduced.map Offense.isCorrectable =
      List.zipWith (fun strategy c => if strategy ∈ [Strategy.rescue] then false else c)
        ((flagged handledTree.root).map Place.strategy) (full.map Offense.isCorrectable) := by
    rw [hzip, List.map_zipWith, List.zipWith_map]
    congr
    funext p o
    split <;> rfl
  rw [hstrategies, hall] at hsome
  have hfilter : Strategy.all.filter (· ∉ [.rescue]) = [.generic, .modifier] := by decide
  rw [hfilter] at hreduced
  exact ⟨ofParse_handled, bare, full, reduced, hbare _, hfull, hreduced, herased, hall, hsome⟩

end Inspection

end MultiAssign
