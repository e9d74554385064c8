import MultiAssign.Verdict
import MultiAssign.Offense
import MultiAssign.Split.Layout

/-!
# Inspecting a syntax tree

The rule: a parallel assignment that can be written as a sequence of assignments should be. An
inspection visits every parallel assignment of a tree and reports those, in the order in which they
start. If corrections are wanted, each report carries its edit, unless the statement cannot be split
where it stands. A strategy can be switched off; statements that would need it are then reported
without an edit, and a warning says so.
-/

namespace MultiAssign

structure Inspection where
  /-- Spaces for one step of nesting in corrections. -/
  width : Nat
  /-- The strategies that may be used. -/
  strategies : List Strategy := Strategy.all

/-- A result with the lines that were added to the journal on the way to it. A failure keeps the
lines up to it. -/
structure Noted (α : Type) where
  entries : List Entry
  result : Except Failure α

namespace Inspection

def ruleName : String := "Style/ParallelAssignment"

def ruleMessage : String := "Do not use parallel assignment."

def editWith (i : Inspection) (r : Split) (strategy : Strategy) : Except Failure Edit :=
  if i.strategies.contains strategy then r.edit strategy
  else .error (.unregistered strategy.label)

/-- The correction of an assignment that starts in `line`. -/
def correct (i : Inspection) (r : Split) (line : Nat) : Noted (Option Edit) :=
  match r.strategy? with
  | none =>
    ⟨[.debug ("No safe rewrite for: " ++ r.place.node.sourceIn r.source)], .ok none⟩
  | some strategy =>
    match i.editWith r strategy with
    | .ok edit => ⟨[], .ok (some edit)⟩
    | .error failure =>
      if failure.isRefusal then
        let message := "Cannot autocorrect " ++ ruleName ++ " at line " ++ toString line ++ ": "
          ++ Markup.escape failure.message
        ⟨[.marked .warning message], .ok none⟩
      else ⟨[], .error failure⟩

def report (i : Inspection) (source : Source) (place : Place) (order : List Pair)
    (withCorrections : Bool) : Noted Offense :=
  match place.node.span with
  | none => ⟨[], .error .absent⟩
  | some span =>
    let line := source.lineOf span.start
    let offense : Offense :=
      { rule := ruleName
        message := ruleMessage
        path := source.name
        line
        column := source.columnOf span.start
        start := span.start
        stop := span.stop
        text := source.textOf span
        correction := none }
    if withCorrections then
      let corrected := i.correct ⟨source, place, order, i.width⟩ line
      ⟨corrected.entries, corrected.result.map fun edit => { offense with correction := edit }⟩
    else ⟨[], .ok offense⟩

def verdict (place : Place) : Verdict :=
  match place.node with
  | .multiAssign _ targets value => classify targets value place.visibleLocals
  | _ => .exempt .targets

/-- The report on a parallel assignment, if it breaks the rule. -/
def check (i : Inspection) (source : Source) (withCorrections : Bool) (place : Place) :
    Noted (Option Offense) :=
  match verdict place with
  | .exempt why =>
    ⟨(Verdict.exempt why).entries (place.node.sourceIn source), .ok none⟩
  | .splittable order =>
    let reported := i.report source place order withCorrections
    ⟨reported.entries, reported.result.map some⟩

def checkAll (i : Inspection) (source : Source) (withCorrections : Bool) :
    List Place → Noted (List Offense)
  | [] => ⟨[], .ok []⟩
  | p :: rest =>
    let first := i.check source withCorrections p
    match first.result with
    | .error failure => ⟨first.entries, .error failure⟩
    | .ok offense =>
      let others := i.checkAll source withCorrections rest
      ⟨first.entries ++ others.entries, others.result.map fun os => offense.toList ++ os⟩

def assignments (root : Node) : List Place :=
  (Place.top root).walk.filter fun p => p.node.isMultiAssign

/-- The offenses of a tree by where they start. -/
def run (i : Inspection) (tree : SyntaxTree) (withCorrections : Bool) : Noted (List Offense) :=
  let checked := i.checkAll tree.source withCorrections (assignments tree.root)
  ⟨checked.entries,
    checked.result.map fun offenses => offenses.mergeSort fun a b => a.start ≤ b.start⟩

end Inspection

end MultiAssign
