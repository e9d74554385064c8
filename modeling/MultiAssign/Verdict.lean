import MultiAssign.Dependency.Pair
import MultiAssign.Journal

/-!
# Verdicts on parallel assignments

A parallel assignment is left alone if it needs to be parallel or if its parts cannot be told apart:
a single target or a rest target, a source that is no array literal or has a splat, a different
number of targets and sources, or assignments that depend on each other in a circle. Every other one
can be carried out as a sequence of single assignments, and `classify` finds their order.
-/

namespace MultiAssign

/-- Why a parallel assignment is left alone. -/
inductive Exemption where
  /-- There is a single target, or one takes the rest. -/
  | targets
  /-- The source is no literal list of values. -/
  | source
  /-- There are not as many sources as targets. -/
  | arity
  /-- One of these assignments needs the old value of what the other writes, and the other way
  round, through others if need be. -/
  | circle (reader writer : Nat)
  deriving DecidableEq, Repr

inductive Verdict where
  | exempt (why : Exemption)
  /-- The assignments can be carried out one by one in this order. -/
  | splittable (order : List Pair)

namespace Node

/-- The sources of a parallel assignment; anything but an array counts as one. -/
def sourceElements : Node → List Node
  | array _ elements _ => elements
  | value => [value]

/-- The targets are of a form that the rule leaves alone. -/
def exemptTargets (targets : List Node) : Bool := targets.length == 1 || targets.any isSplat

def isCall : Node → Bool
  | send .. => true
  | block .. => true
  | _ => false

def exemptValue (value : Node) : Bool :=
  value.isCall || match value with
    | array _ elements _ => elements.any isSplat
    | _ => true

end Node

def Verdict.ofFailure : Failure → Verdict
  | .cyclic reader writer => .exempt (.circle reader writer)
  | _ => .exempt .arity

def Verdict.ofOrder (targets : List Node) (value : Node) (known : List String) : Verdict :=
  match Pair.findOrder targets value.sourceElements known with
  | .ok order => .splittable order
  | .error failure => .ofFailure failure

/-- The verdict on an assignment of `value` to `targets`, where the local variables in `known` are
assigned before. -/
def classify (targets : List Node) (value : Node) (known : List String) : Verdict :=
  if Node.exemptTargets targets then .exempt .targets
  else if value.exemptValue then .exempt .source
  else Verdict.ofOrder targets value known

namespace Verdict

def order? : Verdict → Option (List Pair)
  | exempt _ => none
  | splittable order => some order

def searchEntries : Verdict → List Entry
  | exempt (.circle reader writer) =>
    [.debug ("No sequential order: " ++ (Failure.cyclic reader writer).message)]
  | _ => []

def entries (text : String) : Verdict → List Entry
  | exempt .targets => [.debug ("Exempt (single or splatted target): " ++ text)]
  | exempt .source => [.debug ("Exempt (opaque source): " ++ text)]
  | exempt .arity => [.debug ("Exempt (arity mismatch or cyclic dependency): " ++ text)]
  | exempt (.circle reader writer) =>
    searchEntries (exempt (.circle reader writer)) ++
      [.debug ("Exempt (arity mismatch or cyclic dependency): " ++ text)]
  | splittable _ => []

end Verdict

end MultiAssign
