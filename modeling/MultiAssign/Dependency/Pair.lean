import MultiAssign.Dependency.Reads
import MultiAssign.Dependency.Locals
import MultiAssign.Dependency.Order

/-!
# Pairs of targets and sources

A parallel assignment with as many sources as targets is a list of pairs. `readers` lists, for a
pair, the pairs whose source reads what its target writes, and `findOrder` puts the pairs in an
order in which each can be carried out on its own.

A bare name that is no known local variable is a call on `self`. For the analysis it is made
explicit, so that `self.a, self.b = b, a` is seen for the swap it is.
-/

namespace MultiAssign

structure Pair where
  /-- The position among the pairs. -/
  index : Nat
  target : Node
  source : Node
  /-- The source with its call on `self` made explicit, if it is one. -/
  selfCall? : Option Node
  deriving Inhabited

namespace Node

/-- A call on `self` without receiver and arguments, written with its receiver. -/
def selfCall? (locals : List String) : Node → Option Node
  | send _ none method [] => some (send none (some (selfRef none)) method [])
  | var _ .localVar name =>
    if locals.contains name then none else some (send none (some (selfRef none)) name [])
  | _ => none

/-- The source as the analysis sees it. -/
def withSelf (locals : List String) (source : Node) : Node :=
  (source.selfCall? locals).getD source

end Node

namespace Pair

def analyzed (p : Pair) : Node := p.selfCall?.getD p.source

def reads (p writer : Pair) : Bool := p.analyzed.readsTarget writer.target

/-- Numbers the pairs of two lists from `index` on. -/
def zipFrom (locals : List String) (index : Nat) : List Node → List Node → List Pair
  | target :: targets, source :: sources =>
    ⟨index, target, source, source.selfCall? locals⟩ ::
      zipFrom locals (index + 1) targets sources
  | _, _ => []

/-- The pairs of targets and sources; `known` are the local variables assigned before. -/
def ofLists (targets sources : List Node) (known : List String) : Except Failure (List Pair) :=
  if targets.length = sources.length then
    .ok (zipFrom (Node.localNamesList targets ++ known) 0 targets sources)
  else .error (.unpaired targets.length sources.length)

def readersOf (pairs : List Pair) (writer : Pair) : List Nat :=
  (pairs.filter fun p => p.reads writer).map Pair.index

def readers (pairs : List Pair) (index : Nat) : List Nat :=
  match pairs[index]? with
  | some writer => readersOf pairs writer
  | none => []

/-- The pairs in an order in which each source still sees the old values. -/
def order (pairs : List Pair) : Except Failure (List Pair) :=
  (Order.ofReaders pairs.length (readers pairs)).map fun indices =>
    indices.filterMap fun i => pairs[i]?

/-- The order in which targets can be assigned one after the other, if there is one. -/
def findOrder (targets sources : List Node) (known : List String) :
    Except Failure (List Pair) := do
  order (← ofLists targets sources known)

end Pair

end MultiAssign
