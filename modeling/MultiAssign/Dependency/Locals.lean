import MultiAssign.Syntax.Walk

/-!
# Local variables in scope

A bare name on the right of an assignment may be a local variable or a call. It is a local variable
if Ruby has met an assignment to it before, in the same scope. A scope is a method, the body of a
class or module, or the file; what is assigned inside a block is known only inside that block.
-/

namespace MultiAssign

namespace Node

mutual

def localNames : Node → List String
  | var _ .localVar name => [name]
  | nested _ targets => localNamesList targets
  | splat _ (some value) => localNames value
  | _ => []

def localNamesList : List Node → List String
  | [] => []
  | t :: ts => localNames t ++ localNamesList ts

end

def declaredLocals : Node → List String
  | assign _ target _ _ => localNames target
  | multiAssign _ targets _ => localNamesList targets
  | _ => []

def opensScope : Node → Bool
  | program .. => true
  | methodDef .. => true
  | other _ kind _ _ => ["class", "module", "singleton_class"].contains kind
  | _ => false

def isBlock : Node → Bool
  | block .. => true
  | other _ kind _ _ => ["block", "do_block", "lambda"].contains kind
  | _ => false

end Node

namespace Place

/-- The nearest node above that opens a scope, of those on the way up. -/
def nearestScope? : List (Node × Nat) → Option Place
  | [] => none
  | (node, _) :: above => if node.opensScope then some ⟨node, above⟩ else nearestScope? above

def scope? (p : Place) : Option Place := nearestScope? p.above

/-- What happens at `q` is known at a place that starts at `start`: `q` begins before it, opens no
scope of its own, and is no block that the place is outside of. -/
def isKnownAt (p : Place) (start : Nat) (q : Place) : Bool :=
  match q.node.span with
  | none => false
  | some span =>
    span.start < start && !q.node.opensScope && (!q.node.isBlock || q.encloses p)

/-- The children of `q` as far as they are worth looking at. -/
def knownChildren (p : Place) (start : Nat) (q : Place) : List Place :=
  if isKnownAt p start q then q.children else []

theorem total_size_knownChildren_lt (p : Place) (start : Nat) (q : Place) :
    total size (knownChildren p start q) < q.size := by
  unfold knownChildren
  split
  · exact total_size_children_lt q
  · have := total_size_children_lt q
    simp only [total]
    omega

/-- The local variables that are assigned before a place in its scope, possibly with repetitions. -/
def visibleLocals (p : Place) : List String :=
  match p.node.span, p.scope? with
  | some span, some scope =>
    let seen :=
      unstack (knownChildren p span.start) size (total_size_knownChildren_lt p span.start)
        scope.children
    let done := seen.filter fun q =>
      isKnownAt p span.start q && (q.node.span.any fun s => s.stop ≤ span.start)
    done.flatMap fun q => q.node.declaredLocals
  | _, _ => []

end Place

end MultiAssign
