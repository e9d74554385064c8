import MultiAssign.Syntax.Walk

/-!
# Which targets an expression reads

An expression reads a target if it would see another value once the target is overwritten. For a
variable or a constant that is a read of its name anywhere in the expression, where a constant
counts by its last segment whatever stands before it. For a setter it is a call of the matching
getter on the same receiver, and for `[]=` also with the same index. A list of targets or a rest
target is read if anything it writes is.
-/

namespace MultiAssign

namespace Node

def assignedName? : Node → Option String
  | var _ _ name => some name
  | const _ name _ => some name
  | _ => none

def readsName (node : Node) (name : String) : Bool :=
  node.contains fun n => n.assignedName? == some name

/-- The arguments of every call of `method` on `receiver` in the subtree. -/
def matchingCalls (node : Node) (receiver : Option Node) (method : String) : List (List Node) :=
  node.walk.filterMap fun
    | send _ r m arguments =>
      if m == method && sameOption r receiver then some arguments else none
    | _ => none

/-- The expression reads what a call of the setter `method` writes. -/
def accesses (source : Node) (receiver : Option Node) (method : String) (arguments : List Node) :
    Bool :=
  if method = "[]=" then
    (source.matchingCalls receiver "[]").any fun found => sameList found arguments
  else !(source.matchingCalls receiver (getterName method)).isEmpty

mutual

/-- The expression depends on the value that the target had before. -/
def readsTarget (source : Node) : Node → Bool
  | var _ _ name => source.readsName name
  | const _ name _ => source.readsName name
  | send _ receiver method arguments =>
    isSetter method && source.accesses receiver method arguments
  | nested _ targets => readsAny source targets
  | splat _ (some value) => readsTarget source value
  | _ => false

def readsAny (source : Node) : List Node → Bool
  | [] => false
  | t :: ts => readsTarget source t || readsAny source ts

end

end Node

end MultiAssign
