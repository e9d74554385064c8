/-!
# Concrete syntax trees

What a Ruby parser delivers: every token and every construct of the text, each with its kind, its
range in bytes and, where the grammar names it, the field it fills in its parent. `Construct` sorts
the kinds of nodes by how they are read.
-/

namespace MultiAssign

/-- What is known of a concrete node without its children. Tokens such as keywords and operators are
not `named`. -/
structure Label where
  kind : String
  start : Nat
  stop : Nat
  named : Bool
  field : Option String
  deriving DecidableEq, Repr, Inhabited

inductive Concrete where
  | mk (label : Label) (children : List Concrete)
  deriving Inhabited

/-- A concrete tree of a whole file, with the parser's word on whether the file has errors. -/
structure Parse where
  root : Concrete
  hasErrors : Bool
  deriving Inhabited

end MultiAssign
