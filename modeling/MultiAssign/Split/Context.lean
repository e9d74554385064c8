import MultiAssign.Syntax.Walk

/-!
# The context of a statement

How a parallel assignment can be split depends on where it stands: on its own, in front of a
modifier such as `if cond`, or in front of a `rescue`. It can be split at all only if it stands in a
list of statements, since elsewhere its value is used, and if no here-document is opened in the
value, whose text would have to stay on the following lines.
-/

namespace MultiAssign

/-- The ways to split a parallel assignment. -/
inductive Strategy where
  /-- One line for each assignment. -/
  | generic
  /-- A block in place of the modifier. -/
  | modifier
  /-- A `rescue` clause in place of the modifier. -/
  | rescue
  deriving DecidableEq, Repr, Inhabited

namespace Strategy

def all : List Strategy := [generic, modifier, rescue]

def label : Strategy → String
  | generic => "CorrectionStrategy.GENERIC"
  | modifier => "CorrectionStrategy.MODIFIER"
  | rescue => "CorrectionStrategy.RESCUE"

end Strategy

namespace Node

/-- The child with this index is the statement before a modifier. -/
def isModifierBody (i : Nat) : Node → Bool
  | conditional _ _ _ body _ modifier _ => modifier && i < body.length
  | loop _ _ _ body modifier _ => modifier && i < body.length
  | _ => false

/-- The child with this index is the statement before a `rescue`. -/
def isRescueBody (i : Nat) : Node → Bool
  | rescueModifier .. => i == 0
  | _ => false

/-- The kinds without a constructor of their own whose contents are statements. -/
def statementContainers : List String :=
  ["else", "class", "module", "singleton_class", "when", "in", "block", "do_block", "begin_block",
    "end_block"]

/-- The child with this index stands in a list of statements. -/
def isStatement (i : Nat) : Node → Bool
  | program _ body => i < body.length
  | block _ _ body => 1 ≤ i && i < 1 + body.length
  | ensure _ body => i < body.length
  | rescueClause _ exceptions binding body =>
    let before := exceptions.length + binding.toList.length
    before ≤ i && i < before + body.length
  | methodDef _ _ body _ rescues elseBody _ | begin _ body rescues elseBody _ =>
    let before := body.length + rescues.length
    i < body.length || (before ≤ i && i < before + elseBody.length)
  | conditional _ _ _ body _ modifier _ => !modifier && 1 ≤ i && i < 1 + body.length
  | loop _ _ _ body modifier _ => !modifier && 1 ≤ i && i < 1 + body.length
  | other _ kind contents _ => statementContainers.contains kind && i < contents.length
  | _ => false

end Node

namespace Place

def hasModifier (p : Place) : Bool :=
  match p.above with
  | (parent, i) :: _ => parent.isModifierBody i
  | [] => false

def hasRescue (p : Place) : Bool :=
  match p.above with
  | (parent, i) :: _ => parent.isRescueBody i
  | [] => false

/-- The statement stands before a `rescue` that can become a clause: not directly inside an explicit
`begin` or an `ensure` clause. -/
def hasRescueClause (p : Place) : Bool :=
  p.hasRescue &&
    match p.above with
    | _ :: (.begin .., _) :: _ => false
    | _ :: (.ensure .., _) :: _ => false
    | _ => true

/-- The statement that a correction replaces: the assignment, or the whole of it and its modifier.
-/
def replaced (p : Place) : Place :=
  if p.hasModifier || p.hasRescue then p.parent?.getD p else p

/-- What a correction replaces stands in a list of statements. -/
def inStatementList (p : Place) : Bool :=
  match p.replaced.above with
  | (parent, i) :: _ => parent.isStatement i
  | [] => false

def strategy (p : Place) : Strategy :=
  if p.hasModifier then .modifier else if p.hasRescueClause then .rescue else .generic

end Place

namespace Node

/-- The node is a literal that opens a here-document. -/
def opensHeredoc (source : Source) : Node → Bool
  | literal span kind value parts delimited =>
    ['<', '<'].isPrefixOf ((literal span kind value parts delimited).sourceIn source).toList
  | _ => false

def hasHeredoc (source : Source) (value : Node) : Bool := value.contains (opensHeredoc source)

end Node

end MultiAssign
