import MultiAssign.Text.Source

/-!
# Ruby syntax

The constructs of a Ruby program as far as parallel assignments need to tell them apart; everything
else is `Node.other`. Every node may carry the range of the source it was read from; nodes that are
made up carry none.

`Node.children` lists the direct children in source order, and every traversal goes through it.
`Node.same` compares two nodes by what they say and not by where they stand.
-/

namespace MultiAssign

/-- Where a variable is stored. The sigil is part of the variable's name. -/
inductive VariableKind where
  | localVar
  | instanceVar
  | classVar
  | globalVar
  deriving DecidableEq, Repr, Inhabited

inductive LiteralKind where
  | integer
  | float
  | string
  | symbol
  | nilWord
  | trueWord
  | falseWord
  /-- Regular expressions, characters, here-documents, rationals and the like. -/
  | other
  deriving DecidableEq, Repr, Inhabited

/-- A construct of a Ruby program. -/
inductive Node where
  /-- A whole file. -/
  | program (span : Option Span) (body : List Node)
  /-- A variable that is read or assigned. -/
  | var (span : Option Span) (kind : VariableKind) (name : String)
  /-- A constant that is read or assigned, with the expression before its last `::`. -/
  | const (span : Option Span) (name : String) (scope : Option Node)
  | selfRef (span : Option Span)
  /-- A literal; `parts` is the code interpolated into it, and the elements of word arrays are not
  `delimited`. -/
  | literal (span : Option Span) (kind : LiteralKind) (value : String) (parts : List Node)
      (delimited : Bool)
  /-- An array; the bare list on the right of an assignment is not `bracketed`. -/
  | array (span : Option Span) (elements : List Node) (bracketed : Bool)
  /-- A splatted source or a rest target. -/
  | splat (span : Option Span) (value : Option Node)
  /-- A call without a block. An attribute or index target is the call of its setter. -/
  | send (span : Option Span) (receiver : Option Node) (method : String) (arguments : List Node)
  /-- A call with a literal block. -/
  | block (span : Option Span) (call : Node) (body : List Node)
  /-- A parallel assignment. -/
  | multiAssign (span : Option Span) (targets : List Node) (value : Node)
  | assign (span : Option Span) (target value : Node) (operator : String)
  /-- A parenthesised list of targets among the targets of a parallel assignment. -/
  | nested (span : Option Span) (targets : List Node)
  /-- `if`, `unless` or `elsif`, as a block or, if `modifier`, after the statement it guards. -/
  | conditional (span : Option Span) (keyword : String) (condition : Node) (body : List Node)
      (alternative : Option Node) (modifier : Bool) (keywordSpan : Option Span)
  /-- `while` or `until`, as a block or, if `modifier`, after the statement it repeats. -/
  | loop (span : Option Span) (keyword : String) (condition : Node) (body : List Node)
      (modifier : Bool) (keywordSpan : Option Span)
  /-- `body rescue handler`. -/
  | rescueModifier (span : Option Span) (body handler : Node)
  /-- A `rescue` clause of a block or a method. -/
  | rescueClause (span : Option Span) (exceptions : List Node) (binding : Option Node)
      (body : List Node)
  | ensure (span : Option Span) (body : List Node)
  /-- An explicit `begin` block. -/
  | begin (span : Option Span) (body rescues elseBody : List Node) (ensured : Option Node)
  | methodDef (span : Option Span) (name : String) (body : List Node) (singleton : Bool)
      (rescues elseBody : List Node) (ensured : Option Node)
  /-- Any other construct: its kind, what it contains, and its keywords and operators. -/
  | other (span : Option Span) (kind : String) (contents : List Node) (tokens : List String)
  deriving Inhabited

namespace Node

def span : Node → Option Span
  | program s _ | var s _ _ | const s _ _ | selfRef s | literal s _ _ _ _ | array s _ _
  | splat s _ | send s _ _ _ | block s _ _ | multiAssign s _ _ | assign s _ _ _ | nested s _
  | conditional s _ _ _ _ _ _ | loop s _ _ _ _ _ | rescueModifier s _ _ | rescueClause s _ _ _
  | ensure s _ | begin s _ _ _ _ | methodDef s _ _ _ _ _ _ | other s _ _ _ => s

/-- The same node, read from the range `s`. -/
def located (s : Span) : Node → Node
  | program _ b => program (some s) b
  | var _ k n => var (some s) k n
  | const _ n c => const (some s) n c
  | selfRef _ => selfRef (some s)
  | literal _ k v p d => literal (some s) k v p d
  | array _ es b => array (some s) es b
  | splat _ v => splat (some s) v
  | send _ r m as => send (some s) r m as
  | block _ c b => block (some s) c b
  | multiAssign _ ts v => multiAssign (some s) ts v
  | assign _ t v o => assign (some s) t v o
  | nested _ ts => nested (some s) ts
  | conditional _ k c b a m ks => conditional (some s) k c b a m ks
  | loop _ k c b m ks => loop (some s) k c b m ks
  | rescueModifier _ b h => rescueModifier (some s) b h
  | rescueClause _ es v b => rescueClause (some s) es v b
  | ensure _ b => ensure (some s) b
  | begin _ b rs es en => begin (some s) b rs es en
  | methodDef _ n b sg rs es en => methodDef (some s) n b sg rs es en
  | other _ k c ts => other (some s) k c ts

/-- The direct children in source order. A guard that follows its statement comes after it, and has
no alternative. -/
def children : Node → List Node
  | program _ body => body
  | var .. => []
  | const _ _ scope => scope.toList
  | selfRef _ => []
  | literal _ _ _ parts _ => parts
  | array _ elements _ => elements
  | splat _ value => value.toList
  | send _ receiver _ arguments => receiver.toList ++ arguments
  | block _ call body => call :: body
  | multiAssign _ targets value => targets ++ [value]
  | assign _ target value _ => [target, value]
  | nested _ targets => targets
  | conditional _ _ condition body alternative modifier _ =>
    if modifier then body ++ [condition] else condition :: body ++ alternative.toList
  | loop _ _ condition body modifier _ =>
    if modifier then body ++ [condition] else condition :: body
  | rescueModifier _ body handler => [body, handler]
  | rescueClause _ exceptions binding body => exceptions ++ binding.toList ++ body
  | ensure _ body => body
  | begin _ body rescues elseBody ensured => body ++ rescues ++ elseBody ++ ensured.toList
  | methodDef _ _ body _ rescues elseBody ensured => body ++ rescues ++ elseBody ++ ensured.toList
  | other _ _ contents _ => contents

/-- The text a node was read from, empty for a node that was made up. -/
def sourceIn (source : Source) (node : Node) : String :=
  match node.span with
  | some span => source.textOf span
  | none => ""

/-! ### Comparison -/

mutual

/-- Two nodes say the same, wherever they stand. -/
def same : Node → Node → Bool
  | program _ b, program _ b' => sameList b b'
  | var _ k n, var _ k' n' => k == k' && n == n'
  | const _ n c, const _ n' c' => n == n' && sameOption c c'
  | selfRef _, selfRef _ => true
  | literal _ k v p d, literal _ k' v' p' d' => k == k' && v == v' && sameList p p' && d == d'
  | array _ es b, array _ es' b' => sameList es es' && b == b'
  | splat _ v, splat _ v' => sameOption v v'
  | send _ r m as, send _ r' m' as' => sameOption r r' && m == m' && sameList as as'
  | block _ c b, block _ c' b' => same c c' && sameList b b'
  | multiAssign _ ts v, multiAssign _ ts' v' => sameList ts ts' && same v v'
  | assign _ t v o, assign _ t' v' o' => same t t' && same v v' && o == o'
  | nested _ ts, nested _ ts' => sameList ts ts'
  | conditional _ k c b a m _, conditional _ k' c' b' a' m' _ =>
    k == k' && same c c' && sameList b b' && sameOption a a' && m == m'
  | loop _ k c b m _, loop _ k' c' b' m' _ => k == k' && same c c' && sameList b b' && m == m'
  | rescueModifier _ b h, rescueModifier _ b' h' => same b b' && same h h'
  | rescueClause _ es v b, rescueClause _ es' v' b' =>
    sameList es es' && sameOption v v' && sameList b b'
  | ensure _ b, ensure _ b' => sameList b b'
  | begin _ b rs es en, begin _ b' rs' es' en' =>
    sameList b b' && sameList rs rs' && sameList es es' && sameOption en en'
  | methodDef _ n b sg rs es en, methodDef _ n' b' sg' rs' es' en' =>
    n == n' && sameList b b' && sg == sg' && sameList rs rs' && sameList es es'
      && sameOption en en'
  | other _ k c ts, other _ k' c' ts' => k == k' && sameList c c' && ts == ts'
  | _, _ => false

def sameList : List Node → List Node → Bool
  | [], [] => true
  | n :: ns, n' :: ns' => same n n' && sameList ns ns'
  | _, _ => false

def sameOption : Option Node → Option Node → Bool
  | none, none => true
  | some n, some n' => same n n'
  | _, _ => false

end

/-! ### Setters -/

/-- The methods that end in an equals sign and compare. -/
def comparisons : List String := ["==", "!=", "<=", ">=", "==="]

/-- The method assigns, as `attr=` and `[]=` do. -/
def isSetter (method : String) : Bool :=
  method.toList.getLast? == some '=' && !comparisons.contains method

/-- The reader that belongs to a setter; any other method is its own. -/
def getterName (method : String) : String :=
  if isSetter method then String.ofList method.toList.dropLast else method

/-! ### Kinds of nodes -/

def isMultiAssign : Node → Bool
  | multiAssign .. => true
  | _ => false

def isSplat : Node → Bool
  | splat .. => true
  | _ => false

/-- The method already has clauses that handle its exit. -/
def hasHandlers (rescues elseBody : List Node) (ensured : Option Node) : Bool :=
  !rescues.isEmpty || !elseBody.isEmpty || ensured.isSome

end Node

/-- A parsed file; the parser may have recovered from errors. -/
structure SyntaxTree where
  source : Source
  root : Node
  hasErrors : Bool
  deriving Inhabited

end MultiAssign
