import MultiAssign.Failure
import MultiAssign.Syntax.Construct

/-!
# Reading a concrete tree

A concrete tree is read from the leaves up. A `Reading` keeps what a concrete node amounts to in
each of the roles that its parent may give it: an expression or statement, a target of an
assignment, a contribution to a list of statements, or a carrier of interpolated code. A role in
which a required child is missing holds the failure instead, which comes to light only if the role
is used; of several failures the one met first in the order of reading counts.

Wrappers dissolve into the statements they hold. On the left of an assignment `obj.attr` becomes the
call of `attr=` and `ary[i]` the call of `[]=`. A trailing `rescue` on the right of a parallel
assignment guards the whole assignment.
-/

namespace MultiAssign

/-- A concrete node with the readings of its children and its own. -/
structure Reading where
  label : Label
  children : List Reading
  /-- What the node is as an expression or statement. -/
  node : Except Failure Node
  /-- What the node is as a target. -/
  target : Except Failure Node
  /-- What the node adds to a list of statements. -/
  statements : Except Failure (List Node)
  /-- The code that is interpolated into the node. -/
  parts : Except Failure (List Node)

namespace Reading

/-! ### Selecting children -/

def field? (name : String) (children : List Reading) : Option Reading :=
  children.find? fun r => r.label.field == some name

/-- The children that are no mere tokens. -/
def named (children : List Reading) : List Reading := children.filter fun r => r.label.named

/-- The children that are neither tokens nor comments. -/
def elements (children : List Reading) : List Reading :=
  children.filter fun r => r.label.named && !r.label.isComment

def required (reading : Option Reading) : Except Failure Reading :=
  match reading with
  | some r => .ok r
  | none => .error .absent

/-! ### Reading lists -/

def sequence {α : Type} : List (Except Failure α) → Except Failure (List α)
  | [] => .ok []
  | .error failure :: _ => .error failure
  | .ok a :: rest => (sequence rest).map (a :: ·)

def nodes (readings : List Reading) : Except Failure (List Node) :=
  sequence (readings.map Reading.node)

def targets (readings : List Reading) : Except Failure (List Node) :=
  sequence (readings.map Reading.target)

def statementsOf (readings : List Reading) : Except Failure (List Node) :=
  (sequence (readings.map Reading.statements)).map List.flatten

def node? (reading : Option Reading) : Except Failure (Option Node) :=
  match reading with
  | none => .ok none
  | some r => r.node.map some

def requiredNode (reading : Option Reading) : Except Failure Node :=
  required reading >>= Reading.node

def statementsInside (reading : Option Reading) : Except Failure (List Node) :=
  match reading with
  | none => .ok []
  | some r => statementsOf (named r.children)

/-! ### Rules -/

def textOf (source : Source) (label : Label) : String := source.bytesText label.start label.stop

def spanOf (source : Source) (label : Label) : Span := source.spanOfBytes label.start label.stop

def keywordSpan (source : Source) (keyword : String) (children : List Reading) : Option Span :=
  (children.find? fun r => !r.label.named && r.label.kind == keyword).map
    fun r => spanOf source r.label

/-- The method that a call names; a call that names none calls `call`. -/
def methodName (source : Source) (children : List Reading) : String :=
  match field? "method" children with
  | some r => textOf source r.label
  | none => "call"

def interpolated (children : List Reading) : Except Failure (List Node) :=
  (sequence ((elements children).map fun r =>
    if r.label.isInterpolation then statementsOf (named r.children) else r.parts)).map List.flatten

/-- A body, taken apart into statements and clauses. -/
structure Clauses where
  body : List Node
  rescues : List Node
  elseBody : List Node
  ensured : Option Node

/-- Sorts a body into statements and clauses; of several `ensure` clauses the last counts. -/
def splitClauses : List Node → Clauses
  | [] => ⟨[], [], [], none⟩
  | n :: rest =>
    let c := splitClauses rest
    match n with
    | .rescueClause .. => ⟨c.body, n :: c.rescues, c.elseBody, c.ensured⟩
    | .ensure .. => ⟨c.body, c.rescues, c.elseBody, some (c.ensured.getD n)⟩
    | .other _ kind contents _ =>
      if kind = "else" then ⟨c.body, c.rescues, contents ++ c.elseBody, c.ensured⟩
      else ⟨n :: c.body, c.rescues, c.elseBody, c.ensured⟩
    | _ => ⟨n :: c.body, c.rescues, c.elseBody, c.ensured⟩

def ofScoped (source : Source) (label : Label) (children : List Reading) :
    Except Failure Node := do
  let scope ← node? (field? "scope" children)
  match field? "name" children with
  | none => return .const none (textOf source label) scope
  | some name =>
    if name.label.construct = .constant then
      return .const none (textOf source name.label) scope
    else
      return .send none scope (textOf source name.label) []

/-- The rescue modifier that ends the right side of a parallel assignment. -/
def trailingRescue? (right : Reading) : Option Reading :=
  match right.label.construct with
  | .rescueGuard => some right
  | .array false =>
    match (elements right.children).getLast? with
    | some last => if last.label.construct = .rescueGuard then some last else none
    | none => none
  | _ => none

/-- A parallel assignment with a trailing rescue: the assignment reaches up to the end of the
guarded value, and the rescue guards all of it. -/
def ofGuarded (source : Source) (label : Label) (targets : List Node) (right rescue : Reading) :
    Except Failure Node := do
  let body := field? "body" rescue.children
  if right.label.construct = .rescueGuard then
    let guarded ← required body
    let value ← guarded.node
    let assignment :=
      Node.multiAssign (some (source.spanOfBytes label.start guarded.label.stop)) targets value
    let handler ← requiredNode (field? "handler" rescue.children)
    return .rescueModifier none assignment handler
  else
    let before ← nodes (elements right.children).dropLast
    let guarded ← required body
    let last ← guarded.node
    let value :=
      Node.array (some (source.spanOfBytes right.label.start guarded.label.stop))
        (before ++ [last]) false
    let assignment :=
      Node.multiAssign (some (source.spanOfBytes label.start guarded.label.stop)) targets value
    let handler ← requiredNode (field? "handler" rescue.children)
    return .rescueModifier none assignment handler

def ofAssignment (source : Source) (label : Label) (children : List Reading) :
    Except Failure Node := do
  let left ← required (field? "left" children)
  if left.label.kind = "left_assignment_list" then
    let targets ← targets (elements left.children)
    let right ← required (field? "right" children)
    match trailingRescue? right with
    | none => return .multiAssign none targets (← right.node)
    | some rescue => ofGuarded source label targets right rescue
  else
    let target ← left.target
    let value ← requiredNode (field? "right" children)
    return .assign none target value "="

def ofOperatorAssignment (source : Source) (children : List Reading) : Except Failure Node := do
  let target ← required (field? "left" children) >>= Reading.target
  let value ← requiredNode (field? "right" children)
  let operator := match field? "operator" children with
    | some r => textOf source r.label
    | none => "="
  return .assign none target value operator

def ofCall (source : Source) (label : Label) (children : List Reading) : Except Failure Node := do
  let receiver ← node? (field? "receiver" children)
  let arguments ← match field? "arguments" children with
    | none => pure []
    | some r => nodes (elements r.children)
  let method := methodName source children
  match field? "block" children with
  | none => return .send none receiver method arguments
  | some block =>
    let call := Node.send (some (spanOf source label)) receiver method arguments
    let body := (named block.children).filter fun r => r.label.kind != "block_parameters"
    return .block none call (← statementsOf body)

def ofIndex (method : String) (children : List Reading) : Except Failure Node :=
  match elements children with
  | [] => .error .noElement
  | receiver :: arguments => do
    let receiver ← receiver.node
    return .send none (some receiver) method (← nodes arguments)

def ofMethod (source : Source) (singleton : Bool) (children : List Reading) :
    Except Failure Node := do
  let header :=
    (["name", "parameters", "object"].filterMap fun f => field? f children).map Reading.label
  let rest := (named children).filter fun r => !header.any fun h => h.sameSpot r.label
  let clauses := splitClauses (← statementsOf rest)
  let name := match field? "name" children with
    | some r => textOf source r.label
    | none => ""
  return .methodDef none name clauses.body singleton clauses.rescues clauses.elseBody
    clauses.ensured

def ofRescue (children : List Reading) : Except Failure Node := do
  let exceptions ← match field? "exceptions" children with
    | none => pure []
    | some r => nodes (elements r.children)
  let binding ← match field? "variable" children with
    | none => pure none
    | some r => node? (elements r.children).head?
  return .rescueClause none exceptions binding (← statementsInside (field? "body" children))

/-- What a concrete node is as an expression or statement, before it is given its range. -/
def denoted (source : Source) (label : Label) (children : List Reading) : Except Failure Node :=
  match label.construct with
  | .program => do return .program none (← statementsOf (named children))
  | .selfRef => .ok (.selfRef none)
  | .constant => .ok (.const none (textOf source label) none)
  | .scoped => ofScoped source label children
  | .word kind => do
    return .literal none kind (textOf source label) (← interpolated children) false
  | .array bracketed => do return .array none (← nodes (elements children)) bracketed
  | .splat => do return .splat none (← node? (elements children).head?)
  | .assignment => ofAssignment source label children
  | .operatorAssignment => ofOperatorAssignment source children
  | .call => ofCall source label children
  | .index => ofIndex "[]" children
  | .conditionalGuard keyword => do
    let condition ← requiredNode (field? "condition" children)
    let body ← requiredNode (field? "body" children)
    return .conditional none keyword condition [body] none true
      (keywordSpan source keyword children)
  | .loopGuard keyword => do
    let condition ← requiredNode (field? "condition" children)
    let body ← requiredNode (field? "body" children)
    return .loop none keyword condition [body] true (keywordSpan source keyword children)
  | .conditional keyword => do
    let condition ← requiredNode (field? "condition" children)
    let body ← statementsInside (field? "consequence" children)
    let alternative ← node? (field? "alternative" children)
    return .conditional none keyword condition body alternative false
      (keywordSpan source keyword children)
  | .loop keyword => do
    let condition ← requiredNode (field? "condition" children)
    let body ← statementsInside (field? "body" children)
    return .loop none keyword condition body false (keywordSpan source keyword children)
  | .rescueGuard => do
    let body ← requiredNode (field? "body" children)
    return .rescueModifier none body (← requiredNode (field? "handler" children))
  | .begin => do
    let clauses := splitClauses (← statementsOf (named children))
    return .begin none clauses.body clauses.rescues clauses.elseBody clauses.ensured
  | .method singleton => ofMethod source singleton children
  | .rescue => ofRescue children
  | .ensure => do return .ensure none (← statementsOf (named children))
  | .variable kind => .ok (.var none kind (textOf source label))
  | .literal kind => do
    return .literal none kind (textOf source label) (← interpolated children) true
  | .other => do
    let tokens := (children.filter fun r => !r.label.named).map fun r => textOf source r.label
    return .other none label.kind (← statementsOf (named children)) tokens

/-- What a concrete node is as a target, where that differs from what it is as an expression. -/
def denotedTarget? (source : Source) (label : Label) (children : List Reading) :
    Option (Except Failure Node) :=
  match label.kind with
  | "call" => some do
    let receiver ← node? (field? "receiver" children)
    return .send none receiver (methodName source children ++ "=") []
  | "element_reference" => some (ofIndex "[]=" children)
  | "rest_assignment" => some do
    match elements children with
    | [] => return .splat none none
    | r :: _ => return .splat none (some (← r.target))
  | "destructured_left_assignment" => some do
    return .nested none (← targets (elements children))
  | _ => none

/-- The reading of a concrete node from the readings of its children. -/
def assemble (source : Source) (label : Label) (children : List Reading) : Reading :=
  let located := fun (node : Node) => node.located (spanOf source label)
  let node := (denoted source label children).map located
  { label, children, node
    target := match denotedTarget? source label children with
      | some target => target.map located
      | none => node
    statements :=
      if label.isComment then .ok []
      else if label.isWrapper then statementsOf (named children)
      else node.map fun n => [n]
    parts := interpolated children }

mutual

def ofConcrete (source : Source) : Concrete → Reading
  | .mk label children => assemble source label (ofConcreteList source children)

def ofConcreteList (source : Source) : List Concrete → List Reading
  | [] => []
  | c :: cs => ofConcrete source c :: ofConcreteList source cs

end

theorem ofConcreteList_eq_map {source : Source} (trees : List Concrete) :
    ofConcreteList source trees = trees.map (ofConcrete source) := by
  induction trees with
  | nil => rfl
  | cons c cs ih => rw [ofConcreteList, ih, List.map_cons]

end Reading

/-- The Ruby program that a concrete tree of a text stands for. -/
def Node.ofConcrete (source : Source) (tree : Concrete) : Except Failure Node :=
  (Reading.ofConcrete source tree).node

def SyntaxTree.ofParse (source : Source) (parse : Parse) : Except Failure SyntaxTree :=
  (Node.ofConcrete source parse.root).map fun root => ⟨source, root, parse.hasErrors⟩

end MultiAssign
