import MultiAssign.Edit
import MultiAssign.Dependency.Pair
import MultiAssign.Split.Word
import MultiAssign.Split.Context

/-!
# The text of a split assignment

An assignment that was split is laid out by the column it starts in: the lines that follow the first
one are indented up to that column, and what is nested in a block one step further. Which text is
replaced, and what surrounds the lines, depends on the strategy.
-/

namespace MultiAssign

/-- A parallel assignment at its place, with the order in which it is to be carried out. -/
structure Split where
  source : Source
  place : Place
  order : List Pair
  /-- Spaces for one step of nesting. -/
  width : Nat

/-- The text of an element of a word array on its own. `opening` is how the array starts, such as
`%w(`, and is empty outside of such arrays. -/
def Word.standalone (opening element : List Char) (isSymbol hasParts : Bool) : List Char :=
  let colon := if isSymbol then [':'] else []
  let interprets := opening[1]? == some 'W' || opening[1]? == some 'I'
  if hasParts || (interprets && (element.contains '\\' || element.contains '#')) then
    colon ++ doubleQuoted element
  else
    let value := unescape opening[2]? element
    if isSymbol && isPlainSymbol value then ':' :: value
    else colon ++ singleQuoted value

namespace Node

/-- How a word array starts; empty for every other node. -/
def wordOpening (source : Source) : Node → List Char
  | array span elements bracketed =>
    let text := ((array span elements bracketed).sourceIn source).toList
    if text.head? == some '%' then text.take 3 else []
  | _ => []

/-- The text of a source element as an expression of its own, in an array that starts with
`opening`. -/
def standalone (source : Source) (opening : List Char) (element : Node) : String :=
  match element with
  | literal _ kind _ parts false =>
    String.ofList (Word.standalone opening (element.sourceIn source).toList (kind == .symbol)
      !parts.isEmpty)
  | _ => element.sourceIn source

end Node

namespace Split

def value? (r : Split) : Option Node :=
  match r.place.node with
  | .multiAssign _ _ value => some value
  | _ => none

/-- How the word array on the right starts, if there is one. -/
def opening (r : Split) : List Char :=
  match r.value? with
  | some value => value.wordOpening r.source
  | none => []

/-- One assignment for each pair, in order. -/
def lines (r : Split) : List String :=
  r.order.map fun p =>
    p.target.sourceIn r.source ++ " = " ++ p.source.standalone r.source r.opening

def spaces (n : Nat) : String := String.ofList (List.replicate n ' ')

def knownSpan (node : Node) : Except Failure Span :=
  match node.span with
  | some span => .ok span
  | none => .error .absent

/-- Blanks up to the column in which a node starts. -/
def columnOf (source : Source) (node : Node) : Except Failure String :=
  (knownSpan node).map fun span => spaces (source.columnOf span.start)

def offset (r : Split) : Except Failure String := columnOf r.source r.place.node

/-- The indentation of what is nested one step below the assignment. -/
def indentation (r : Split) : Except Failure String :=
  r.offset.map fun offset => offset ++ spaces r.width

/-- The lines one below the other, all but the first indented. -/
def stacked (indentation : String) (lines : List String) : String :=
  ("\n" ++ indentation).intercalate lines

def guard (r : Split) : Except Failure Place :=
  match r.place.parent? with
  | some parent => .ok parent
  | none => .error .absent

/-! ### The three strategies -/

def genericText (r : Split) : Except Failure String := do
  return stacked (← r.offset) r.lines

/-- The modifier itself, from its keyword to the end of the statement. -/
def modifierHeader (source : Source) (guard : Node) : Except Failure String :=
  let header (keyword : Option Span) : Except Failure String :=
    match keyword with
    | none => .error (.noKeyword (guard.sourceIn source))
    | some keyword => do
      let span ← knownSpan guard
      return source.textOf ⟨keyword.start, span.stop⟩
  match guard with
  | .conditional _ _ _ _ _ _ keyword => header keyword
  | .loop _ _ _ _ _ keyword => header keyword
  | _ => header none

def modifierText (r : Split) : Except Failure String := do
  let indentation ← r.indentation
  let header ← modifierHeader r.source (← r.guard).node
  return header ++ "\n" ++ indentation ++ stacked indentation r.lines ++ "\n"
    ++ (← r.offset) ++ "end"

/-- The rescue modifier at this place is all there is to the body of a method without clauses, which
can then take a `rescue` clause itself. -/
def usesImplicitBegin (guard : Place) : Bool :=
  match guard.above with
  | (.methodDef _ _ body _ rescues elseBody ensured, i) :: _ =>
    body.length == 1 && i == 0 && !Node.hasHandlers rescues elseBody ensured
  | _ => false

/-- The lines in a `begin` block with a `rescue` clause. -/
def explicitBegin (r : Split) (handler : String) : Except Failure String := do
  let indentation ← r.indentation
  let offset ← r.offset
  return "begin\n" ++ indentation ++ stacked indentation r.lines ++ "\n" ++ offset
    ++ "rescue\n" ++ indentation ++ handler ++ "\n" ++ offset ++ "end"

/-- The lines as the body of a method, with a `rescue` clause of the method. -/
def implicitBegin (r : Split) (guard : Place) (handler : String) : Except Failure String := do
  let lines ← r.genericText
  match guard.parent? with
  | none => .error .absent
  | some method =>
    let methodOffset ← columnOf r.source method.node
    return lines ++ "\n" ++ methodOffset ++ "rescue\n" ++ (← r.offset) ++ handler

def rescueText (r : Split) : Except Failure String :=
  match r.place.parent? with
  | some ⟨.rescueModifier span body handler, above⟩ =>
    let guard : Place := ⟨.rescueModifier span body handler, above⟩
    let handler := handler.sourceIn r.source
    if usesImplicitBegin guard then r.implicitBegin guard handler else r.explicitBegin handler
  | _ => .error (.noRescue (r.place.node.sourceIn r.source))

def text (r : Split) : Strategy → Except Failure String
  | .generic => r.genericText
  | .modifier => r.modifierText
  | .rescue => r.rescueText

def range (r : Split) : Strategy → Except Failure Span
  | .generic => knownSpan r.place.node
  | .modifier | .rescue => do knownSpan (← r.guard).node

def edit (r : Split) (strategy : Strategy) : Except Failure Edit := do
  let span ← r.range strategy
  return ⟨span.start, span.stop, ← r.text strategy⟩

def strategy? (r : Split) : Option Strategy :=
  let heredoc := match r.value? with
    | some value => value.hasHeredoc r.source
    | none => false
  if r.place.inStatementList && !heredoc then some r.place.strategy else none

end Split

end MultiAssign
