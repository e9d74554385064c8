import MultiAssign.Syntax.Node
import MultiAssign.Syntax.Concrete

/-!
# Kinds of concrete nodes

`Construct` sorts the kinds of concrete nodes by how they are read; kinds that need no rule of their
own are all `Construct.other`. A few kinds matter only in special positions: comments are nothing,
wrappers stand for the statements inside them, and interpolations carry code inside literals.
-/

namespace MultiAssign

/-- How a kind of concrete node is read. -/
inductive Construct where
  | program
  | selfRef
  | constant
  | scoped
  | word (kind : LiteralKind)
  | array (bracketed : Bool)
  | splat
  | assignment
  | operatorAssignment
  | call
  | index
  | conditionalGuard (keyword : String)
  | loopGuard (keyword : String)
  | conditional (keyword : String)
  | loop (keyword : String)
  | rescueGuard
  | begin
  | method (singleton : Bool)
  | rescue
  | ensure
  | variable (kind : VariableKind)
  | literal (kind : LiteralKind)
  | other
  deriving DecidableEq, Repr, Inhabited

def Construct.ofKind (kind : String) : Construct :=
  match kind with
  | "program" => .program
  | "self" => .selfRef
  | "constant" => .constant
  | "scope_resolution" => .scoped
  | "bare_string" => .word .string
  | "bare_symbol" => .word .symbol
  | "array" | "string_array" | "symbol_array" => .array true
  | "right_assignment_list" => .array false
  | "splat_argument" => .splat
  | "assignment" => .assignment
  | "operator_assignment" => .operatorAssignment
  | "call" => .call
  | "element_reference" => .index
  | "if_modifier" => .conditionalGuard "if"
  | "unless_modifier" => .conditionalGuard "unless"
  | "while_modifier" => .loopGuard "while"
  | "until_modifier" => .loopGuard "until"
  | "if" => .conditional "if"
  | "unless" => .conditional "unless"
  | "elsif" => .conditional "elsif"
  | "while" => .loop "while"
  | "until" => .loop "until"
  | "rescue_modifier" => .rescueGuard
  | "begin" => .begin
  | "method" => .method false
  | "singleton_method" => .method true
  | "rescue" => .rescue
  | "ensure" => .ensure
  | "identifier" => .variable .localVar
  | "instance_variable" => .variable .instanceVar
  | "class_variable" => .variable .classVar
  | "global_variable" => .variable .globalVar
  | "integer" => .literal .integer
  | "float" => .literal .float
  | "nil" => .literal .nilWord
  | "true" => .literal .trueWord
  | "false" => .literal .falseWord
  | "string" | "chained_string" => .literal .string
  | "simple_symbol" | "delimited_symbol" | "hash_key_symbol" => .literal .symbol
  | "complex" | "rational" | "character" | "regex" | "subshell" | "heredoc_beginning" =>
    .literal .other
  | _ => .other

namespace Label

def construct (label : Label) : Construct := Construct.ofKind label.kind

def isComment (label : Label) : Bool := label.kind == "comment"

def isWrapper (label : Label) : Bool :=
  ["body_statement", "block_body", "then", "do"].contains label.kind

def isInterpolation (label : Label) : Bool := label.kind == "interpolation"

/-- Two labels of the same kind and range, as two children of one node never are. -/
def sameSpot (a b : Label) : Bool := a.start == b.start && a.stop == b.stop && a.kind == b.kind

end Label

end MultiAssign
