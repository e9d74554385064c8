import MultiAssign.Command.Word
import MultiAssign.Files.Path

/-!
# What a command line asks for

There is one command, `check`, with options of its own; before it stand the options of the program
as a whole. The words after the command are taken one by one. An option that takes values has those
that follow it directly. The paths stand together, in one place.

A request for help counts as soon as it is met, a mistake too, so the first of them decides. Only
what is left over is found out at the end.
-/

namespace MultiAssign.Command

structure Request where
  paths : List Path
  /-- Write corrected files back. -/
  fix : Bool := false
  /-- Report as JSON. -/
  json : Bool := false
  verbose : Bool := false
  indentationWidth : Option Int := none
  exclude : List String := []
  deriving DecidableEq, Repr, Inhabited

inductive Invocation where
  | help
  | version
  /-- The command line is malformed. -/
  | misuse
  | check (request : Request)
  deriving DecidableEq, Repr, Inhabited

def programOptions : Options := [("-h", .help), ("--help", .help), ("--version", .version)]

def checkOptions : Options :=
  [("-h", .help), ("--help", .help), ("--fix", .fix), ("--json", .json),
    ("--indent-width", .indentWidth), ("--exclude", .exclude), ("--verbose", .verbose)]

/-- What the letters after `-h` ask for. Each of them has to be an option again, and `-h` is the
only one of one letter. -/
def Invocation.ofCluster (letters : String) : Invocation :=
  if letters.toList.all (· == 'h') then .help else .misuse

/-! ### The options of the command -/

/-- What the next value belongs to. -/
inductive Slot where
  | nothing
  /-- To the width, which has to follow. -/
  | width
  | patterns
  | paths
  deriving DecidableEq, Repr

structure Intake where
  request : Request := { paths := [] }
  slot : Slot := .nothing
  /-- There are words that belong to nothing. -/
  leftOver : Bool := false

namespace Intake

/-- The paths can still begin. -/
def isOpen (t : Intake) : Bool := t.request.paths.isEmpty

def setWidth (t : Intake) (text : String) : Except Invocation Intake :=
  match Text.int? text with
  | some n =>
    .ok { t with request := { t.request with indentationWidth := some n }, slot := .nothing }
  | none => .error .misuse

def addPath (t : Intake) (text : String) : Intake :=
  { t with
    request := { t.request with paths := t.request.paths ++ [Path.ofString text] }
    slot := .paths }

/-- A flag without a value. -/
def raise (t : Intake) (attached : Option String) (set : Request → Request) :
    Except Invocation Intake :=
  match attached with
  | none => .ok { t with request := set t.request, slot := .nothing }
  | some _ => .error .misuse

def takeOption (t : Intake) (flag : Flag) (attached : Option String) :
    Except Invocation Intake :=
  match flag with
  | .help => .error (if attached.isNone then .help else .misuse)
  | .version => .error .misuse
  | .fix => t.raise attached fun r => { r with fix := true }
  | .json => t.raise attached fun r => { r with json := true }
  | .verbose => t.raise attached fun r => { r with verbose := true }
  | .indentWidth =>
    match attached with
    | some text => t.setWidth text
    | none => .ok { t with slot := .width }
  | .exclude =>
    match attached with
    | some text =>
      .ok { t with request := { t.request with exclude := [text] }, slot := .nothing }
    | none => .ok { t with request := { t.request with exclude := [] }, slot := .patterns }

def take (t : Intake) (word : Word) : Except Invocation Intake :=
  match word, t.slot with
  | .value text, .width => t.setWidth text
  | _, .width => .error .misuse
  | .value text, .patterns =>
    .ok { t with request := { t.request with exclude := t.request.exclude ++ [text] } }
  | .value text, .paths => .ok (t.addPath text)
  | .value text, .nothing => .ok (if t.isOpen then t.addPath text else { t with leftOver := true })
  | .separator, .paths => .ok t
  | .separator, _ =>
    .ok (if t.isOpen then { t with slot := .nothing } else { t with leftOver := true })
  | .unknown, _ => .ok { t with slot := .nothing, leftOver := true }
  | .option flag attached, _ => t.takeOption flag attached
  | .cluster _ letters, _ => .error (.ofCluster letters)

def takeAll (t : Intake) : List Word → Except Invocation Intake
  | [] => .ok t
  | word :: rest =>
    match t.take word with
    | .ok t => t.takeAll rest
    | .error invocation => .error invocation

def finish (t : Intake) : Invocation :=
  if t.slot = .width || t.isOpen || t.leftOver then .misuse else .check t.request

end Intake

/-- What the words after the command ask for; `leftOver` says that some before it belong to
nothing. -/
def checkInvocation (leftOver : Bool) (arguments : List String) : Invocation :=
  match words checkOptions arguments with
  | none => .misuse
  | some ws =>
    match Intake.takeAll { leftOver } (ws.map (·.2)) with
    | .ok t => t.finish
    | .error invocation => invocation

def programInvocation (leftOver : Bool) : List (String × Word) → Invocation
  | [] => .misuse
  | (text, word) :: rest =>
    match word with
    | .value _ => if text = "check" then checkInvocation leftOver (rest.map (·.1)) else .misuse
    | .separator => .misuse
    | .unknown => programInvocation true rest
    | .option flag none => if flag = .version then .version else .help
    | .option _ (some _) => .misuse
    | .cluster _ letters => .ofCluster letters

def Invocation.ofArguments (arguments : List String) : Invocation :=
  match words programOptions arguments with
  | some ws => programInvocation false ws
  | none => .misuse

end MultiAssign.Command
