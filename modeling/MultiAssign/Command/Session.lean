import MultiAssign.Command.Request
import MultiAssign.Command.Summary
import MultiAssign.Settings.Load

/-!
# A run of the program

From the words of a command line and the files of the system to everything that the user gets to
see, and the files as they are afterwards. `runCheck` is the command `check` with its settings
known; `run` is the whole program.
-/

namespace MultiAssign

/-- What a run of the program leaves behind. -/
structure Session where
  /-- The files afterwards. -/
  tree : FileTree
  /-- The journal, without the lines for debugging unless they were asked for. -/
  entries : List Entry := []
  tables : List Table := []
  /-- What goes to standard output. -/
  output : String := ""
  /-- The usage of the program is shown. -/
  usage : Bool := false
  /-- The texts that were parsed. -/
  parsed : List String := []
  /-- The exit code, or what ended the run before its time. -/
  exit : Except Failure Nat

namespace Session

def notFound (p : Path) : Entry :=
  .marked .error ("Path not found: " ++ Markup.escape p.text)

def opening (json : Bool) (count : Nat) : List Entry :=
  if json then [] else [.marked .info ("Checking " ++ toString count ++ " file(s)...")]

def conclude (fix json : Bool) (s : Progress) : Session :=
  let exit : Except Failure Nat := .ok (Summary.exitCode fix s.failed s.reports)
  if json then
    { tree := s.tree, entries := s.entries, parsed := s.parsed, exit
      output := Summary.document s.reports }
  else
    { tree := s.tree, parsed := s.parsed, exit
      entries := s.entries ++ Summary.closing fix s.failed s.reports
      tables :=
        if Summary.offenseCount s.reports = 0 then [] else [Summary.table fix s.reports] }

/-- Checks what the paths lead to. If one of them leads nowhere, nothing is checked. -/
def runCheck (linter : Linter) (fix json : Bool) (paths : List Path) (tree : FileTree) : Session :=
  let missing := paths.filter fun p => !tree.has p
  if missing.isEmpty then
    let files := tree.collect paths linter.settings.exclude
    let start : Progress := { tree, entries := opening json files.length }
    let s := Check.files ⟨linter, fix⟩ start files
    match s.stopped with
    | some failure =>
      { tree := s.tree, entries := s.entries, parsed := s.parsed, exit := .error failure }
    | none => conclude fix json s
  else { tree, entries := missing.map notFound, exit := .ok 1 }

/-- Leaves the lines for debugging out. -/
def quiet (s : Session) : Session :=
  { s with entries := s.entries.filter fun e => e.level != .debug }

def ofRequest (v : Validator) (parser : Parser) (r : Command.Request) (tree : FileTree) : Session :=
  let overrides : Overrides :=
    { indentationWidth := r.indentationWidth.map .int, exclude := .list (r.exclude.map .text) }
  match Settings.load v tree ⟨"", []⟩ overrides with
  | .error failure =>
    if failure.isRefusal then
      { tree, entries := [.marked .error (Markup.escape failure.message)], exit := .ok 2 }
    else { tree, exit := .error failure }
  | .ok settings =>
    if settings.enabled then
      let s := runCheck ⟨settings, parser⟩ r.fix r.json r.paths tree
      if r.verbose then s else s.quiet
    else { tree, exit := .ok 0 }

def version : String := "unparallel 0.1.0\n"

def run (v : Validator) (parser : Parser) (arguments : List String) (tree : FileTree) : Session :=
  match Command.Invocation.ofArguments arguments with
  | .help => { tree, usage := true, exit := .ok 0 }
  | .version => { tree, output := version, exit := .ok 0 }
  | .misuse => { tree, usage := true, exit := .ok 2 }
  | .check r => ofRequest v parser r tree

end Session

end MultiAssign
