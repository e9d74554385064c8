import MultiAssign.Files.Collect
import MultiAssign.Lint
import MultiAssign.Text.Newline

/-!
# Checking files

A check lints files one after the other. With `fix`, a file is written back when its text was
corrected without a mistake and differs from what was read. A file that cannot be opened, that is no
text or that cannot be linted is noted, and the check goes on.

The check of one file, `Check.file`, takes the state that the files before it left and gives the
next one; `Check.files` strings these steps together. A failure inside the linter, which no text
should bring about, stops the check where it stands.
-/

namespace MultiAssign

structure Check where
  linter : Linter
  /-- Write corrected texts back. -/
  fix : Bool

/-- The state of a check between two files. -/
structure Progress where
  tree : FileTree
  entries : List Entry := []
  /-- The texts that were parsed. -/
  parsed : List String := []
  /-- What was reported of the files that could be read. -/
  reports : List (Path × Report) := []
  /-- A file could not be read or not be linted. -/
  failed : Bool := false
  /-- What stopped the check. -/
  stopped : Option Failure := none

def textOfBytes (bytes : List UInt8) : Except Utf8.Fault String :=
  match Utf8.decode bytes with
  | .ok cs => .ok (String.ofList (Text.newlines cs))
  | .error fault => .error fault

inductive ReadFault where
  | refused (refusal : Refusal)
  | undecodable (fault : Utf8.Fault)
  deriving DecidableEq, Repr

def ReadFault.message (path : Path) : ReadFault → String
  | .refused refusal => refusal.message path
  | .undecodable fault => fault.message

def FileTree.readText (t : FileTree) (p : Path) : Except ReadFault String :=
  match t.bytes p with
  | .error refusal => .error (.refused refusal)
  | .ok bytes =>
    match textOfBytes bytes with
    | .error fault => .error (.undecodable fault)
    | .ok text => .ok text

def FileTree.writeText (t : FileTree) (p : Path) (text : String) : FileTree :=
  t.write p (Utf8.encode text.toList)

namespace Check

def unreadable (path : Path) (fault : ReadFault) : Entry :=
  .marked .error
    ("Cannot read " ++ Markup.escape path.text ++ ": " ++ Markup.escape (fault.message path))

def errorEntries (r : Report) : List Entry :=
  if r.success then [] else r.errors.map fun e => .marked .error (Markup.escape e)

def writesBack (c : Check) (text : String) (r : Report) : Bool :=
  c.fix && r.success && r.code != text

def lintText (c : Check) (s : Progress) (path : Path) (text : String) : Progress :=
  let run := c.linter.run text c.fix path.text s.parsed.length
  let parsed := s.parsed ++ run.parsed
  match run.result with
  | .error failure =>
    { s with entries := s.entries ++ run.entries, parsed, stopped := some failure }
  | .ok report =>
    { tree := if c.writesBack text report then s.tree.writeText path report.code else s.tree
      entries := s.entries ++ run.entries ++ errorEntries report
      parsed
      reports := s.reports ++ [(path, report)]
      failed := s.failed || !report.success }

def file (c : Check) (s : Progress) (path : Path) : Progress :=
  match s.tree.readText path with
  | .error fault => { s with entries := s.entries ++ [unreadable path fault], failed := true }
  | .ok text => c.lintText s path text

/-- Checks files in their order, unless something stops the check. -/
def files (c : Check) (s : Progress) : List Path → Progress
  | [] => s
  | path :: rest =>
    let s := c.file s path
    if s.stopped.isSome then s else c.files s rest

end Check

end MultiAssign
