import MultiAssign.Command.Session
import MultiAssign.Console
import MultiAssign.Syntax.Listing

/-!
# The program

Reads what the command line leads to and the files with settings from the working directory up, runs
the program on them, writes changed files back and shows the rest. The trees of the texts to check
come as a listing on standard input, in the order in which the texts are parsed.
-/

namespace MultiAssign.Main

def entryAt (place : List String) : IO.FS.DirEntry := ⟨"/", "/".intercalate place⟩

def refusalOf : IO.Error → Refusal
  | .permissionDenied _ number reason => ⟨number.toNat, reason⟩
  | error => ⟨5, toString error⟩

/-- Where the link at a place leads in the end. A link that leads nowhere is taken for one to
itself. -/
def linkTarget (place : List String) : IO Path := do
  try
    let path ← IO.FS.realPath (entryAt place).path
    return .ofString path.toString
  catch _ => return ⟨"/", place⟩

def kindOf? (place : List String) : IO (Option IO.FS.FileType) := do
  try
    let metadata ← (entryAt place).path.symlinkMetadata
    return some metadata.type
  catch _ => return none

/-- Adds what stands at a place to a tree, with all that is below it and with what links lead to. -/
partial def gather (place : List String) (tree : FileTree) : IO FileTree := do
  if tree.isFile place then return tree
  match ← kindOf? place with
  | none => return tree
  | some .symlink =>
    if (FileTree.valueAt? tree.links place).isSome then return tree
    let target ← linkTarget place
    gather target.parts { tree with links := (place, target) :: tree.links }
  | some .file =>
    try
      let bytes ← IO.FS.readBinFile (entryAt place).path
      return { tree with files := (place, bytes.toList) :: tree.files }
    catch error =>
      return { tree with
        files := (place, []) :: tree.files
        closed := (place, refusalOf error) :: tree.closed }
  | some .other => return { tree with directories := place :: tree.directories }
  | some .dir =>
    let mut tree := { tree with directories := place :: tree.directories }
    for child in ← (entryAt place).path.readDir do
      tree ← gather (place ++ [child.fileName]) tree
    return tree

/-- Adds what components lead to from a place on, with the directories and the links on the way. -/
partial def reach (place : List String) (tree : FileTree) : List String → IO FileTree
  | [] => gather place tree
  | ".." :: rest => reach place.dropLast tree rest
  | part :: rest => do
    let next := place ++ [part]
    if rest.isEmpty then return ← gather next tree
    match ← kindOf? next with
    | some .symlink =>
      let target ← linkTarget next
      reach target.parts { tree with links := (next, target) :: tree.links } rest
    | some .dir => reach next { tree with directories := next :: tree.directories } rest
    | _ => gather next tree

/-- The part of the file system that a command line has to do with. -/
def treeFor (arguments : List String) : IO FileTree := do
  let here := (Path.ofString (← IO.currentDir).toString).parts
  let mut tree : FileTree := { here, files := [] }
  for place in Settings.upward here do
    tree ← gather (Settings.fileIn place).parts tree
  if let .check request := Command.Invocation.ofArguments arguments then
    for path in request.paths do
      tree ← reach (FileTree.start here path) tree path.parts
  return tree

partial def readLines (input : IO.FS.Stream) : IO (List String) := do
  let line ← input.getLine
  if line.isEmpty then return []
  let line := line.trimAsciiEnd.toString
  let rest ← readLines input
  return if line.isEmpty then rest else line :: rest

def usage : String :=
  "usage: unparallel [-h] [--version] check [-h] [--fix] [--json] [--indent-width N]"
    ++ " [--exclude [PATTERN ...]] [--verbose] path [path ...]"

def showTable (t : Table) : IO Unit := do
  IO.println t.title
  for row in t.columns :: t.rows do
    IO.println ("  ".intercalate row)

def conclude (before : FileTree) (s : Session) : IO UInt32 := do
  for (place, bytes) in FileTree.changes before s.tree do
    IO.FS.writeBinFile (entryAt place).path ⟨bytes.toArray⟩
  for entry in s.entries do
    for line in Console.entryLines entry do
      IO.println line
  for table in s.tables do
    showTable table
  if s.usage then IO.println usage
  IO.print s.output
  match s.exit with
  | .ok code => return code.toUInt32
  | .error failure =>
    IO.eprintln ("unparallel: stopped: " ++ failure.message)
    return 1

end MultiAssign.Main

open MultiAssign in
def main (arguments : List String) : IO UInt32 := do
  let tree ← Main.treeFor arguments
  match Parse.ofListing? (← Main.readLines (← IO.getStdin)) with
  | some trees =>
    Main.conclude tree (Session.run .lenient (.ofRecording trees) arguments tree)
  | none =>
    IO.eprintln "unparallel: the listing of trees is malformed"
    return 1
