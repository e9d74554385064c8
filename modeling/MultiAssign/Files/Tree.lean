import MultiAssign.Files.Path
import MultiAssign.Text.Quoted

/-!
# File systems

A file system as a process with a working directory sees it. `FileTree` holds the files with their
bytes, the symbolic links, and the directories that are to exist even without anything in them; each
of them stands at its place, the components that lead to it from the root. A file may be closed to
the process, and then the system has a reason for it.

A path starts at the root or at the working directory and is followed step by step. A step to `..`
takes the one before it back and stays where it is at the root; a step to a link goes where the
path in the link goes. `locate` is how the system follows a path to open what is there, and
`resolve` is how a path is resolved whether or not there is anything.
-/

namespace MultiAssign

/-- Why the system does not open a file. -/
structure Refusal where
  number : Nat
  reason : String
  deriving DecidableEq, Repr

def Refusal.message (r : Refusal) (p : Path) : String :=
  "[Errno " ++ toString r.number ++ "] " ++ r.reason ++ ": " ++ Text.quoted p.text

def Refusal.notThere : Refusal := ⟨2, "No such file or directory"⟩

structure FileTree where
  /-- The place of the working directory. -/
  here : List String
  files : List (List String × List UInt8)
  /-- Directories beside those that lead to something. -/
  directories : List (List String) := []
  links : List (List String × Path) := []
  /-- The files that cannot be read. -/
  closed : List (List String × Refusal) := []
  deriving Inhabited

namespace FileTree

/-- What stands at a place among the entries of one kind. -/
def valueAt? {α : Type} (entries : List (List String × α)) (place : List String) : Option α :=
  (entries.find? fun e => e.1 == place).map (·.2)

def file? (t : FileTree) (place : List String) : Option (List UInt8) := valueAt? t.files place

def isFile (t : FileTree) (place : List String) : Bool := (t.file? place).isSome

/-- A place is a directory if it is one of those that are listed, or on the way to something. -/
def isDirectory (t : FileTree) (place : List String) : Bool :=
  place.isPrefixOf t.here
    || t.directories.any (place.isPrefixOf ·)
    || t.files.any (fun f => place.isPrefixOf f.1 && place != f.1)
    || t.links.any (fun l => place.isPrefixOf l.1 && place != l.1)

/-! ### Following a path -/

/-- The place where a path starts that is read at `place`. -/
def start (place : List String) (p : Path) : List String := if p.isRelative then place else []

/-- Follows components from a place on. With `strict`, every step has to be taken in a directory.
Where a link leads is for `jump` to say, from the directory that it stands in and the path in it. -/
def walk (t : FileTree) (strict : Bool) (jump : List String → Path → Option (List String)) :
    List String → List String → Option (List String)
  | place, [] => some place
  | place, part :: rest =>
    if strict && !t.isDirectory place then none
    else if part = ".." then t.walk strict jump place.dropLast rest
    else
      match valueAt? t.links (place ++ [part]) with
      | none => t.walk strict jump (place ++ [part]) rest
      | some target =>
        match jump place target with
        | none => none
        | some found => t.walk strict jump found rest

/-- Follows components from a place on, through links inside links up to the given depth. -/
def follow (t : FileTree) (strict : Bool) : Nat → List String → List String → Option (List String)
  | 0 => t.walk strict fun _ _ => none
  | depth + 1 =>
    t.walk strict fun place target => t.follow strict depth (start place target) target.parts

/-- The place that a path leads to. Links that are nested deeper than there are links lead through
themselves, and then the path leads nowhere. -/
def find (t : FileTree) (strict : Bool) (p : Path) : Option (List String) :=
  t.follow strict t.links.length (start t.here p) p.parts

/-- The place that a path leads to, which may hold nothing. -/
def locate (t : FileTree) (p : Path) : Option (List String) := t.find true p

/-- The place that a path would lead to if all directories on the way existed. -/
def resolve (t : FileTree) (p : Path) : Option (List String) := t.find false p

/-! ### What a path leads to -/

def hasFile (t : FileTree) (p : Path) : Bool :=
  match t.locate p with
  | some place => t.isFile place
  | none => false

/-- A path leads to a file or a directory. -/
def has (t : FileTree) (p : Path) : Bool :=
  match t.locate p with
  | some place => t.isFile place || t.isDirectory place
  | none => false

/-- The bytes of the file that a path leads to, which need not be open to the process. -/
def read? (t : FileTree) (p : Path) : Option (List UInt8) := (t.locate p).bind t.file?

/-- Why the file that a path leads to is closed, if it is. -/
def refusal? (t : FileTree) (p : Path) : Option Refusal := (t.locate p).bind (valueAt? t.closed)

def bytes (t : FileTree) (p : Path) : Except Refusal (List UInt8) :=
  match t.read? p, t.refusal? p with
  | some bytes, none => .ok bytes
  | some _, some refusal => .error refusal
  | none, _ => .error .notThere

/-- The files and links below the directory that a path leads to, as paths that go on from it.
Links are not followed on the way down. -/
def below (t : FileTree) (p : Path) : List Path :=
  match t.locate p with
  | none => []
  | some place =>
    (t.files.map (·.1) ++ t.links.map (·.1)).filterMap fun q =>
      if place.isPrefixOf q && place != q then some (p.append (q.drop place.length)) else none

/-! ### Writing -/

def put (t : FileTree) (place : List String) (bytes : List UInt8) : FileTree :=
  { t with files := t.files.map fun f => if f.1 = place then (f.1, bytes) else f }

def write (t : FileTree) (p : Path) (bytes : List UInt8) : FileTree :=
  match t.locate p with
  | some place => t.put place bytes
  | none => t

/-- The files of `t` whose bytes differ from those they had in `old`. -/
def changes (old t : FileTree) : List (List String × List UInt8) :=
  t.files.filter fun f => old.file? f.1 != some f.2

end FileTree

end MultiAssign
