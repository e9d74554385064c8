/-!
# Paths

A path is a list of components, below the root of the file system or relative to the directory that
the program runs in. Reading a path drops what does not change its meaning: empty components and the
component `.`; the component `..` stays, because the directory before it may lead elsewhere. So two
paths are equal when they name the same walk, however they were spelled.
-/

namespace MultiAssign

structure Path where
  /-- What stands before the components: nothing, or one or two slashes. -/
  root : String
  parts : List String
  deriving DecidableEq, Repr, Inhabited

namespace Path

/-- The root that a text starts with. Two slashes are a root of their own; three are as good as
one. -/
def rootOf : List Char → String
  | '/' :: '/' :: '/' :: _ => "/"
  | '/' :: '/' :: _ => "//"
  | '/' :: _ => "/"
  | _ => ""

def components : List Char → List (List Char)
  | [] => [[]]
  | c :: rest =>
    if c = '/' then [] :: components rest
    else
      match components rest with
      | [] => [[c]]
      | first :: others => (c :: first) :: others

/-- A component that leads somewhere. -/
def isStep (part : String) : Bool := part != "" && part != "."

def partsOf (cs : List Char) : List String :=
  ((components cs).map String.ofList).filter isStep

def ofString (text : String) : Path := ⟨rootOf text.toList, partsOf text.toList⟩

/-- The text of a path; the path without components is the directory itself. -/
def text (p : Path) : String :=
  if p.root.isEmpty && p.parts.isEmpty then "." else p.root ++ "/".intercalate p.parts

/-- The last component, empty if there is none. -/
def name (p : Path) : String := p.parts.getLast?.getD ""

def isRelative (p : Path) : Bool := p.root.isEmpty

def append (p : Path) (parts : List String) : Path := { p with parts := p.parts ++ parts }

def comesBefore (p q : Path) : Bool := !decide (q.parts < p.parts)

end Path

end MultiAssign
