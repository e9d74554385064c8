import MultiAssign.Syntax.Concrete

/-!
# Trees written down

A concrete tree can be written as a listing, one node a line, parents before their children. A line
has the depth of the node, the two ends of its range, a word that says what it is, its kind, and the
field it fills, if it fills one:

    0 0 11 named program
    1 0 11 named assignment
    2 0 1 named identifier left
    2 2 3 token =

The word is `token` for a token, `named` for any other node, and `broken` for the top node of a text
with errors. A node of depth 0 starts the next tree, so a listing may hold several.
-/

namespace MultiAssign

namespace Listing

structure Line where
  depth : Nat
  label : Label
  broken : Bool
  deriving Inhabited

def Line.ofString? (text : String) : Option Line :=
  match text.splitOn " " with
  | depth :: start :: stop :: word :: kind :: field =>
    match depth.toNat?, start.toNat?, stop.toNat? with
    | some depth, some start, some stop =>
      let label : Label := { kind, start, stop, named := word != "token", field := field.head? }
      some { depth, label, broken := word == "broken" }
    | _, _, _ => none
  | _ => none

/-- Puts a node before the trees of the lines after it; those that are deeper become its children.
-/
def attach (line : Line) (later : List (Nat × Parse)) : List (Nat × Parse) :=
  let deeper (t : Nat × Parse) : Bool := line.depth < t.1
  let children := (later.takeWhile deeper).map fun t => t.2.root
  (line.depth, ⟨.mk line.label children, line.broken⟩) :: later.dropWhile deeper

end Listing

def Parse.ofListing? (lines : List String) : Option (List Parse) :=
  (lines.mapM Listing.Line.ofString?).map fun ls => (ls.foldr Listing.attach []).map (·.2)

end MultiAssign
