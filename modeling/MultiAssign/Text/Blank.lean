/-!
# Blanks and line ends

Two classes of characters: those that count as white space, and those that end a line of displayed
text. Both reach beyond ASCII.
-/

namespace MultiAssign.Text

def blankRanges : List (Nat × Nat) :=
  [(0x09, 0x0D), (0x1C, 0x20), (0x85, 0x85), (0xA0, 0xA0), (0x1680, 0x1680), (0x2000, 0x200A),
    (0x2028, 0x2029), (0x202F, 0x202F), (0x205F, 0x205F), (0x3000, 0x3000)]

/-- White space: the separators of every kind, and the control characters that act as such. -/
def isBlank (c : Char) : Bool :=
  blankRanges.any fun (low, high) => low ≤ c.toNat && c.toNat ≤ high

/-- White space in the narrow sense: the control characters that separate records and fields do not
count. -/
def isSpace (c : Char) : Bool := isBlank c && !(0x1C ≤ c.toNat && c.toNat ≤ 0x1F)

/-- A text without the characters of a class at its two ends. -/
def trim (drop : Char → Bool) (cs : List Char) : List Char :=
  ((cs.dropWhile drop).reverse.dropWhile drop).reverse

/-- The code points that end a displayed line, as ranges in ascending order. -/
def lineEndRanges : List (Nat × Nat) :=
  [(0x0A, 0x0D), (0x1C, 0x1E), (0x85, 0x85), (0x2028, 0x2029)]

def isLineEnd (c : Char) : Bool :=
  lineEndRanges.any fun (low, high) => low ≤ c.toNat && c.toNat ≤ high

def firstLine (cs : List Char) : List Char := cs.takeWhile fun c => !isLineEnd c

end MultiAssign.Text
