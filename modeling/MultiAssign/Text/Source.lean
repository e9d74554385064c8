import MultiAssign.Text.Utf8

/-!
# Source texts and positions in them

A `Source` is a named text. Positions count characters from 0; the concrete syntax tree counts the
bytes of the text's UTF-8 form, and `Source.charOffset` leads from there to characters. A position
has a line, counted from 1, and a column, counted from 0; only a newline ends a line. Positions past
the end of the text belong to its last line.
-/

namespace MultiAssign

/-- A half-open range of positions. Nothing keeps `stop` from lying before `start`. -/
structure Span where
  start : Nat
  stop : Nat
  deriving DecidableEq, Repr, Inhabited

/-- A text with the name under which messages speak of it. Its UTF-8 form is kept beside it, since
it is asked for at every node of a tree. -/
structure Source where
  name : String
  chars : List Char
  bytes : List UInt8 := Utf8.encode chars
  /-- Every character takes one byte. -/
  isAscii : Bool := bytes.length == chars.length
  bytes_eq : bytes = Utf8.encode chars := by rfl
  isAscii_eq : isAscii = (bytes.length == chars.length) := by rfl

namespace Source

def unnamed : String := "(string)"

def ofString (text : String) (name : String) : Source := { name, chars := text.toList }

instance : Inhabited Source := ⟨ofString "" ""⟩

def text (s : Source) : String := String.ofList s.chars

/-- The number of whole characters in the first `offset` bytes. In a text of one-byte characters
that is the offset itself, which is passed on even where it lies past the end. -/
def charOffset (s : Source) (offset : Nat) : Nat :=
  if s.isAscii then offset else (Utf8.decodeDropping (s.bytes.take offset)).length

/-- The characters between two positions; none if the range is reversed. -/
def slice (s : Source) (start stop : Nat) : List Char := (s.chars.take stop).drop start

def lineOf (s : Source) (position : Nat) : Nat := (s.chars.take position).count '\n' + 1

/-- The position after the last newline of a text, 0 if it has none. -/
def lastLineStart (cs : List Char) : Nat :=
  cs.length - (cs.reverse.takeWhile (· != '\n')).length

def columnOf (s : Source) (position : Nat) : Nat :=
  position - lastLineStart (s.chars.take position)

def textOf (s : Source) (span : Span) : String := String.ofList (s.slice span.start span.stop)

/-- The text of a range of bytes, read on its own: a character that the range cuts is replaced. -/
def bytesText (s : Source) (start stop : Nat) : String :=
  String.ofList (Utf8.decodeReplacing ((s.bytes.take stop).drop start))

def spanOfBytes (s : Source) (start stop : Nat) : Span :=
  ⟨s.charOffset start, s.charOffset stop⟩

end Source

end MultiAssign
