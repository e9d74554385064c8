import MultiAssign.Text.Quoted

/-!
# UTF-8

Characters as bytes, and bytes read back as characters. Reading is one scan, `pieces`, which cuts
any byte sequence into characters and faults; a fault covers the longest start of a character that
the bytes hold, and at least one byte. The three readers differ only in what they make of a fault:
`decodeReplacing` puts the replacement character in its place, `decodeDropping` leaves it out, and
`decode` refuses the bytes at the first one.
-/

namespace MultiAssign.Utf8

def encode (text : List Char) : List UInt8 :=
  text.flatMap String.utf8EncodeChar

/-- Why a byte cannot be read as the next one of a character. -/
inductive Cause where
  /-- The byte starts no character. -/
  | start
  /-- The byte does not continue the character that was begun. -/
  | continuation
  /-- The bytes end inside a character. -/
  | truncated
  deriving DecidableEq, Repr

def Cause.message : Cause → String
  | .start => "invalid start byte"
  | .continuation => "invalid continuation byte"
  | .truncated => "unexpected end of data"

/-- One step of the scan: a character, or a number of bytes that are none. -/
inductive Piece where
  | char (c : Char)
  | fault (size : Nat) (cause : Cause)
  deriving DecidableEq, Repr

/-- What a first byte announces: the bits it holds itself, how many bytes follow, and the range of
the first of these. The ranges leave out overlong forms, surrogates and what lies past the last
code point. -/
def announced (b : UInt8) : Option (Nat × Nat × Nat × Nat) :=
  let n := b.toNat
  if n < 0x80 then some (n, 0, 0, 0)
  else if n < 0xC2 then none
  else if n < 0xE0 then some (n % 0x20, 1, 0x80, 0xBF)
  else if n = 0xE0 then some (0, 2, 0xA0, 0xBF)
  else if n = 0xED then some (0xD, 2, 0x80, 0x9F)
  else if n < 0xF0 then some (n % 0x10, 2, 0x80, 0xBF)
  else if n = 0xF0 then some (0, 3, 0x90, 0xBF)
  else if n < 0xF4 then some (n % 8, 3, 0x80, 0xBF)
  else if n = 0xF4 then some (4, 3, 0x80, 0x8F)
  else none

/-- Reads the `need` bytes that complete a character of which `taken` bytes with the bits `bits`
are read; the next one has to lie in `low`..`high`. -/
def complete (taken bits low high : Nat) : Nat → List UInt8 → Piece × List UInt8
  | 0, rest => (.char (Char.ofNat bits), rest)
  | _ + 1, [] => (.fault taken .truncated, [])
  | need + 1, b :: rest =>
    if low ≤ b.toNat ∧ b.toNat ≤ high then
      complete (taken + 1) (bits * 64 + b.toNat % 64) 0x80 0xBF need rest
    else (.fault taken .continuation, b :: rest)

/-- The first piece of a non-empty byte sequence, and what follows it. -/
def piece (b : UInt8) (rest : List UInt8) : Piece × List UInt8 :=
  match announced b with
  | none => (.fault 1 .start, rest)
  | some (bits, need, low, high) => complete 1 bits low high need rest

theorem length_complete_le (taken bits low high need : Nat) (rest : List UInt8) :
    (complete taken bits low high need rest).2.length ≤ rest.length := by
  induction need generalizing taken bits low high rest with
  | zero => simp [complete]
  | succ need ih =>
    cases rest with
    | nil => simp [complete]
    | cons b rest =>
      simp only [complete]
      split
      · exact Nat.le_trans (ih ..) (by simp)
      · simp

theorem length_piece_le (b : UInt8) (rest : List UInt8) :
    (piece b rest).2.length ≤ rest.length := by
  unfold piece
  split
  · simp
  · exact length_complete_le ..

def pieces : List UInt8 → List Piece
  | [] => []
  | b :: rest => (piece b rest).1 :: pieces (piece b rest).2
termination_by bytes => bytes.length
decreasing_by
  have := length_piece_le b rest
  simp only [List.length_cons]
  omega

/-- Reads bytes, with U+FFFD in the place of every fault. -/
def decodeReplacing (bytes : List UInt8) : List Char :=
  (pieces bytes).map fun
    | .char c => c
    | .fault .. => Char.ofNat 0xFFFD

/-- Reads bytes, leaving every fault out. -/
def decodeDropping (bytes : List UInt8) : List Char :=
  (pieces bytes).filterMap fun
    | .char c => some c
    | .fault .. => none

/-- The first fault of a byte sequence: where it starts, its bytes and why they cannot be read. -/
structure Fault where
  position : Nat
  bytes : List UInt8
  cause : Cause
  deriving DecidableEq, Repr

/-- Reads pieces up to the first fault; `position` bytes are read already. -/
def collect (bytes : List UInt8) (position : Nat) : List Piece → Except Fault (List Char)
  | [] => .ok []
  | .char c :: rest =>
    match collect bytes (position + c.utf8Size) rest with
    | .ok cs => .ok (c :: cs)
    | .error fault => .error fault
  | .fault size cause :: _ => .error ⟨position, (bytes.drop position).take size, cause⟩

def decode (bytes : List UInt8) : Except Fault (List Char) :=
  collect bytes 0 (pieces bytes)

/-- The wording of a fault: a single byte is named by its value, several by their range. -/
def Fault.message (fault : Fault) : String :=
  let spot := match fault.bytes with
    | [b] =>
      "byte 0x" ++ String.ofList (Text.hexDigits 2 b.toNat)
        ++ " in position " ++ toString fault.position
    | bytes =>
      "bytes in position " ++ toString fault.position ++ "-"
        ++ toString (fault.position + bytes.length - 1)
  "'utf-8' codec can't decode " ++ spot ++ ": " ++ fault.cause.message

end MultiAssign.Utf8
