import MultiAssign.Text.Blank

/-!
# Numerals

How integers are spelled. `signed?` reads a sign and a plain numeral, in which single underscores
may stand between digits. `lenient` reads the numerals of people and of other programs: blanks
around them, zeros before them and a fraction of zeros after them do not count.

Numerals with more than `maxDigits` digits are not turned into numbers, because the work grows with
the square of their length.
-/

namespace MultiAssign.Text

def maxDigits : Nat := 4300

def ofDigits (digits : List Char) : Nat :=
  digits.foldl (fun n c => n * 10 + (c.toNat - 48)) 0

/-! ### Plain numerals -/

/-- A numeral: digits, with single underscores between them. -/
def digits? (value : Nat) : List Char → Option Nat
  | [] => none
  | [c] => if c.isDigit then some (value * 10 + (c.toNat - 48)) else none
  | c :: d :: rest =>
    if c.isDigit then
      let value := value * 10 + (c.toNat - 48)
      if d = '_' then digits? value rest else digits? value (d :: rest)
    else none

/-- The integer that a numeral with an optional sign spells. -/
def signed? (numeral? : List Char → Option Nat) : List Char → Option Int
  | '+' :: rest => (numeral? rest).map Int.ofNat
  | '-' :: rest => (numeral? rest).map fun n => - Int.ofNat n
  | cs => (numeral? cs).map Int.ofNat

/-! ### Lenient numerals -/

/-- Why a text spells no integer. -/
inductive NumeralFault where
  | malformed
  | tooLong
  deriving DecidableEq, Repr

/-- Digits without a zero in front, `room` of them at most. Too many of them are a fault even if
something else follows. -/
def magnitude (room : Nat) : List Char → Except NumeralFault Nat
  | ['0'] => .ok 0
  | '0' :: _ => .error .malformed
  | cs =>
    let digits := cs.takeWhile Char.isDigit
    if room < digits.length then .error .tooLong
    else if digits.isEmpty || digits.length < cs.length then .error .malformed
    else .ok (ofDigits digits)

/-- A magnitude with a minus sign or without, `maxDigits` characters at most. -/
def canonical : List Char → Except NumeralFault Int
  | '-' :: rest => (magnitude (maxDigits - 1) rest).map fun n => - Int.ofNat n
  | cs => (magnitude maxDigits cs).map Int.ofNat

/-- Goes on dropping zeros, and underscores among them; `last` was the last to go. It comes back
before a decimal point and at the end. A minus sign may follow the zeros. -/
def dropMoreZeros (last : Char) : List Char → Option (List Char)
  | [] => some [last]
  | c :: rest =>
    if c = '0' ∨ c = '_' then dropMoreZeros c rest
    else if c.isDigit ∨ c = '-' then some (c :: rest)
    else if c = '.' then some (last :: c :: rest)
    else none

/-- Drops the zeros at the start of a text that has to start with a digit. -/
def dropZeros : List Char → Option (List Char)
  | [] => none
  | c :: rest =>
    if c = '0' then dropMoreZeros c rest
    else if c.isDigit then some (c :: rest)
    else none

/-- Drops a decimal point with zeros, and nothing else, after it. -/
def dropFraction (cs : List Char) : List Char :=
  match cs.dropWhile (· != '.') with
  | _ :: places =>
    if !places.isEmpty && places.all (· == '0') then cs.takeWhile (· != '.') else cs
  | [] => cs

def hasDoubleUnderscore : List Char → Bool
  | [] => false
  | [_] => false
  | c :: d :: rest => (c == '_' && d == '_') || hasDoubleUnderscore (d :: rest)

/-- Drops the underscores of a text, if all of them stand alone and none at an end. -/
def dropUnderscores (cs : List Char) : List Char :=
  if cs.head? = some '_' || cs.getLast? = some '_' || hasDoubleUnderscore cs then cs
  else cs.filter (· != '_')

/-- A sign and the rest; no sign is as good as a plus. -/
def sign : List Char → Bool × List Char
  | '-' :: rest => (true, rest)
  | '+' :: rest => (false, rest)
  | cs => (false, cs)

/-- The integer that a text spells in one way or another. -/
def lenient (cs : List Char) : Except NumeralFault Int :=
  let (negative, body) := sign (trim isSpace cs)
  match dropZeros body with
  | none => .error .malformed
  | some body =>
    let body := dropUnderscores (dropFraction body)
    canonical (if negative then '-' :: body else body)

end MultiAssign.Text
