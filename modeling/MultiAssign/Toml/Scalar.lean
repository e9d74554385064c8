import MultiAssign.Toml.Lexeme
import MultiAssign.Value

/-!
# Numbers, dates and times of a settings file

Each of these starts with a digit or a sign. A date or a time is tried before a number, because a
year reads as a number too. Of dates and times nothing is kept but their text, and that they exist.
-/

namespace MultiAssign.Toml

/-! ### Digits -/

/-- Further digits of a number; single underscores may stand between digits. -/
def moreDigits (isDigit : Char → Bool) : List Char → List Char × List Char
  | '_' :: c :: rest =>
    if isDigit c then
      let (digits, after) := moreDigits isDigit rest
      (c :: digits, after)
    else ([], '_' :: c :: rest)
  | c :: rest =>
    if isDigit c then
      let (digits, after) := moreDigits isDigit rest
      (c :: digits, after)
    else ([], c :: rest)
  | [] => ([], [])

def digits? (isDigit : Char → Bool) : List Char → Read (List Char)
  | [] => none
  | c :: rest =>
    if isDigit c then
      let (digits, after) := moreDigits isDigit rest
      some (c :: digits, after)
    else none

def ofDigits (base : Nat) (digits : List Char) : Nat :=
  digits.foldl (fun n c => n * base + (hexDigit? c).getD 0) 0

/-- A digit of a base up to sixteen. -/
def isDigitOf (base : Nat) (c : Char) : Bool :=
  match hexDigit? c with
  | some d => d < base
  | none => false

/-! ### Numbers -/

/-- A number in base 16, 8 or 2. -/
def based? : List Char → Read Value
  | '0' :: 'x' :: rest => (digits? (isDigitOf 16) rest).map fun ds => .int (ofDigits 16 ds)
  | '0' :: 'o' :: rest => (digits? (isDigitOf 8) rest).map fun ds => .int (ofDigits 8 ds)
  | '0' :: 'b' :: rest => (digits? (isDigitOf 2) rest).map fun ds => .int (ofDigits 2 ds)
  | _ => none

/-- The whole part of a number: a zero alone, or digits that do not start with one. -/
def whole? : List Char → Read (List Char)
  | '0' :: rest => some (['0'], rest)
  | cs => digits? (isDigitOf 10) cs

def fraction? : List Char → Read (List Char)
  | '.' :: rest => digits? (isDigitOf 10) rest
  | _ => none

/-- The power of ten at the end of a number. -/
def exponent? : List Char → Read Int
  | c :: rest =>
    if c = 'e' ∨ c = 'E' then
      let (negative, rest) := Text.sign rest
      (digits? (isDigitOf 10) rest).map fun ds =>
        if negative then - Int.ofNat (ofDigits 10 ds) else Int.ofNat (ofDigits 10 ds)
    else none
  | [] => none

/-- The float nearest to `digits` times a power of ten. Powers far out of range are cut off before
they are computed. -/
def floatOf (digits : List Char) (power : Int) : Float :=
  let n := ofDigits 10 digits
  let magnitude := power + digits.length
  if n = 0 || magnitude < -400 then 0.0
  else if magnitude > 400 + digits.length then 1.0 / 0.0
  else if power < 0 then Float.ofScientific n true power.natAbs
  else Float.ofScientific n false power.natAbs

def integer (negative : Bool) (digits : List Char) : Except Fault Value :=
  if Text.maxDigits < digits.length then .error (.longNumeral digits.length)
  else
    let n := Int.ofNat (ofDigits 10 digits)
    .ok (.int (if negative then -n else n))

/-- A number in base 10, a float if it has a fraction or a power of ten. -/
def decimal? (cs : List Char) : Read (Except Fault Value) :=
  let (negative, rest) := Text.sign cs
  match whole? rest with
  | none => none
  | some (whole, rest) =>
    let (places, rest) := (fraction? rest).getD ([], rest)
    match exponent? rest, places with
    | none, [] => some (integer negative whole, rest)
    | power, _ =>
      let (power, rest) := power.getD (0, rest)
      let x := floatOf (whole ++ places) (power - places.length)
      some (.ok (.float (if negative then -x else x)), rest)

/-- The floats that are spelled by a word. -/
def wordFloat? (cs : List Char) : Read Value :=
  let (negative, rest) := Text.sign cs
  match rest with
  | 'i' :: 'n' :: 'f' :: rest => some (.float (if negative then -1.0 / 0.0 else 1.0 / 0.0), rest)
  | 'n' :: 'a' :: 'n' :: rest => some (.float (0.0 / 0.0), rest)
  | _ => none

/-! ### Dates and times -/

def twoDigits? (low high : Nat) : List Char → Read Nat
  | a :: b :: rest =>
    let n := ofDigits 10 [a, b]
    if a.isDigit && b.isDigit && low ≤ n && n ≤ high then some (n, rest) else none
  | _ => none

def daysIn (year month : Nat) : Nat :=
  if month = 2 then
    if year % 4 = 0 ∧ (year % 100 ≠ 0 ∨ year % 400 = 0) then 29 else 28
  else if month = 4 ∨ month = 6 ∨ month = 9 ∨ month = 11 then 30
  else 31

/-- A date, and whether it exists. -/
def date? : List Char → Read Bool
  | a :: b :: c :: d :: '-' :: rest =>
    if [a, b, c, d].all Char.isDigit then
      match twoDigits? 1 12 rest with
      | some (month, '-' :: rest) =>
        let year := ofDigits 10 [a, b, c, d]
        (twoDigits? 1 31 rest).map fun day => 0 < year && day ≤ daysIn year month
      | _ => none
    else none
  | _ => none

/-- Skips the parts of a second, if there are any. -/
def skipParts (cs : List Char) : List Char :=
  match cs with
  | '.' :: rest => if (rest.takeWhile Char.isDigit).isEmpty then cs else rest.dropWhile Char.isDigit
  | _ => cs

/-- A time of day: what follows it. -/
def afterTime? (cs : List Char) : Option (List Char) :=
  match twoDigits? 0 23 cs with
  | some (_, ':' :: rest) =>
    match twoDigits? 0 59 rest with
    | some (_, ':' :: rest) => Option.map (fun (_, rest) => skipParts rest) (twoDigits? 0 59 rest)
    | _ => none
  | _ => none

/-- Skips the distance from universal time, if it is given. -/
def skipOffset (cs : List Char) : List Char :=
  match cs with
  | c :: rest =>
    if c = 'Z' ∨ c = 'z' then rest
    else if c = '+' ∨ c = '-' then
      match twoDigits? 0 23 rest with
      | some (_, ':' :: rest) => (Option.map Prod.snd (twoDigits? 0 59 rest)).getD cs
      | _ => cs
    else cs
  | [] => cs

/-- What follows a date: a time may go with it. -/
def afterDate (cs : List Char) : List Char :=
  match cs with
  | c :: rest =>
    if c = 'T' ∨ c = 't' ∨ c = ' ' then ((afterTime? rest).map skipOffset).getD cs else cs
  | [] => cs

/-- The text that was read when `rest` is left of `cs`. -/
def readOf (cs rest : List Char) : String := String.ofList (cs.take (cs.length - rest.length))

/-! ### Scalars -/

def number (cs : List Char) : Except Fault (Value × List Char) :=
  match (based? cs).or (wordFloat? cs) with
  | some read => .ok read
  | none =>
    match decimal? cs with
    | none => .error .malformed
    | some (.error fault, _) => .error fault
    | some (.ok v, rest) => .ok (v, rest)

def scalar (cs : List Char) : Except Fault (Value × List Char) :=
  match date? cs with
  | some (real, rest) =>
    let rest := afterDate rest
    if real then .ok (.moment (readOf cs rest), rest) else .error .malformed
  | none =>
    match afterTime? cs with
    | some rest => .ok (.moment (readOf cs rest), rest)
    | none => number cs

end MultiAssign.Toml
