import MultiAssign.Text.Numeral

/-!
# Lexemes of a settings file

Settings are written in TOML. This module reads its smallest parts: blanks and comments, strings in
their four forms, and keys. A reader takes the text from where it stands and gives what it read and
the rest; it gives nothing if the text is malformed there. Line ends are single newlines here.
-/

namespace MultiAssign.Toml

abbrev Read (α : Type) := Option (α × List Char)

def Read.map {α β : Type} (f : α → β) (r : Read α) : Read β :=
  Option.map (fun (a, rest) => (f a, rest)) r

inductive Fault where
  | malformed
  /-- An integer has too many digits. -/
  | longNumeral (digits : Nat)
  deriving DecidableEq, Repr

def need {α : Type} : Option α → Except Fault α
  | some a => .ok a
  | none => .error .malformed

/-- A character that separates lexemes within a line. -/
def isGap (c : Char) : Bool := c == ' ' || c == '\t'

/-- A control character other than the tab, which may stand in a string or a comment. -/
def isControl (c : Char) : Bool := (c.toNat < 32 && c != '\t') || c.toNat == 127

def skipGaps (cs : List Char) : List Char := cs.dropWhile isGap

/-- Skips what may stand between the items of an array: blanks, line ends and comments. -/
def skipLayout : (inComment : Bool) → List Char → Option (List Char)
  | _, [] => some []
  | true, c :: rest =>
    if c = '\n' then skipLayout false rest
    else if isControl c then none
    else skipLayout true rest
  | false, c :: rest =>
    if c = '#' then skipLayout true rest
    else if isGap c || c == '\n' then skipLayout false rest
    else some (c :: rest)

def skipComment : List Char → Option (List Char)
  | '#' :: rest =>
    if (rest.takeWhile (· != '\n')).any isControl then none
    else some (rest.dropWhile (· != '\n'))
  | cs => some cs

/-! ### Strings -/

def hexDigit? (c : Char) : Option Nat :=
  if '0' ≤ c ∧ c ≤ '9' then some (c.toNat - 48)
  else if 'a' ≤ c ∧ c ≤ 'f' then some (c.toNat - 87)
  else if 'A' ≤ c ∧ c ≤ 'F' then some (c.toNat - 55)
  else none

def codePoint? (digits : List Char) : Option Char := do
  let values ← digits.mapM hexDigit?
  let n := values.foldl (fun n d => n * 16 + d) 0
  if n.isValidChar then some (Char.ofNat n) else none

def unescape? (c : Char) : Option Char :=
  match c with
  | 'b' => some '\x08'
  | 't' => some '\t'
  | 'n' => some '\n'
  | 'f' => some '\x0c'
  | 'r' => some '\r'
  | '"' => some '"'
  | '\\' => some '\\'
  | _ => none

/-- What a string leaves out after a backslash at the end of a line. -/
inductive Fold where
  | nothing
  /-- Blanks, up to the end of the line. -/
  | lineEnd
  /-- Blanks and line ends. -/
  | space

/-- The rest of a string in double quotes, whose opening is read; with `multi` it may have several
lines and ends with three quotes. -/
def basicString (multi : Bool) : (fold : Fold) → List Char → Read (List Char)
  | _, [] => none
  | .lineEnd, c :: rest =>
    if isGap c then basicString multi .lineEnd rest
    else if c = '\n' then basicString multi .space rest
    else none
  | .space, c :: rest =>
    if isGap c || c == '\n' then basicString multi .space rest
    else basicString multi .nothing (c :: rest)
  | .nothing, '\\' :: 'u' :: a :: b :: c :: d :: rest =>
    match codePoint? [a, b, c, d] with
    | some x => (basicString multi .nothing rest).map (x :: ·)
    | none => none
  | .nothing, '\\' :: 'U' :: a :: b :: c :: d :: e :: f :: g :: h :: rest =>
    match codePoint? [a, b, c, d, e, f, g, h] with
    | some x => (basicString multi .nothing rest).map (x :: ·)
    | none => none
  | .nothing, '\\' :: c :: rest =>
    if multi && isGap c then basicString multi .lineEnd rest
    else if multi && c == '\n' then basicString multi .space rest
    else
      match unescape? c with
      | some x => (basicString multi .nothing rest).map (x :: ·)
      | none => none
  | .nothing, c :: rest =>
    if c = '"' then
      if multi then
        if ['"', '"'].isPrefixOf rest then some ([], rest.drop 2)
        else (basicString multi .nothing rest).map (c :: ·)
      else some ([], rest)
    else if isControl c && !(multi && c == '\n') then none
    else (basicString multi .nothing rest).map (c :: ·)
termination_by fold cs => 2 * cs.length + match fold with | .nothing => 0 | _ => 1

/-- The rest of a string in single quotes, whose opening is read. -/
def literalString (multi : Bool) : List Char → Read (List Char)
  | [] => none
  | c :: rest =>
    if c = '\'' then
      if multi then
        if ['\'', '\''].isPrefixOf rest then some ([], rest.drop 2)
        else (literalString multi rest).map (c :: ·)
      else some ([], rest)
    else if isControl c && !(multi && c == '\n') then none
    else (literalString multi rest).map (c :: ·)

/-- After the three quotes that end a string, two more may follow; they belong to the string. -/
def extraQuotes (quote : Char) (r : Read (List Char)) : Read (List Char) :=
  Option.map (fun (body, rest) =>
    let extra := (rest.take 2).takeWhile (· == quote)
    (body ++ extra, rest.drop extra.length)) r

/-- A line end directly after the opening of a string with several lines is not part of it. -/
def dropLineEnd : List Char → List Char
  | '\n' :: rest => rest
  | cs => cs

def string? : List Char → Read (List Char)
  | '"' :: '"' :: '"' :: rest =>
    extraQuotes '"' (basicString true .nothing (dropLineEnd rest))
  | '"' :: rest => basicString false .nothing rest
  | '\'' :: '\'' :: '\'' :: rest => extraQuotes '\'' (literalString true (dropLineEnd rest))
  | '\'' :: rest => literalString false rest
  | _ => none

/-! ### Keys -/

def isKeyChar (c : Char) : Bool := c.isAlphanum || c == '-' || c == '_'

def keyPart? : List Char → Read String
  | [] => none
  | c :: rest =>
    if isKeyChar c then
      some (String.ofList (c :: rest.takeWhile isKeyChar), rest.dropWhile isKeyChar)
    else if c = '\'' then (literalString false rest).map String.ofList
    else if c = '"' then (basicString false .nothing rest).map String.ofList
    else none

/-- A key: parts with dots between them. Blanks may surround each part. Every part takes a
character, so the length of the text is fuel enough. -/
def key? : (fuel : Nat) → List Char → Read (List String)
  | 0, _ => none
  | fuel + 1, cs =>
    match keyPart? cs with
    | none => none
    | some (part, rest) =>
      match skipGaps rest with
      | '.' :: rest => (key? fuel (skipGaps rest)).map (part :: ·)
      | rest => some ([part], rest)

end MultiAssign.Toml
