import MultiAssign.Text.Printable

/-!
# Quoted texts

How a message quotes a piece of source. Single quotes are the rule; a text that holds a single quote
and no double one is put in double quotes. What has no visible form is written by its code point.
-/

namespace MultiAssign.Text

/-- The quote that encloses a text in a message. -/
def enclosingQuote (cs : List Char) : Char :=
  if cs.contains (Char.ofNat 39) && !cs.contains (Char.ofNat 34) then Char.ofNat 34
  else Char.ofNat 39

/-- The lowest `width` hexadecimal digits of a number. -/
def hexDigits : (width n : Nat) → List Char
  | 0, _ => []
  | width + 1, n => hexDigits width (n / 16) ++ [Nat.digitChar (n % 16)]

/-- A character written by its code point, with two, four or eight digits. -/
def codePointEscape (c : Char) : List Char :=
  let n := c.toNat
  if n < 0x100 then '\\' :: 'x' :: hexDigits 2 n
  else if n < 0x10000 then '\\' :: 'u' :: hexDigits 4 n
  else '\\' :: 'U' :: hexDigits 8 n

def quotedChar (quote c : Char) : List Char :=
  if c = '\\' then ['\\', '\\']
  else if c = '\n' then ['\\', 'n']
  else if c = '\r' then ['\\', 'r']
  else if c = '\t' then ['\\', 't']
  else if c = quote then ['\\', c]
  else if isPrintable c then [c]
  else codePointEscape c

def quoted (text : String) : String :=
  let cs := text.toList
  let quote := enclosingQuote cs
  String.ofList (quote :: cs.flatMap (quotedChar quote) ++ [quote])

end MultiAssign.Text
