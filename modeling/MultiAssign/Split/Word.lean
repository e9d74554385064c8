import MultiAssign.Text.Blank

/-!
# Elements of word arrays

The elements of a word array such as `%w(a b)` stand in the source without quotes of their own. To
stand alone they are quoted anew, with the value they had: `unescape` gives the value of an element
whose array takes no escapes but those of blanks, backslashes and its own delimiters, and
`singleQuoted` writes a value down again; `doubleQuoted` keeps an element of an array with escapes
and interpolation in its written form.
-/

namespace MultiAssign.Word

def closing (opening : Char) : Char :=
  if opening = '(' then ')'
  else if opening = '[' then ']'
  else if opening = '\x7b' then '\x7d'
  else if opening = '<' then '>'
  else opening

/-- The characters that a backslash stands before without a meaning of its own, in an array opened
by `delimiter`. -/
def isEscapable (delimiter : Option Char) (c : Char) : Bool :=
  Text.isBlank c || c == '\\' ||
    match delimiter with
    | none => false
    | some d => c == d || c == closing d

/-- The value of an element: a backslash before an escapable character is dropped. -/
def unescape (delimiter : Option Char) : List Char → List Char
  | [] => []
  | [c] => [c]
  | c :: d :: rest =>
    if c = '\\' then
      if isEscapable delimiter d then d :: unescape delimiter rest
      else '\\' :: d :: unescape delimiter rest
    else c :: unescape delimiter (d :: rest)

def escape (delimiter : Option Char) (value : List Char) : List Char :=
  value.flatMap fun c => if isEscapable delimiter c then ['\\', c] else [c]

/-- A value as a single-quoted literal, in which only the backslash and the quote are escaped. -/
def singleQuoted (value : List Char) : List Char :=
  let quote := Char.ofNat 39
  quote :: value.flatMap (fun c => if c = '\\' ∨ c = quote then ['\\', c] else [c]) ++ [quote]

/-- The body of a double-quoted literal, inside `depth` open braces of an interpolation. Escapes and
interpolations are copied; a bare double quote is escaped, an escaped newline, which would join two
lines, becomes the escape for a newline, and a backslash at the very end is doubled. -/
def doubleQuotedBody : Nat → List Char → List Char
  | _, [] => []
  | depth + 1, c :: rest =>
    let depth := if c = '\x7b' then depth + 2 else if c = '\x7d' then depth else depth + 1
    c :: doubleQuotedBody depth rest
  | 0, ['\\'] => ['\\', '\\']
  | 0, '\\' :: '\n' :: rest => '\\' :: 'n' :: doubleQuotedBody 0 rest
  | 0, '\\' :: c :: rest => '\\' :: c :: doubleQuotedBody 0 rest
  | 0, '#' :: '\x7b' :: rest => '#' :: '\x7b' :: doubleQuotedBody 1 rest
  | 0, c :: rest =>
    if c = '"' then '\\' :: '"' :: doubleQuotedBody 0 rest else c :: doubleQuotedBody 0 rest

def doubleQuoted (element : List Char) : List Char :=
  '"' :: doubleQuotedBody 0 element ++ ['"']

def isNameStart (c : Char) : Bool := c.isAlpha || c == '_'

def isNameChar (c : Char) : Bool := c.isAlphanum || c == '_'

/-- A value that can follow the colon of a symbol without quotes: an ASCII identifier with at most
one mark after it. -/
def isPlainSymbol : List Char → Bool
  | [] => false
  | c :: rest =>
    isNameStart c &&
      match rest.dropWhile isNameChar with
      | [] => true
      | [mark] => mark == '?' || mark == '!' || mark == '='
      | _ => false

end MultiAssign.Word
