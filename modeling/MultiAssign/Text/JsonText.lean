import MultiAssign.Text.Quoted

/-!
# JSON texts

How a report is written as JSON: one item a line, two spaces for one step of nesting, and nothing
but ASCII. An empty list or object stays on one line. A character outside of the basic plane is
written as a pair of surrogates.
-/

namespace MultiAssign

inductive JsonValue where
  | bool (b : Bool)
  | nat (n : Nat)
  | text (s : String)
  | list (items : List JsonValue)
  | record (fields : List (String × JsonValue))
  deriving Inhabited

namespace JsonValue

/-- A unit of sixteen bits in an escape. -/
def unitEscape (n : Nat) : List Char := '\\' :: 'u' :: Text.hexDigits 4 n

def escapeChar (c : Char) : List Char :=
  if c = '"' then ['\\', '"']
  else if c = '\\' then ['\\', '\\']
  else if c = '\n' then ['\\', 'n']
  else if c = '\r' then ['\\', 'r']
  else if c = '\t' then ['\\', 't']
  else if c = '\x0c' then ['\\', 'f']
  else if c = '\x08' then ['\\', 'b']
  else if ' ' ≤ c ∧ c ≤ '~' then [c]
  else if c.toNat < 0x10000 then unitEscape c.toNat
  else
    let n := c.toNat - 0x10000
    unitEscape (0xD800 + n / 0x400) ++ unitEscape (0xDC00 + n % 0x400)

def quote (s : String) : List Char := '"' :: s.toList.flatMap escapeChar ++ ['"']

/-- The start of a line that is nested `depth` steps deep. -/
def newLine (depth : Nat) : List Char := '\n' :: List.replicate (2 * depth) ' '

mutual

/-- The text of a value whose own line is nested `depth` steps deep. -/
def write (depth : Nat) : JsonValue → List Char
  | bool b => (if b then "true" else "false").toList
  | nat n => (toString n).toList
  | text s => quote s
  | list [] => ['[', ']']
  | list (v :: vs) => '[' :: writeItems (depth + 1) (v :: vs) ++ newLine depth ++ [']']
  | record [] => ['\x7b', '\x7d']
  | record (f :: fs) => '\x7b' :: writeFields (depth + 1) (f :: fs) ++ newLine depth ++ ['\x7d']

def writeItems (depth : Nat) : List JsonValue → List Char
  | [] => []
  | [v] => newLine depth ++ write depth v
  | v :: vs => newLine depth ++ write depth v ++ ',' :: writeItems depth vs

def writeFields (depth : Nat) : List (String × JsonValue) → List Char
  | [] => []
  | [(key, v)] => newLine depth ++ quote key ++ ':' :: ' ' :: write depth v
  | (key, v) :: fs =>
    newLine depth ++ quote key ++ ':' :: ' ' :: write depth v ++ ',' :: writeFields depth fs

end

def render (v : JsonValue) : String := String.ofList (write 0 v)

end JsonValue

end MultiAssign
