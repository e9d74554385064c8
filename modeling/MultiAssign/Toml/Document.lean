import MultiAssign.Text.Newline
import MultiAssign.Toml.Scalar

/-!
# Settings files

A document is a sequence of lines, each of which opens a table, adds a table to a list of tables, or
sets a key of the table that was opened last. Keys may have several parts, and tables on the way are
made as needed. What was written once cannot be written again: a key has one value, a table is
opened once, and a table or an array that was given as a value takes no additions.
-/

namespace MultiAssign.Toml

abbrev Fields := List (String × Value)

/-! ### Nested tables -/

def replace (key : String) (v : Value) (fields : Fields) : Fields :=
  fields.map fun f => if f.1 = key then (key, v) else f

def add (key : String) (v : Value) (fields : Fields) : Option Fields :=
  match Value.field? fields key with
  | none => some (fields ++ [(key, v)])
  | some _ => none

/-- Changes the table at the end of a way of keys. Tables that are missing on the way are made. With
`throughLists`, a list on the way stands for its last item. -/
def update (throughLists : Bool) (change : Fields → Option Fields) :
    List String → Fields → Option Fields
  | [], fields => change fields
  | key :: keys, fields =>
    match Value.field? fields key with
    | none => (update throughLists change keys []).map fun inner => fields ++ [(key, .table inner)]
    | some (.table inner) =>
      (update throughLists change keys inner).map fun inner => replace key (.table inner) fields
    | some (.list items) =>
      match throughLists, items.getLast? with
      | true, some (.table inner) =>
        (update throughLists change keys inner).map fun inner =>
          replace key (.list (items.dropLast ++ [.table inner])) fields
      | _, _ => none
    | some _ => none

def set (throughLists : Bool) (key : List String) (v : Value) (fields : Fields) : Option Fields :=
  match key.getLast? with
  | some last => update throughLists (add last v) key.dropLast fields
  | none => none

/-- Adds an empty table to the list at a key; the list is made if it is missing. -/
def addItem (key : List String) (fields : Fields) : Option Fields :=
  match key.getLast? with
  | some last =>
    let change (fields : Fields) : Option Fields :=
      match Value.field? fields last with
      | none => some (fields ++ [(last, .list [.table []])])
      | some (.list items) => some (replace last (.list (items ++ [.table []])) fields)
      | some _ => none
    update true change key.dropLast fields
  | none => none

/-- A key lies at one of the given ones or below it. -/
def isWithin (key : List String) (closed : List (List String)) : Bool :=
  closed.any (·.isPrefixOf key)

def isNested (v : Value) : Bool :=
  match v with
  | .table _ | .list _ => true
  | _ => false

/-! ### Values -/

/-- The entries of a table in braces so far, with the keys that take no additions. -/
structure Inline where
  fields : Fields := []
  closed : List (List String) := []

def Inline.insert (t : Inline) (key : List String) (v : Value) : Option Inline :=
  if isWithin key t.closed then none
  else
    (set false key v t.fields).map fun fields =>
      ⟨fields, if isNested v then key :: t.closed else t.closed⟩

mutual

/-- A value. Every step down takes a character, so the length of the text is fuel enough. -/
def value : (fuel : Nat) → List Char → Except Fault (Value × List Char)
  | 0, _ => .error .malformed
  | fuel + 1, cs =>
    match cs with
    | 't' :: 'r' :: 'u' :: 'e' :: rest => .ok (.bool true, rest)
    | 'f' :: 'a' :: 'l' :: 's' :: 'e' :: rest => .ok (.bool false, rest)
    | '[' :: rest =>
      match skipLayout false rest with
      | none => .error .malformed
      | some (']' :: rest) => .ok (.list [], rest)
      | some rest => (items fuel rest).map fun (vs, rest) => (.list vs, rest)
    | '\x7b' :: rest =>
      match skipGaps rest with
      | '\x7d' :: rest => .ok (.table [], rest)
      | rest => (entries fuel {} rest).map fun (fields, rest) => (.table fields, rest)
    | _ =>
      if cs.head? = some '"' ∨ cs.head? = some '\'' then
        need ((string? cs).map fun s => .text (String.ofList s))
      else scalar cs

/-- The items of an array, of which at least one is left. -/
def items : (fuel : Nat) → List Char → Except Fault (List Value × List Char)
  | 0, _ => .error .malformed
  | fuel + 1, cs =>
    match value fuel cs with
    | .error fault => .error fault
    | .ok (v, rest) =>
      match skipLayout false rest with
      | some (']' :: rest) => .ok ([v], rest)
      | some (',' :: rest) =>
        match skipLayout false rest with
        | none => .error .malformed
        | some (']' :: rest) => .ok ([v], rest)
        | some rest => (items fuel rest).map fun (vs, rest) => (v :: vs, rest)
      | _ => .error .malformed

/-- The entries of a table in braces, of which at least one is left. -/
def entries : (fuel : Nat) → Inline → List Char → Except Fault (Fields × List Char)
  | 0, _, _ => .error .malformed
  | fuel + 1, t, cs =>
    match key? cs.length cs with
    | some (key, '=' :: rest) =>
      match value fuel (skipGaps rest) with
      | .error fault => .error fault
      | .ok (v, rest) =>
        match t.insert key v with
        | none => .error .malformed
        | some t =>
          match skipGaps rest with
          | '\x7d' :: rest => .ok (t.fields, rest)
          | ',' :: rest => entries fuel t (skipGaps rest)
          | _ => .error .malformed
    | _ => .error .malformed

end

/-! ### Lines -/

structure Document where
  fields : Fields := []
  /-- The table that was opened last. -/
  opened : List String := []
  /-- Tables that cannot be opened, or added to from elsewhere. -/
  declared : List (List String) := []
  /-- Keys whose values take no additions. -/
  closed : List (List String) := []
  /-- Tables made by keys with several parts, which count as declared once another is opened. -/
  made : List (List String) := []

namespace Document

/-- The line `[key]`. -/
def openTable (d : Document) (key : List String) : Option Document :=
  let declared := d.made ++ d.declared
  if declared.contains key || isWithin key d.closed then none
  else
    (update true some key d.fields).map fun fields =>
      { d with fields, opened := key, declared := key :: declared, made := [] }

/-- The line `[[key]]`. What was said of the list's last item does not hold for the new one. -/
def openItem (d : Document) (key : List String) : Option Document :=
  if isWithin key d.closed then none
  else
    let others (keys : List (List String)) := keys.filter fun k => !key.isPrefixOf k
    (addItem key d.fields).map fun fields =>
      { fields
        opened := key
        declared := key :: others (d.made ++ d.declared)
        closed := others d.closed }

/-- The keys on the way to a key, without the key itself: `a` and `a.b` for `a.b.c`. -/
def onTheWay (opened key : List String) : List (List String) :=
  (List.range (key.length - 1)).map fun i => opened ++ key.take (i + 1)

/-- The line `key = value`. -/
def assign (d : Document) (key : List String) (v : Value) : Option Document :=
  let way := onTheWay d.opened key
  let whole := d.opened ++ key
  if way.any d.declared.contains || isWithin (d.opened ++ key.dropLast) d.closed then none
  else
    (set true whole v d.fields).map fun fields =>
      { d with
        fields
        made := way ++ d.made
        closed := if isNested v then whole :: d.closed else d.closed }

/-- Reads what a line says, up to where its comment or its end has to be. -/
def readLine (d : Document) (cs : List Char) : Except Fault (Document × List Char) :=
  match cs with
  | '[' :: '[' :: rest =>
    let rest := skipGaps rest
    match key? rest.length rest with
    | some (key, ']' :: ']' :: rest) => need ((d.openItem key).map fun d => (d, rest))
    | _ => .error .malformed
  | '[' :: rest =>
    let rest := skipGaps rest
    match key? rest.length rest with
    | some (key, ']' :: rest) => need ((d.openTable key).map fun d => (d, rest))
    | _ => .error .malformed
  | '#' :: _ => .ok (d, cs)
  | _ =>
    match key? cs.length cs with
    | some (key, '=' :: rest) =>
      match value (2 * rest.length + 2) (skipGaps rest) with
      | .ok (v, rest) => need ((d.assign key v).map fun d => (d, rest))
      | .error fault => .error fault
    | _ => .error .malformed

/-- Reads lines to the end of the text. Every line takes a character. -/
def readLines : (fuel : Nat) → Document → List Char → Except Fault Document
  | 0, _, _ => .error .malformed
  | fuel + 1, d, cs =>
    match skipGaps cs with
    | [] => .ok d
    | '\n' :: rest => readLines fuel d rest
    | cs =>
      match d.readLine cs with
      | .error fault => .error fault
      | .ok (d, rest) =>
        match skipComment (skipGaps rest) with
        | some [] => .ok d
        | some ('\n' :: rest) => readLines fuel d rest
        | _ => .error .malformed

end Document

def parse (text : List Char) : Except Fault Fields :=
  let text := Text.joinLineEnds text
  (Document.readLines (text.length + 1) {} text).map (·.fields)

end MultiAssign.Toml
