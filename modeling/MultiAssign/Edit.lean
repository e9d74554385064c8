import MultiAssign.Failure
import MultiAssign.Value

/-!
# Edits of a text

An edit replaces a range of a text. Several edits are applied together in two steps: `select` goes
through them by ascending start and keeps those that start where the last kept one ends or later;
`splice` then writes the kept ones into the text from left to right. Edits may be given in any
order, may overlap, and may have ranges that are reversed or lie outside the text; the last two are
found out by `splice`.
-/

namespace MultiAssign

/-- A replacement for the characters from `start` up to `stop`. -/
structure Edit where
  start : Nat
  stop : Nat
  replacement : String
  deriving DecidableEq, Repr, Inhabited

namespace Edit

def ofFields (v : Validator) (fields : List (String × Value)) : Checked Edit :=
  Edit.mk
    <$> Value.required fields "start" v.nat
    <*> Value.required fields "end" v.nat
    <*> Value.required fields "replacement" v.text

/-- Reads an edit that may be left open. -/
def ofValue (v : Validator) : Value → Checked (Option Edit)
  | .null => .ok none
  | .table fields => (ofFields v fields).map some
  | _ => .flawed .recordType

def comesBefore (a b : Edit) : Bool :=
  a.start < b.start || (a.start == b.start && a.stop ≤ b.stop)

/-- Edits in the order in which they are taken; edits with one range stay as they stand. -/
def sorted (edits : List Edit) : List Edit := edits.mergeSort comesBefore

structure Selection where
  kept : List Edit
  skipped : List Edit
  deriving DecidableEq, Repr

/-- Goes through sorted edits; everything before `cursor` is covered by an edit already kept. -/
def sift (cursor : Nat) : List Edit → Selection
  | [] => ⟨[], []⟩
  | e :: rest =>
    if e.start < cursor then
      let s := sift cursor rest
      ⟨s.kept, e :: s.skipped⟩
    else
      let s := sift e.stop rest
      ⟨e :: s.kept, s.skipped⟩

def selection (edits : List Edit) : Selection := sift 0 (sorted edits)

def select (edits : List Edit) : List Edit := (selection edits).kept

/-- Writes edits with ascending ranges into the part of a text that starts at `cursor`. -/
def splice (text : List Char) (cursor : Nat) : List Edit → Except Failure (List Char)
  | [] => .ok (text.drop cursor)
  | e :: rest =>
    if e.stop < e.start ∨ text.length < e.stop then
      .error (.badRange e.start e.stop text.length)
    else
      match splice text e.stop rest with
      | .error failure => .error failure
      | .ok tail =>
        .ok ((text.take e.start).drop cursor ++ e.replacement.toList ++ tail)

def apply (text : String) (edits : List Edit) : Except Failure String :=
  (splice text.toList 0 (select edits)).map String.ofList

end Edit

end MultiAssign
