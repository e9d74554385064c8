import MultiAssign.Edit

/-!
# Offenses

What is reported: a place in a source that breaks the rule, and the edit that mends it, if there is
one.
-/

namespace MultiAssign

structure Offense where
  rule : String
  message : String
  path : String
  /-- Counted from 1. -/
  line : Nat
  /-- Counted from 0. -/
  column : Nat
  start : Nat
  stop : Nat
  /-- The offending text. -/
  text : String
  correction : Option Edit
  deriving DecidableEq, Repr, Inhabited

namespace Offense

def ofFields (v : Validator) (fields : List (String × Value)) : Checked Offense :=
  Offense.mk
    <$> Value.required fields "cop_name" v.text
    <*> Value.required fields "message" v.text
    <*> Value.optional fields "path" v.text "(string)"
    <*> (Value.required fields "line" (v.atLeast 1)).map Subtype.val
    <*> Value.required fields "column" v.nat
    <*> Value.required fields "start" v.nat
    <*> Value.required fields "end" v.nat
    <*> Value.optional fields "source" v.text ""
    <*> Value.optional fields "correction" (Edit.ofValue v) none

def isCorrectable (o : Offense) : Bool := o.correction.isSome

def corrections (offenses : List Offense) : List Edit := offenses.filterMap correction

end Offense

end MultiAssign
