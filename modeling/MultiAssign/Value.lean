import MultiAssign.Text.Numeral

/-!
# Untyped values

Settings and other records reach the program as values of a data format. What a value stands for
where a number, a truth value or a text is wanted is for a `Validator` to say, from outside of the
program; `Validator.Lawful` is what may be relied on. `Validator.lenient` is the one that the
program runs with. It accepts values of another type than wanted: a whole float or a numeral in a
string is an integer, and a word such as `yes` is a truth value. `Flaw` says what is wrong with a
value and where.
-/

namespace MultiAssign

inductive Value where
  | null
  | bool (b : Bool)
  | int (n : Int)
  | float (x : Float)
  | text (s : String)
  /-- A date or a time, of which nothing is used. -/
  | moment (s : String)
  | list (items : List Value)
  | table (fields : List (String × Value))
  deriving Inhabited

/-- What is wrong with a value. -/
inductive Flaw where
  | missing
  | intType
  | intParsing
  | intFromFloat
  | intTooLarge
  | notFinite
  | tooSmall
  | boolType
  | boolParsing
  | stringType
  | listType
  | recordType
  deriving DecidableEq, Repr

namespace Flaw

def name : Flaw → String
  | missing => "missing"
  | intType => "int_type"
  | intParsing => "int_parsing"
  | intFromFloat => "int_from_float"
  | intTooLarge => "int_parsing_size"
  | notFinite => "finite_number"
  | tooSmall => "greater_than_equal"
  | boolType => "bool_type"
  | boolParsing => "bool_parsing"
  | stringType => "string_type"
  | listType => "list_type"
  | recordType => "model_type"

end Flaw

inductive Step where
  | field (name : String)
  | item (index : Nat)
  deriving DecidableEq, Repr

/-- A flaw and the way to the value that has it. -/
structure Defect where
  path : List Step
  flaw : Flaw
  deriving DecidableEq, Repr

/-- A value that passed all checks, or everything that is wrong with it. -/
inductive Checked (α : Type) where
  | ok (a : α)
  | defective (defects : List Defect)

namespace Checked

def map {α β : Type} (f : α → β) : Checked α → Checked β
  | ok a => ok (f a)
  | defective ds => defective ds

/-- Applies a function to an argument; the defects of both count. -/
def app {α β : Type} : Checked (α → β) → Checked α → Checked β
  | ok f, a => a.map f
  | defective ds, ok _ => defective ds
  | defective ds, defective ds' => defective (ds ++ ds')

instance : Applicative Checked where
  pure := ok
  map := map
  seq f a := f.app (a ())

/-- The value is the one at `step` in a larger value. -/
def under {α : Type} (step : Step) : Checked α → Checked α
  | ok a => ok a
  | defective ds => defective (ds.map fun d => { d with path := step :: d.path })

def flawed {α : Type} (flaw : Flaw) : Checked α := defective [⟨[], flaw⟩]

end Checked

namespace Value

/-! ### Integers -/

/-- The integer that a whole float stands for, within 64 bits. -/
def ofFloat (x : Float) : Except Flaw Int :=
  if x.isNaN || x.isInf then .error .notFinite
  else if x.floor != x then .error .intFromFloat
  else if -9223372036854775808.0 < x && x < 9223372036854775808.0 then .ok x.toInt64.toInt
  else .error .intTooLarge

def asInt : Value → Except Flaw Int
  | int n => .ok n
  | bool b => .ok (if b then 1 else 0)
  | float x => ofFloat x
  | text s =>
    match Text.lenient s.toList with
    | .ok n => .ok n
    | .error .malformed => .error .intParsing
    | .error .tooLong => .error .intTooLarge
  | _ => .error .intType

/-- The integer that a value stands for, which has to be `least` or more. -/
def asAtLeast (least : Nat) (v : Value) : Checked { n : Nat // least ≤ n } :=
  match v.asInt with
  | .error flaw => .flawed flaw
  | .ok n => if h : least ≤ n.toNat ∧ 0 ≤ n then .ok ⟨n.toNat, h.1⟩ else .flawed .tooSmall

/-! ### Other types -/

def noWords : List String := ["0", "off", "f", "false", "n", "no"]

def yesWords : List String := ["1", "on", "t", "true", "y", "yes"]

/-- The integers of 64 bits. -/
def isWord (n : Int) : Bool := -9223372036854775808 ≤ n && n < 9223372036854775808

def boolOfInt (n : Int) : Checked Bool :=
  if n = 0 then .ok false
  else if n = 1 then .ok true
  else if isWord n then .flawed .boolParsing
  else .flawed .boolType

/-- The truth value that a value stands for; a whole float counts as the integer it stands for. -/
def asBool : Value → Checked Bool
  | bool b => .ok b
  | int n => boolOfInt n
  | float x =>
    match ofFloat x with
    | .ok n => boolOfInt n
    | .error _ => .flawed .boolType
  | text s =>
    let word := String.ofList (s.toList.map Char.toLower)
    if noWords.contains word then .ok false
    else if yesWords.contains word then .ok true
    else .flawed .boolParsing
  | _ => .flawed .boolType

def asText : Value → Checked String
  | text s => .ok s
  | _ => .flawed .stringType

/-- Checks the items of a list, which are numbered from `index` on. -/
def checkItems {α : Type} (check : Value → Checked α) (index : Nat) :
    List Value → Checked (List α)
  | [] => .ok []
  | v :: vs =>
    List.cons <$> (check v).under (.item index) <*> checkItems check (index + 1) vs

def asList {α : Type} (check : Value → Checked α) : Value → Checked (List α)
  | list items => checkItems check 0 items
  | _ => .flawed .listType

/-- A value that says nothing: no value at all, a zero, or something without parts. -/
def isVoid : Value → Bool
  | null => true
  | bool b => !b
  | int n => n == 0
  | float x => x == 0.0
  | text s => s.isEmpty
  | moment _ => false
  | list items => items.isEmpty
  | table fields => fields.isEmpty

/-! ### Records -/

def field? (fields : List (String × Value)) (name : String) : Option Value :=
  (fields.find? fun f => f.1 == name).map (·.2)

def required {α : Type} (fields : List (String × Value)) (name : String)
    (check : Value → Checked α) : Checked α :=
  Checked.under (.field name) <|
    match field? fields name with
    | some v => check v
    | none => .flawed .missing

def optional {α : Type} (fields : List (String × Value)) (name : String)
    (check : Value → Checked α) (default : α) : Checked α :=
  match field? fields name with
  | some v => (check v).under (.field name)
  | none => .ok default

end Value

/-! ### Validators -/

/-- What values stand for: a truth value, an integer of some size, a text, a list of texts. -/
structure Validator where
  truth : Value → Checked Bool
  atLeast (least : Nat) : Value → Checked { n : Nat // least ≤ n }
  text : Value → Checked String
  texts : Value → Checked (List String)

namespace Validator

def nat (v : Validator) (x : Value) : Checked Nat := (v.atLeast 0 x).map Subtype.val

/-- What is documented of the checks: a refusal comes with a list of what is wrong, which is not
empty; an integer that is large enough stands for itself; and so does a list of texts, while no
other value stands for one. -/
structure Lawful (v : Validator) : Prop where
  truth_reports : ∀ x, v.truth x ≠ .defective []
  atLeast_reports : ∀ least x, v.atLeast least x ≠ .defective []
  texts_reports : ∀ x, v.texts x ≠ .defective []
  atLeast_int : ∀ least (n : { n : Nat // least ≤ n }), v.atLeast least (.int n.1) = .ok n
  texts_eq_ok_iff : ∀ x texts, v.texts x = .ok texts ↔ x = .list (texts.map .text)

def lenient : Validator where
  truth := Value.asBool
  atLeast := Value.asAtLeast
  text := Value.asText
  texts := Value.asList Value.asText

end Validator

end MultiAssign
