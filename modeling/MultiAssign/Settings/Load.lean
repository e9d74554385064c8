import MultiAssign.Failure
import MultiAssign.Files.Tree
import MultiAssign.Settings.Basic
import MultiAssign.Toml.Document

/-!
# Where settings come from

Settings are a table in a file of the directory where the search starts, or of the nearest one above
it that has such a file, up to the root. Without a file everything has its default. What the user
asks for on the command line comes on top: numbers take the place of those in the file, patterns are
added to those in the file. Only then are the values checked, so a value that is replaced may as
well be wrong.
-/

namespace MultiAssign

/-- What the user asks for beside the file, before anything is checked. -/
structure Overrides where
  indentationWidth : Option Value := none
  maxPasses : Option Value := none
  /-- Further patterns of files to leave out. -/
  exclude : Value := .list []
  deriving Inhabited

namespace Settings

def fileName : String := "pyproject.toml"

/-- The directories from a place up to the root, the nearest first. -/
def upward (place : List String) : List (List String) :=
  (List.range (place.length + 1)).reverse.map fun n => place.take n

def fileIn (place : List String) : Path := ⟨"/", place ++ [fileName]⟩

def nearest? (tree : FileTree) (place : List String) : Option Path :=
  ((upward place).map fileIn).find? tree.hasFile

/-! ### From a file to a record -/

/-- What a value consists of: the items of a list, the characters of a text, the keys of a table. -/
def partsOf : Value → Option (List Value)
  | .list items => some items
  | .text s => some (s.toList.map fun c => .text (String.singleton c))
  | .table fields => some (fields.map fun f => .text f.1)
  | _ => none

/-- Sets a field, which keeps its place if it is there already. -/
def setField (fields : List (String × Value)) (name : String) (v : Value) :
    List (String × Value) :=
  match Value.field? fields name with
  | some _ => Toml.replace name v fields
  | none => fields ++ [(name, v)]

/-- Reads pairs of a name and a value, of which `index` came before. A name that is no text names
nothing; a list or a table cannot be a name. -/
def ofPairs (index : Nat) (fields : List (String × Value)) :
    List Value → Except Failure (List (String × Value))
  | [] => .ok fields
  | v :: vs =>
    match partsOf v with
    | none => .error .wrongKind
    | some [.text name, v] => ofPairs (index + 1) (setField fields name v) vs
    | some [.list _, _] => .error .wrongKind
    | some [.table _, _] => .error .wrongKind
    | some [_, _] => ofPairs (index + 1) fields vs
    | some parts => .error (.notAPair index parts.length)

/-- A value as a record: a table is one, and so is a sequence of pairs. -/
def recordOf : Value → Except Failure (List (String × Value))
  | .table fields => .ok fields
  | v =>
    match partsOf v with
    | some parts => ofPairs 0 [] parts
    | none => .error .wrongKind

def recordIn (top : List (String × Value)) : Except Failure (List (String × Value)) :=
  match (Value.field? top "tool").getD (.table []) with
  | .table tools => recordOf ((Value.field? tools "unparallel").getD (.table []))
  | _ => .error .absent

def recordOfBytes (path : String) (bytes : List UInt8) :
    Except Failure (List (String × Value)) :=
  match Utf8.decode bytes with
  | .error fault => .error (.undecodable fault)
  | .ok text =>
    match Toml.parse text with
    | .error .malformed => .error (.settingsUnreadable path)
    | .error (.longNumeral digits) => .error (.longNumeral digits)
    | .ok top => recordIn top

/-- The record of settings for a place: that of the nearest file, or nothing. -/
def recordAt (tree : FileTree) (place : List String) : Except Failure (List (String × Value)) :=
  match nearest? tree place with
  | none => .ok []
  | some file =>
    match tree.bytes file with
    | .error refusal => .error (.settingsClosed file.text (refusal.message file))
    | .ok bytes => recordOfBytes file.text bytes

/-- The record of settings for a path, which need not exist. -/
def recordFor (tree : FileTree) (search : Path) : Except Failure (List (String × Value)) :=
  match tree.resolve search with
  | some place => recordAt tree place
  | none => .error (.linkLoop search.text)

end Settings

namespace Overrides

def setTo (name : String) (v : Option Value) (fields : List (String × Value)) :
    List (String × Value) :=
  match v with
  | some v => Settings.setField fields name v
  | none => fields

/-- Adds patterns to those in a record, if there are any to add. -/
def addPatterns (patterns : Value) (fields : List (String × Value)) :
    Except Failure (List (String × Value)) :=
  if patterns.isVoid then .ok fields
  else
    match Settings.partsOf ((Value.field? fields "exclude").getD (.list [])),
        Settings.partsOf patterns with
    | some items, some more => .ok (Settings.setField fields "exclude" (.list (items ++ more)))
    | _, _ => .error .wrongKind

def apply (o : Overrides) (fields : List (String × Value)) :
    Except Failure (List (String × Value)) :=
  addPatterns o.exclude <|
    setTo "max_correction_passes" o.maxPasses <|
      setTo "indentation_width" o.indentationWidth fields

end Overrides

namespace Settings

def ofRecord (v : Validator) (fields : List (String × Value)) : Except Failure Settings :=
  match ofFields v fields with
  | .ok s => .ok s
  | .defective defects => .error (.settingsInvalid defects)

/-- The settings for a search path, with what the user asks for on top. -/
def load (v : Validator) (tree : FileTree) (search : Path) (o : Overrides) :
    Except Failure Settings := do
  let fields ← recordFor tree search
  let fields ← o.apply fields
  ofRecord v fields

end Settings

end MultiAssign
