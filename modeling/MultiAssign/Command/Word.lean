import MultiAssign.Text.Digit

/-!
# The words of a command line

A command line is a list of texts. Each of them is an option, perhaps with a value attached, or a
plain value, or the separator `--`, after which everything is a plain value. Which it is depends on
the options that are known: a long option may be cut short as long as it is the only one with that
beginning, and a negative number is a value.
-/

namespace MultiAssign.Command

/-- What an option is about. -/
inductive Flag where
  | help
  | version
  | fix
  | json
  | indentWidth
  | exclude
  | verbose
  deriving DecidableEq, Repr

/-- The spellings of the options that are known at some point. -/
abbrev Options := List (String × Flag)

inductive Word where
  | value (text : String)
  | separator
  /-- An option, with the value that an equals sign attaches to it. -/
  | option (flag : Flag) (attached : Option String)
  /-- An option of one letter, with the letters that follow it directly. -/
  | cluster (flag : Flag) (letters : String)
  /-- It looks like an option but is none. -/
  | unknown
  deriving DecidableEq, Repr

def cutAtEquals (cs : List Char) : List Char × Option (List Char) :=
  match cs.dropWhile (· != '=') with
  | _ :: value => (cs.takeWhile (· != '='), some value)
  | [] => (cs, none)

/-- A negative number: digits, or a decimal point with digits after it. A newline may follow. -/
def isNegativeNumber (cs : List Char) : Bool :=
  match cs with
  | '-' :: rest =>
    let rest := if rest.getLast? = some '\n' then rest.dropLast else rest
    match rest.dropWhile Text.isDecimal with
    | [] => !rest.isEmpty
    | '.' :: places => !places.isEmpty && places.all Text.isDecimal
    | _ => false
  | _ => false

/-- The options that a text may stand for without being one of their spellings. -/
def meanings (options : Options) (cs : List Char) : List Word :=
  match cs with
  | '-' :: '-' :: _ =>
    let (name, value) := cutAtEquals cs
    options.filterMap fun (spelling, flag) =>
      if name.isPrefixOf spelling.toList then some (.option flag (value.map String.ofList))
      else none
  | _ =>
    options.filterMap fun (spelling, flag) =>
      if spelling.toList = cs.take 2 then some (.cluster flag (String.ofList (cs.drop 2))) else none

/-- What a text before the separator is; nothing if it may be short for several options. -/
def wordOf (options : Options) (text : String) : Option Word :=
  let cs := text.toList
  if cs.head? ≠ some '-' then some (.value text)
  else
    match options.lookup text with
    | some flag => some (.option flag none)
    | none =>
      if cs.length = 1 then some (.value text)
      else
        match cutAtEquals cs with
        | (name, some value) =>
          match options.lookup (String.ofList name) with
          | some flag => some (attached flag name value)
          | none => shortened cs
        | _ => shortened cs
where
  /-- After an option of one letter an equals sign may as well be left out. -/
  attached (flag : Flag) (name value : List Char) : Word :=
    if name.length = 2 && !value.isEmpty then .cluster flag (String.ofList value)
    else .option flag (some (String.ofList value))
  shortened (cs : List Char) : Option Word :=
    match meanings options cs with
    | [word] => some word
    | [] =>
      if isNegativeNumber cs || cs.contains ' ' then some (.value (String.ofList cs))
      else some .unknown
    | _ => none

/-- The words of a command line, each with its text; nothing if one of them is ambiguous. -/
def words (options : Options) : List String → Option (List (String × Word))
  | [] => some []
  | text :: rest =>
    if text = "--" then some ((text, .separator) :: rest.map fun t => (t, .value t))
    else
      match wordOf options text, words options rest with
      | some word, some more => some ((text, word) :: more)
      | _, _ => none

end MultiAssign.Command
