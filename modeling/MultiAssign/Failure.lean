import MultiAssign.Text.Utf8
import MultiAssign.Value

/-!
# Failures

Everything that can go wrong, by cause. The wording of those causes that a user gets to read stands
in one place, `Failure.message`; the others say that a value does not have the shape that an
operation needs, and have no wording.
-/

namespace MultiAssign

/-- Why an operation gives no result. -/
inductive Failure where
  /-- A child, a parent or a range that the operation needs is absent. -/
  | absent
  /-- The first element of an empty list, or an index past the end of one, was asked for. -/
  | noElement
  /-- A value of the wrong kind was handed over. -/
  | wrongKind
  /-- No further syntax tree is at hand. -/
  | noTree
  | unpaired (targets sources : Nat)
  | cyclic (reader writer : Nat)
  | unregistered (strategy : String)
  | noKeyword (statement : String)
  | noRescue (statement : String)
  | badRange (start stop length : Nat)
  | lintFailed (errors : List String)
  | autocorrectFailed (errors : List String)
  /-- A file of settings is not written in the format for them. -/
  | settingsUnreadable (path : String)
  /-- A file of settings cannot be opened. -/
  | settingsClosed (path reason : String)
  | settingsInvalid (defects : List Defect)
  /-- A numeral in a file of settings is too long to be read. -/
  | longNumeral (digits : Nat)
  /-- Bytes that are to be a text are none. -/
  | undecodable (fault : Utf8.Fault)
  /-- An item of a list of pairs has another number of parts than two. -/
  | notAPair (index size : Nat)
  /-- The links on a path lead back to themselves. -/
  | linkLoop (path : String)
  deriving DecidableEq, Repr, Inhabited

def Failure.message : Failure → String
  | .unpaired targets sources =>
    "Cannot pair " ++ toString targets ++ " targets with " ++ toString sources ++ " sources"
  | .cyclic reader writer =>
    "Assignments " ++ toString reader ++ " and " ++ toString writer ++ " depend on each other"
  | .unregistered strategy => "No corrector registered for strategy '" ++ strategy ++ "'"
  | .noKeyword statement => "Cannot locate modifier keyword in: " ++ Text.quoted statement
  | .noRescue statement => "Expected a rescue modifier around: " ++ Text.quoted statement
  | .badRange start stop length =>
    "Invalid correction range " ++ toString start ++ ".." ++ toString stop
      ++ " for text of length " ++ toString length
  | .lintFailed errors => "Lint failed:\n" ++ "\n".intercalate errors
  | .autocorrectFailed errors => "Autocorrect failed:\n" ++ "\n".intercalate errors
  | .settingsUnreadable path => "Cannot read " ++ path
  | .settingsClosed path reason => "Cannot read " ++ path ++ ": " ++ reason
  | .settingsInvalid defects =>
    "Invalid [tool.unparallel] configuration: " ++ toString defects.length
      ++ (if defects.length = 1 then " validation error" else " validation errors")
      ++ " for LintConfig"
  | .longNumeral digits =>
    "Exceeds the limit (" ++ toString Text.maxDigits
      ++ " digits) for integer string conversion: value has " ++ toString digits
      ++ " digits; use sys.set_int_max_str_digits() to increase the limit"
  | .undecodable fault => fault.message
  | .notAPair index size =>
    "dictionary update sequence element #" ++ toString index ++ " has length " ++ toString size
      ++ "; 2 is required"
  | .linkLoop path => "Symlink loop from " ++ Text.quoted path
  | .absent | .noElement | .wrongKind | .noTree => ""

/-- The causes that are mistakes in a value rather than in its shape. They are the ones that a
correction may run into without stopping the inspection. -/
def Failure.isRefusal : Failure → Bool
  | .absent | .noElement | .wrongKind | .noTree | .linkLoop _ => false
  | _ => true

end MultiAssign
