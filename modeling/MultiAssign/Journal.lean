import MultiAssign.Text.Markup

/-!
# The journal

The program keeps a journal of what it does and why it leaves a statement alone. What is meant for
the user's eyes may carry markup, of which the journal keeps the plain text; the lines for debugging
quote source code as it stands.
-/

namespace MultiAssign

inductive Level where
  | debug
  | info
  | success
  | warning
  | error
  deriving DecidableEq, Repr, Inhabited

namespace Level

def name : Level → String
  | debug => "DEBUG"
  | info => "INFO"
  | success => "SUCCESS"
  | warning => "WARNING"
  | error => "ERROR"

end Level

/-- One line of the journal. -/
structure Entry where
  level : Level
  text : String
  deriving DecidableEq, Repr, Inhabited

def Entry.debug (text : String) : Entry := ⟨.debug, text⟩

def Entry.marked (level : Level) (message : String) : Entry := ⟨level, Markup.render message⟩

end MultiAssign
