import MultiAssign.Journal
import MultiAssign.Text.Blank

/-!
# The console

Journal lines and reports are written to one console. It can be exchanged for another one, so that
what is written can be looked at; `isOwn` says that the console is such a one and not the terminal.
Lines for debugging are written only if the console is verbose. A journal line starts with its
level, and further lines of its text stand below the first. Tabs are written as blanks.
-/

namespace MultiAssign

structure Console where
  isOwn : Bool := true
  verbose : Bool := false
  deriving DecidableEq, Repr, Inhabited

inductive Action where
  /-- Write a journal line whose text has markup. -/
  | log (level : Level) (message : String)
  /-- Write a line for debugging. -/
  | debug (text : String)
  | print (message : String)
  | setVerbose (verbose : Bool)
  /-- Exchange the console for another one. -/
  | exchange
  /-- Go back to the terminal and to few words. -/
  | reset
  deriving DecidableEq, Repr

namespace Console

def level (c : Console) : Level := if c.verbose then .debug else .info

def linesOf : List Char → List (List Char)
  | [] => [[]]
  | c :: rest =>
    if c = '\n' then [] :: linesOf rest
    else
      match linesOf rest with
      | [] => [[c]]
      | first :: others => (c :: first) :: others

/-- A line with blanks in place of tabs, each up to the next multiple of eight; `column` characters
stand before it. -/
def expandTabs (column : Nat) : List Char → List Char
  | [] => []
  | c :: rest =>
    if c = '\t' then
      List.replicate (8 - column % 8) ' ' ++ expandTabs (column + (8 - column % 8)) rest
    else c :: expandTabs (column + 1) rest

def shownLines (text : String) : List (List Char) :=
  (linesOf (Markup.audible text.toList)).map (expandTabs 0)

def trimEnd (cs : List Char) : String :=
  String.ofList (cs.reverse.dropWhile Text.isBlank).reverse

def pad (width : Nat) (cs : List Char) : List Char := cs ++ List.replicate (width - cs.length) ' '

def entryLines (e : Entry) : List String :=
  match shownLines e.text with
  | [] => []
  | first :: others =>
    trimEnd (pad 9 e.level.name.toList ++ first) :: others.map fun l => trimEnd (pad 9 [] ++ l)

def textLines (text : String) : List String := (shownLines text).map trimEnd

def write (c : Console) (e : Entry) : List Entry × List String :=
  if c.isOwn && (c.verbose || e.level != .debug) then ([e], entryLines e) else ([], [])

/-- The console after an action, the journal lines of the action, and what is written. -/
def perform (c : Console) : Action → Console × List Entry × List String
  | .log level message => (c, c.write (.marked level message))
  | .debug text => (c, c.write (.debug text))
  | .print message => (c, [], if c.isOwn then textLines (Markup.render message) else [])
  | .setVerbose verbose => ({ c with verbose }, [], [])
  | .exchange => ({ c with isOwn := true }, [], [])
  | .reset => ({ isOwn := false, verbose := false }, [], [])

def performAll (c : Console) : List Action → List (Console × List Entry × List String)
  | [] => []
  | a :: rest =>
    let after := c.perform a
    after :: performAll after.1 rest

end Console

end MultiAssign
