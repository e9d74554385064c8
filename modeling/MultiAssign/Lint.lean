import MultiAssign.Inspection
import MultiAssign.Settings.Basic
import MultiAssign.Syntax.Reading

/-!
# Linting a text

A run parses a text, inspects the tree and reports the offenses. If it is to correct them, it
applies the corrections that fit together, parses the outcome and inspects it again, until nothing
is left to correct or the passes are used up; nested offenses need several passes. Text with syntax
errors is reported as failed and not inspected, and a correction that leads to such text is taken
back.

The parser is a parameter. It is told how many texts it was given before, so that it may as well be
a recording; a parser proper ignores the number.
-/

namespace MultiAssign

/-- Gives the tree of a text; the number counts the texts parsed before. -/
abbrev Parser := Nat → Source → Except Failure SyntaxTree

/-- The parser that plays back recorded trees, one after the other. -/
def Parser.ofRecording (trees : List Parse) : Parser := fun calls source =>
  match trees[calls]? with
  | some tree => SyntaxTree.ofParse source tree
  | none => .error .noTree

structure Report where
  /-- The text, corrected if that was wanted. -/
  code : String
  /-- The offenses of the text before any correction. -/
  offenses : List Offense := []
  errors : List String := []
  success : Bool := true
  /-- How many corrections were applied. -/
  corrected : Nat := 0
  deriving DecidableEq, Repr, Inhabited

/-- Everything that a run did: the texts it had parsed, what it noted, and its result. -/
structure Run where
  parsed : List String
  entries : List Entry
  result : Except Failure Report

namespace Run

def done (report : Report) : Run := ⟨[], [], .ok report⟩

def failed (failure : Failure) : Run := ⟨[], [], .error failure⟩

def noting (entries : List Entry) (r : Run) : Run := { r with entries := entries ++ r.entries }

def parsing (text : String) (r : Run) : Run := { r with parsed := text :: r.parsed }

end Run

def SyntaxTree.entries (tree : SyntaxTree) : List Entry :=
  if tree.hasErrors then [.debug ("Syntax errors while parsing " ++ tree.source.name)] else []

def Edit.skippedEntries (edits : List Edit) : List Entry :=
  (Edit.selection edits).skipped.map fun e =>
    .debug ("Skipping overlapping correction at " ++ toString e.start ++ ".." ++ toString e.stop)

structure Linter where
  settings : Settings
  parser : Parser

namespace Linter

def inspection (l : Linter) : Inspection := { width := l.settings.indentationWidth }

/-- Applies corrections in at most `left` further passes, of which the next has the number `pass`.
`calls` texts were parsed before; `report` is what is known so far. -/
def passes (l : Linter) (name : String) :
    (left pass calls : Nat) → (current : String) → List Edit → Report → Run
  | 0, _, _, current, _, report => .done { report with code := current }
  | left + 1, pass, calls, current, edits, report =>
    if edits.isEmpty then .done { report with code := current }
    else
      .noting (Edit.skippedEntries edits) <|
        match Edit.apply current edits with
        | .error failure => .failed failure
        | .ok patched =>
          if patched = current then .done { report with code := current }
          else
            .parsing patched <|
              match l.parser calls (Source.ofString patched name) with
              | .error failure => .failed failure
              | .ok tree =>
                .noting tree.entries <|
                  if tree.hasErrors then
                    let error := "Correction pass " ++ toString pass
                      ++ " produced invalid code in " ++ name
                    .done { report with
                      code := current, errors := report.errors ++ [error], success := false }
                  else
                    let applied := (Edit.select edits).length
                    let note := "Correction pass " ++ toString pass ++ " applied to " ++ name
                    let inspected := l.inspection.run tree true
                    .noting (Edit.skippedEntries edits ++ [.debug note] ++ inspected.entries) <|
                      match inspected.result with
                      | .error failure => .failed failure
                      | .ok offenses =>
                        passes l name left (pass + 1) (calls + 1) patched
                          (Offense.corrections offenses)
                          { report with corrected := report.corrected + applied }

/-- Lints a text, of which messages speak by `name`. -/
def run (l : Linter) (code : String) (autocorrect : Bool) (name : String) (calls : Nat) : Run :=
  if l.settings.enabled then
    .parsing code <|
      match l.parser calls (Source.ofString code name) with
      | .error failure => .failed failure
      | .ok tree =>
        .noting tree.entries <|
          if tree.hasErrors then
            .done { code, errors := ["Syntax error in " ++ name], success := false }
          else
            let inspected := l.inspection.run tree true
            .noting inspected.entries <|
              match inspected.result with
              | .error failure => .failed failure
              | .ok offenses =>
                let report : Report := { code, offenses }
                if autocorrect && !offenses.isEmpty then
                  l.passes name l.settings.maxPasses 1 (calls + 1) code
                    (Offense.corrections offenses) report
                else .done report
  else .done { code }

def offenses (l : Linter) (code : String) : Except Failure (List Offense) := do
  let report ← (l.run code false Source.unnamed 0).result
  if report.success then return report.offenses else throw (.lintFailed report.errors)

def corrected (l : Linter) (code : String) : Except Failure String := do
  let report ← (l.run code true Source.unnamed 0).result
  if report.success then return report.code else throw (.autocorrectFailed report.errors)

end Linter

end MultiAssign
