import MultiAssign.Command.Check
import MultiAssign.Text.JsonText

/-!
# What a check tells the user

The offenses of all files are shown as a table or written as JSON. An offense is *resolved* when it
could be corrected and its file was: then it counts no longer against the exit code.
-/

namespace MultiAssign

structure Table where
  title : String
  columns : List String
  rows : List (List String)
  deriving DecidableEq, Repr, Inhabited

namespace Offense

def isResolved (o : Offense) (fix : Bool) (r : Report) : Bool :=
  fix && r.success && decide (0 < r.corrected) && o.isCorrectable

def status (o : Offense) (fix : Bool) (r : Report) : String :=
  if o.isResolved fix r then "corrected"
  else if o.isCorrectable then "correctable"
  else "manual"

end Offense

namespace Summary

abbrev Reports := List (Path × Report)

def offenseCount (rs : Reports) : Nat := (rs.flatMap fun r => r.2.offenses).length

def correctedCount (rs : Reports) : Nat := total (fun r => r.2.corrected) rs

def remaining (fix : Bool) (rs : Reports) : Nat :=
  (rs.flatMap fun r => r.2.offenses.filter fun o => !o.isResolved fix r.2).length

/-! ### The table -/

def cell (text : String) : String := Markup.render (Markup.escape text)

/-- Where an offense is, for a human reader: columns count from 1 here. -/
def location (path : Path) (o : Offense) : String :=
  path.text ++ ":" ++ toString o.line ++ ":" ++ toString (o.column + 1)

def row (fix : Bool) (path : Path) (r : Report) (o : Offense) : List String :=
  [cell (location path o), o.rule, cell (String.ofList (Text.firstLine o.text.toList)),
    o.status fix r]

def table (fix : Bool) (rs : Reports) : Table where
  title := "Offenses (" ++ toString (offenseCount rs) ++ ")"
  columns := ["Location", "Cop", "Source", "Status"]
  rows := rs.flatMap fun (path, r) => r.offenses.map (row fix path r)

/-! ### JSON -/

def offenseValue (o : Offense) : JsonValue :=
  .record [("cop_name", .text o.rule), ("message", .text o.message), ("path", .text o.path),
    ("line", .nat o.line), ("column", .nat o.column), ("start", .nat o.start), ("end", .nat o.stop),
    ("source", .text o.text), ("correctable", .bool o.isCorrectable)]

def reportValue (path : Path) (r : Report) : JsonValue :=
  .record [("path", .text path.text), ("success", .bool r.success),
    ("corrected", .nat r.corrected), ("offenses", .list (r.offenses.map offenseValue))]

def document (rs : Reports) : String :=
  (JsonValue.list (rs.map fun (path, r) => reportValue path r)).render ++ "\n"

/-! ### The last line -/

def closing (fix failed : Bool) (rs : Reports) : List Entry :=
  if fix && offenseCount rs != 0 then
    [.marked .success ("Corrected " ++ toString (correctedCount rs) ++ " of "
      ++ toString (offenseCount rs) ++ " offense(s).")]
  else if offenseCount rs == 0 && !failed then
    [.marked .success ("No offenses in " ++ toString rs.length ++ " file(s).")]
  else []

/-- The exit code: 1 if a file failed or an offense is left. -/
def exitCode (fix failed : Bool) (rs : Reports) : Nat :=
  if failed || remaining fix rs != 0 then 1 else 0

end Summary

end MultiAssign
