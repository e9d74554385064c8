import MultiAssign.Text.Source
import MultiAssign.Syntax.Walk
import MultiAssign.Syntax.Reading
import MultiAssign.Text.Blank
import MultiAssign.Edit
import MultiAssign.Dependency.Pair
import MultiAssign.Verdict
import MultiAssign.Split.Word
import MultiAssign.Split.Layout
import MultiAssign.Inspection
import MultiAssign.Lint
import MultiAssign.Files.Collect
import MultiAssign.Toml.Document
import MultiAssign.Settings.Load
import MultiAssign.Text.Digit
import MultiAssign.Text.JsonText
import MultiAssign.Command.Request
import MultiAssign.Command.Session
import MultiAssign.Console
import MultiAssign.Main
import MultiAssign.Proofs.Emission
import MultiAssign.Proofs.SafeOrder
import MultiAssign.Proofs.Sequential
import MultiAssign.Proofs.SelfReads
import MultiAssign.Proofs.TargetPlaces
import MultiAssign.Proofs.Walk
import MultiAssign.Proofs.RepeatedTargets
import MultiAssign.Proofs.Offsets
import MultiAssign.Proofs.Passes
import MultiAssign.Proofs.Laid
import MultiAssign.Proofs.ReadingRanges
import MultiAssign.Proofs.EditRanges
import MultiAssign.Proofs.Encoding
import MultiAssign.Proofs.SoundEdits
import MultiAssign.Proofs.FileTree
import MultiAssign.Proofs.CheckedFiles
import MultiAssign.Proofs.LineEnds
import MultiAssign.Proofs.Variables
import MultiAssign.Proofs.VariableCounts
import MultiAssign.Proofs.ReadingVariables
import MultiAssign.Proofs.ZeroExit
import MultiAssign.Proofs.Circles
import MultiAssign.Proofs.SyntaxAlone
import MultiAssign.Proofs.Reports
import MultiAssign.Proofs.KeptText
import MultiAssign.Proofs.ListedOrder
import MultiAssign.Proofs.KnownNames
import MultiAssign.Proofs.Places
import MultiAssign.Proofs.VisibleLocals
import MultiAssign.Proofs.QuotedWords
import MultiAssign.Proofs.Rows
import MultiAssign.Proofs.Heredocs
import MultiAssign.Proofs.Selection
import MultiAssign.Proofs.Splicing
import MultiAssign.Proofs.Boundaries
import MultiAssign.Proofs.MadeNodes
import MultiAssign.Proofs.SpelledWords
import MultiAssign.Proofs.LineOrder
import MultiAssign.Proofs.ExactExit
import MultiAssign.Proofs.PatternValues
import MultiAssign.Proofs.WholeCharacters
import MultiAssign.Proofs.CollectedFiles
import MultiAssign.Proofs.NestedRanges
import MultiAssign.Proofs.RefinedSettings
import MultiAssign.Proofs.DeepReads
import MultiAssign.Proofs.Preorder
import MultiAssign.Proofs.EscapedWords
