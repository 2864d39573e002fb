import SheetScript.Main
import SheetScript.Proofs.Accounting
import SheetScript.Proofs.BoundedStack
import SheetScript.Proofs.ClosedSessions
import SheetScript.Proofs.Landing
import SheetScript.Proofs.MacroUndo
import SheetScript.Proofs.Refusals
import SheetScript.Proofs.SeparateRuns
import SheetScript.Proofs.Undo
import SheetScript.Proofs.Validity
import SheetScript.Sheet.Stored
import SheetScript.Workbook.Host
import SheetScript.Proofs.Fences
import SheetScript.Proofs.LineGrammar
import SheetScript.Proofs.Prose
import SheetScript.Proofs.Expansions
import SheetScript.Proofs.Sources
import SheetScript.Proofs.WireForm
import SheetScript.Proofs.CheckedTurns
import SheetScript.Proofs.SortedRows
import SheetScript.Proofs.Footprints
import SheetScript.Proofs.UndoneWrites
import SheetScript.Proofs.SheetNames
import SheetScript.Proofs.CodeBlocks
import SheetScript.Proofs.UndoneCharts
import SheetScript.Proofs.UndoneCopies
import SheetScript.Proofs.CommandLines
import SheetScript.Proofs.SortedBlocks
import SheetScript.Proofs.BlockCopies
import SheetScript.Proofs.LineMoves
import SheetScript.Proofs.BlockWrites
import SheetScript.Proofs.SheetAddresses
import SheetScript.Proofs.CanonicalTexts
import SheetScript.Proofs.DeletedCharts
import SheetScript.Proofs.ByteOrder
import SheetScript.Proofs.LoadedSheets
import SheetScript.Proofs.TrapFree
