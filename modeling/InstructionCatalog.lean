import InstructionCatalog.Catalog.Listing
import InstructionCatalog.Catalog.Text
import InstructionCatalog.Command.FileTree
import InstructionCatalog.Command.Run
import InstructionCatalog.Config
import InstructionCatalog.Dialogue
import InstructionCatalog.Journal.Narration
import InstructionCatalog.Main
import InstructionCatalog.Markup.Layout
import InstructionCatalog.Markup.Parser
import InstructionCatalog.Markup.Printer
import InstructionCatalog.Patch
import InstructionCatalog.Proofs.Catalog.Bindings
import InstructionCatalog.Proofs.Catalog.Ordered
import InstructionCatalog.Proofs.Catalog.PatchFold
import InstructionCatalog.Proofs.Catalog.Run
import InstructionCatalog.Proofs.Catalog.SaveLoad
import InstructionCatalog.Proofs.Markup.Escape
import InstructionCatalog.Proofs.Markup.Reading
import InstructionCatalog.Proofs.Markup.RoundTrip
import InstructionCatalog.Proofs.Markup.StartTag
import InstructionCatalog.Proofs.Record.Merge
import InstructionCatalog.Reconcile
import InstructionCatalog.Record.Encoding
import InstructionCatalog.Render
import InstructionCatalog.Text.Case
import InstructionCatalog.Text.Infix
import InstructionCatalog.Text.Lines
import InstructionCatalog.Text.Space
import InstructionCatalog.Proofs.Catalog.PatchAgain
import InstructionCatalog.Proofs.Catalog.LoadedAsPatch
import InstructionCatalog.Proofs.Command.Effect
import InstructionCatalog.Proofs.Command.Readable
import InstructionCatalog.Proofs.LineEnds
import InstructionCatalog.Proofs.Markup.Strings
import InstructionCatalog.Proofs.Record.Strings
import InstructionCatalog.Proofs.Edit.Buffer
import InstructionCatalog.Proofs.Markup.Content
import InstructionCatalog.Proofs.Record.Content
import InstructionCatalog.Proofs.Catalog.Content
import InstructionCatalog.Proofs.Command.AllOrNothing
import InstructionCatalog.Proofs.Markup.SingleRoot
import InstructionCatalog.Proofs.Record.MergeTable
import InstructionCatalog.Proofs.Catalog.LoadByInsertion
import InstructionCatalog.Proofs.Markup.Indentation
import InstructionCatalog.Proofs.Record.Rearrangement
import InstructionCatalog.Proofs.Catalog.EditReport
import InstructionCatalog.Proofs.Catalog.Blocks
import InstructionCatalog.Proofs.Catalog.FieldText
import InstructionCatalog.Proofs.Markup.Squeezed
import InstructionCatalog.Proofs.Markup.Pieces
import InstructionCatalog.Proofs.Markup.Omission
import InstructionCatalog.Proofs.Record.Squeezed
import InstructionCatalog.Proofs.Edit.Framing
import InstructionCatalog.Proofs.Record.Variants
import InstructionCatalog.Proofs.Catalog.Listing
import InstructionCatalog.Proofs.Dialogue.Script
