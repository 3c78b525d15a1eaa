import InstructionCatalog.Proofs.Catalog.EditReport
import InstructionCatalog.Proofs.Catalog.PatchFold
import InstructionCatalog.Proofs.Edit.Buffer
import InstructionCatalog.Proofs.Markup.Omission
import InstructionCatalog.Proofs.Record.Squeezed

/-!
# Buffers with other framing

On the way back from a buffer every line is dropped that begins like a
declaration or a comment.  If the dropped lines hold nothing else, or lie inside
a comment, an instruction or a document type, the record that is read agrees up
to white space with the record that the whole buffer holds, and so does what a
catalog stores of the two.
-/

namespace InstructionCatalog

open Markup Text

namespace Buffer

/-! ## Lines that can be dropped -/

end Buffer

/-! ## Records -/

namespace Record

end Record

namespace Catalog

variable {c : Catalog}

end Catalog

namespace Record

end Record

end InstructionCatalog
