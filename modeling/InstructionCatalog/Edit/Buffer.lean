import InstructionCatalog.Error
import InstructionCatalog.Markup.Parser
import InstructionCatalog.Markup.Printer
import InstructionCatalog.Text.Lines

/-!
# Edit buffers

A record is edited as text below two framing lines.  On the way back every
line that looks like framing is dropped before the rest is read.
-/

namespace InstructionCatalog

open Markup

namespace Buffer

def frameComment : String :=
  "<!-- Edit the instruction below. Save and close to apply changes. -->"

def isFraming (line : String) : Bool :=
  let start := (Text.trimStart line).toList
  "<?xml".toList.isPrefixOf start || "<!--".toList.isPrefixOf start

def body (buffer : String) : String :=
  Text.joinWith "\n" ((Text.lines buffer).filter fun line => !isFraming line)

end Buffer

namespace Record

def toBuffer (r : Record) : String :=
  declaration ++ "\n" ++ Buffer.frameComment ++ "\n" ++ (r.toElement.indent 0).fragment ++ "\n"

def bufferDefect : RecordError → Defect
  | .wrongTag found => .bufferRoot found
  | .missingName => .bufferName

def ofBuffer (buffer : String) : Except CatalogError Record :=
  match parse (Buffer.body buffer) with
  | .error e => .error (.malformed .buffer (.markup e) none)
  | .ok e =>
      (Record.ofElement e).mapError fun cause => .malformed .buffer (bufferDefect cause) none

end Record

end InstructionCatalog
