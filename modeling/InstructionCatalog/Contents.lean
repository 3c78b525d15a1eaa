/-!
# Contents of files and streams

Bytes are text when they decode as UTF-8.  A stream that is read line by line
is decoded line by line.
-/

namespace InstructionCatalog

inductive Contents where
  | text (value : String)
  | binary (bytes : List UInt8)
  deriving DecidableEq, Repr

namespace Contents

def ofBytes (bytes : List UInt8) : Contents :=
  match String.fromUTF8? ⟨bytes.toArray⟩ with
  | some value => .text value
  | none => .binary bytes

/-- Bytes up to each line feed; `line` holds the line being read, last byte first. -/
def byteLinesFrom (line : List UInt8) : List UInt8 → List (List UInt8)
  | [] => if line.isEmpty then [] else [line.reverse]
  | b :: bytes =>
      if b = 10 then line.reverse :: byteLinesFrom [] bytes
      else byteLinesFrom (b :: line) bytes

def lines (bytes : List UInt8) : List Contents :=
  (byteLinesFrom [] bytes).map ofBytes

end Contents

end InstructionCatalog
