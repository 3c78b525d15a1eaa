/-!
# Lines

A line ends at a line feed, and one carriage return directly before that line
feed belongs to the line end.  A carriage return anywhere else is an ordinary
character.  The text after the last line feed is a line only if it is not
empty.
-/

namespace InstructionCatalog.Text

/-- Remove the carriage return that precedes a line feed; `line` is reversed. -/
def dropReturn : List Char → List Char
  | '\r' :: line => line
  | line => line

/-- `line` holds the line being read, last character first. -/
def linesFrom (line : List Char) : List Char → List (List Char)
  | [] => if line.isEmpty then [] else [line.reverse]
  | c :: cs =>
      if c = '\n' then (dropReturn line).reverse :: linesFrom [] cs
      else linesFrom (c :: line) cs

def lines (s : String) : List String :=
  (linesFrom [] s.toList).map String.ofList

def joinWith (separator : String) : List String → String
  | [] => ""
  | [s] => s
  | s :: t :: rest => s ++ separator ++ joinWith separator (t :: rest)

end InstructionCatalog.Text
