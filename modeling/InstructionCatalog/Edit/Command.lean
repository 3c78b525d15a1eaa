import InstructionCatalog.Text.Space

/-!
# The editor command

The first of the configured command, `$VISUAL` and `$EDITOR` that is not blank,
split into words.
-/

namespace InstructionCatalog

structure EditorCommand where
  program : String
  arguments : List String
  deriving DecidableEq, Repr

namespace EditorCommand

def default : String :=
  "vim"

def ofLine (line : String) : EditorCommand :=
  match Text.words line with
  | [] => ⟨default, []⟩
  | program :: arguments => ⟨program, arguments⟩

def choose (configured visual editor : Option String) : EditorCommand :=
  let candidates := [configured, visual, editor].filterMap id
  ofLine ((candidates.find? fun line => !Text.isBlank line).getD default)

end EditorCommand

end InstructionCatalog
