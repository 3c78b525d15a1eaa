import InstructionCatalog.Markup.Error
import InstructionCatalog.Record.Basic

/-!
# Errors

Causes of failure and their wording.
-/

namespace InstructionCatalog

open Markup

inductive ReadError where
  | missing
  | directory
  | notDirectory
  | notText
  deriving DecidableEq, Repr

inductive Origin where
  | database
  | patch
  | buffer
  deriving DecidableEq, Repr

/-- What is wrong with a text that should hold records. -/
inductive Defect where
  | markup (cause : MarkupError)
  | databaseRoot (found : String)
  | unexpectedChild (tag : String) (position : Nat)
  | badRecord (position : Nat) (cause : RecordError)
  | repeatedName (name : String)
  | patchRecord (cause : RecordError)
  | bufferRoot (found : String)
  | bufferName
  deriving DecidableEq, Repr

inductive CatalogError where
  | databaseNotFound (path : String)
  | recordNotFound (name : String)
  | malformed (origin : Origin) (defect : Defect) (scratch : Option String)
  | duplicateName (name : String)
  | patchRoot (tag : String)
  | cancelled
  | editAbandoned (scratch : String)
  | editor (program detail : String)
  | unreadable (path : String) (cause : ReadError)
  deriving DecidableEq, Repr

def ReadError.message : ReadError → String
  | missing => "No such file or directory (os error 2)"
  | directory => "Is a directory (os error 21)"
  | notDirectory => "Not a directory (os error 20)"
  | notText => "stream did not contain valid UTF-8"

def Origin.name : Origin → String
  | database => "database"
  | patch => "patch input"
  | buffer => "edited instruction"

def Defect.message : Defect → String
  | markup cause => cause.message
  | databaseRoot found => s!"root element must be <instructions>, got <{found}>"
  | unexpectedChild tag position =>
      s!"unexpected <{tag}> at position {position} in <instructions>"
  | badRecord position cause => s!"record #{position}: " ++ cause.message
  | repeatedName name => s!"instruction '{name}' appears more than once"
  | patchRecord cause => cause.message
  | bufferRoot found => s!"root element must be <instruction>, got <{found}>"
  | bufferName => "the 'name' attribute is missing or empty"

/-- Where a buffer that could not be used has been left. -/
def scratchHint (path : String) : String :=
  s!"\n  Your changes are saved in: {path}"

def CatalogError.message : CatalogError → String
  | databaseNotFound path =>
      s!"instruction database not found: {path}\n" ++
        "  To fix: pass the right path with --db, or set [database] path in insdb.toml."
  | recordNotFound name =>
      s!"instruction '{name}' not found in database.\n" ++
        "  To fix: check available names:\n    insdb list"
  | malformed origin defect scratch =>
      s!"malformed {origin.name}: " ++ defect.message ++ scratch.elim "" scratchHint
  | duplicateName name =>
      s!"instruction '{name}' already exists in database.\n" ++
        s!"  To fix: use `insdb edit {name}` or `insdb patch` to change it."
  | patchRoot tag => s!"root element must be <instruction> or <instructions>, got <{tag}>"
  | cancelled => "cancelled by user"
  | editAbandoned scratch =>
      "edit abandoned: the editor exited unsuccessfully, nothing was written." ++
        scratchHint scratch ++
        "\n  To fix: apply the kept file with `insdb patch -m replace <file>`."
  | editor program detail =>
      s!"could not run editor '{program}': {detail}\n" ++
        "  To fix: set $EDITOR or [editor] command in insdb.toml."
  | unreadable path cause => s!"I/O error on {path}: " ++ cause.message

/-- The failure of the system behind an error, if there is one. -/
def CatalogError.source? : CatalogError → Option String
  | unreadable _ cause => some cause.message
  | _ => none

end InstructionCatalog
