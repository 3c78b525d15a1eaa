import InstructionCatalog.Catalog.Basic
import InstructionCatalog.Contents
import InstructionCatalog.Edit.Buffer

/-!
# Edit sessions

An editor is given a scratch file with the buffer of a record.  What it leaves
there is read back and applied.  The scratch file stays on disk when its text
could not be used, and when the editor gave up after changing it.
-/

namespace InstructionCatalog

inductive EditorResult where
  | finished
  | failed (cause : CatalogError)
  deriving DecidableEq, Repr

namespace EditorResult

/-- The user abandoned the edit. -/
@[match_pattern] abbrev gaveUp : EditorResult :=
  failed .cancelled

/-- The editor could not be run. -/
@[match_pattern] abbrev broken (program detail : String) : EditorResult :=
  failed (.editor program detail)

end EditorResult

/-- How an editor ended and what it left in the scratch file, if that still exists. -/
structure EditorRun where
  result : EditorResult
  scratch : Option Contents
  deriving DecidableEq, Repr

abbrev Editor := String → EditorRun

/-- The result of a session, and the scratch file if it was left on disk. -/
structure EditOutcome where
  result : Except CatalogError (Catalog × Catalog.Change)
  kept : Option Contents := none

namespace EditorRun

def readBack (run : EditorRun) (path : String) : Except CatalogError String :=
  match run.scratch with
  | none => .error (.unreadable path .missing)
  | some (.binary _) => .error (.unreadable path .notText)
  | some (.text value) => .ok value

/-- The scratch file can be read and differs from the buffer. -/
def isModified (run : EditorRun) (buffer : String) : Bool :=
  match run.scratch with
  | some (.text value) => value ≠ buffer
  | _ => false

end EditorRun

/-- An error about the buffer says where the buffer is. -/
def CatalogError.keptAt (path : String) : CatalogError → CatalogError
  | malformed origin defect _ => malformed origin defect (some path)
  | e => e

namespace Catalog

def applyScratch (c : Catalog) (name path : String) (run : EditorRun) :
    Except CatalogError (Catalog × Change) := do
  c.applyEdit name (← Record.ofBuffer (← run.readBack path))

def afterEditor (c : Catalog) (name path buffer : String) (run : EditorRun) : EditOutcome :=
  match run.result with
  | .gaveUp =>
      if run.isModified buffer then
        { result := .error (.editAbandoned path), kept := run.scratch }
      else { result := .error .cancelled }
  | .failed cause => { result := .error cause }
  | .finished =>
      match c.applyScratch name path run with
      | .ok done => { result := .ok done }
      | .error e => { result := .error (e.keptAt path), kept := run.scratch }

/-- Edit the record `name` in a scratch file, for which a path may not be had. -/
def runEdit (c : Catalog) (name : String) (scratch : Except CatalogError String)
    (editor : Editor) : EditOutcome :=
  match c.find? name, scratch with
  | none, _ => { result := .error (.recordNotFound name) }
  | some _, .error e => { result := .error e }
  | some r, .ok path => c.afterEditor name path r.toBuffer (editor r.toBuffer)

end Catalog

end InstructionCatalog
