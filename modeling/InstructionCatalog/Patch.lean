import InstructionCatalog.Catalog.Basic
import InstructionCatalog.Markup.Parser
import InstructionCatalog.Reconcile

/-!
# Patches

A patch is a batch of records to be added to a catalog or reconciled with the
records it holds.  Every entry has an outcome; one without a name is skipped
and does not stop the others.
-/

namespace InstructionCatalog

open Markup

namespace Patch

inductive Entry where
  | record (r : Record)
  | nameless
  deriving DecidableEq, Repr

inductive SkipReason where
  | missingName
  | refused (cause : CatalogError)
  deriving DecidableEq, Repr

inductive Outcome where
  | added (name : String)
  | merged (name : String)
  | replaced (name : String)
  | skipped (position : Nat) (name : Option String) (reason : SkipReason)
  deriving DecidableEq, Repr

def SkipReason.message : SkipReason → String
  | missingName => "missing 'name' attribute"
  | refused (.duplicateName name) => s!"'{name}' already exists"
  | refused cause => cause.message

namespace Outcome

def isApplied : Outcome → Bool
  | skipped .. => false
  | _ => true

def display : Outcome → String
  | added name => s!"Added: {name}"
  | merged name => s!"Merged: {name}"
  | replaced name => s!"Replaced: {name}"
  | skipped position _ reason => s!"Skipped: #{position} (" ++ reason.message ++ ")"

def ofMode (mode : Mode) (name : String) : Outcome :=
  match mode with
  | .merge => merged name
  | .replace => replaced name

end Outcome

end Patch

structure Patch where
  entries : List Patch.Entry := []
  deriving DecidableEq, Repr

namespace Patch

def entryOf (e : Element) : Except CatalogError Entry :=
  match Record.ofElement e with
  | .ok r => .ok (.record r)
  | .error .missingName => .ok .nameless
  | .error cause => .error (.malformed .patch (.patchRecord cause) none)

/-- A patch is one record, or the records below a root of a catalog. -/
def read (text : String) : Except CatalogError Patch :=
  match parse text with
  | .error e => .error (.malformed .patch (.markup e) none)
  | .ok root =>
      if root.tag = "instruction" then do return ⟨[← entryOf root]⟩
      else if root.tag = "instructions" then do
        return ⟨← (root.childrenNamed "instruction").mapM entryOf⟩
      else .error (.patchRoot root.tag)

end Patch

namespace Catalog

def applyRecord (mode : Mode) (c : Catalog) (incoming : Record) :
    Except CatalogError (Catalog × Patch.Outcome) :=
  let name := Text.lower incoming.name
  match c.find? name with
  | none => (c.insert incoming).map fun (updated, _) => (updated, .added name)
  | some stored =>
      (c.replace name (Record.reconcile mode stored incoming)).map fun (updated, _) =>
        (updated, .ofMode mode name)

def applyEntry (mode : Mode) (position : Nat) (c : Catalog) :
    Patch.Entry → Catalog × Patch.Outcome
  | .nameless => (c, .skipped position none .missingName)
  | .record incoming =>
      match c.applyRecord mode incoming with
      | .ok applied => applied
      | .error e => (c, .skipped position (some (Text.lower incoming.name)) (.refused e))

/-- Apply entries in order, the first of which stands at `position`. -/
def applyEntries (mode : Mode) (position : Nat) (c : Catalog) :
    List Patch.Entry → Catalog × List Patch.Outcome
  | [] => (c, [])
  | entry :: rest =>
      let (next, outcome) := c.applyEntry mode position entry
      let (last, outcomes) := next.applyEntries mode (position + 1) rest
      (last, outcome :: outcomes)

def applyPatch (c : Catalog) (patch : Patch) (mode : Mode) : Catalog × List Patch.Outcome :=
  c.applyEntries mode 1 patch.entries

end Catalog

end InstructionCatalog
