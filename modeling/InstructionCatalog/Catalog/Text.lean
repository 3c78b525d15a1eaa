import InstructionCatalog.Catalog.Basic
import InstructionCatalog.Markup.Parser
import InstructionCatalog.Markup.Printer

/-!
# The text of a catalog

A catalog is written as one root element with a child for each record.
Reading lower-cases the names, refuses a name that occurs twice and restores
the order.
-/

namespace InstructionCatalog

open Markup

namespace Catalog

def recordAt (position : Nat) (child : Element) : Except Defect Record :=
  if child.tag ≠ "instruction" then .error (.unexpectedChild child.tag position)
  else
    match Record.ofElement child with
    | .ok r => .ok r
    | .error e => .error (.badRecord position e)

/-- The records of siblings, the first of which stands at `position`. -/
def recordsFrom (position : Nat) : List Element → Except Defect (List Record)
  | [] => .ok []
  | child :: rest => do
      let r ← recordAt position child
      let records ← recordsFrom (position + 1) rest
      return r :: records

def firstRepeated (seen : List String) : List String → Option String
  | [] => none
  | name :: rest => if name ∈ seen then some name else firstRepeated (name :: seen) rest

/-- The root attributes and the records as they stand in a text. -/
def readRecords (text : String) : Except Defect (Attributes × List Record) :=
  match parse text with
  | .error e => .error (.markup e)
  | .ok root =>
      if root.tag ≠ "instructions" then .error (.databaseRoot root.tag)
      else do return (root.attributes, ← recordsFrom 1 root.children)

def sortRecords (records : List Record) : List Record :=
  records.mergeSort fun a b => decide (a.name ≤ b.name)

def readDefect (text : String) : Except Defect Catalog := do
  let (rootAttributes, found) ← readRecords text
  let records := found.map Record.lowered
  match firstRepeated [] (records.map Record.name) with
  | some name => .error (.repeatedName name)
  | none => .ok { rootAttributes, records := sortRecords records }

def read (text : String) : Except CatalogError Catalog :=
  (readDefect text).mapError fun defect => .malformed .database defect none

def toElement (c : Catalog) : Element where
  tag := "instructions"
  attributes := c.rootAttributes
  children := c.records.map Record.toElement

def render (c : Catalog) : String :=
  (c.toElement.indent 0).document

end Catalog

end InstructionCatalog
