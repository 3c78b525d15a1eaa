import InstructionCatalog.Record.Documentation
import InstructionCatalog.Record.Variants
import InstructionCatalog.Text.Case

/-!
# Records

One instruction of the catalog.  The name is its identity and compares without
regard to case.  The first description, documentation and variants child of the
element are its known parts; all other children are kept as they came, without
layout.
-/

namespace InstructionCatalog

open Markup

structure Record where
  name : String := ""
  category : Option String := none
  attributes : Attributes := []
  description : Option Prose := none
  documentation : Option Documentation := none
  variants : Option Variants := none
  extra : List Element := []
  deriving DecidableEq, Repr, Inhabited

inductive RecordError where
  | wrongTag (found : String)
  | missingName
  deriving DecidableEq, Repr

def RecordError.message : RecordError → String
  | wrongTag found => s!"expected <instruction>, found <{found}>"
  | missingName => "<instruction> has no 'name' attribute"

namespace Record

/-- A record with a description only; its name is lower-cased, its category upper-cased. -/
def simple (name category description : String) : Record where
  name := Text.lower name
  category := some (Text.upper category)
  description := some (.plain description)

def isNamed (r : Record) (name : String) : Bool :=
  Text.lower r.name = Text.lower name

def lowered (r : Record) : Record :=
  { r with name := Text.lower r.name }

def categoryOrUnknown (r : Record) : String :=
  r.category.getD "UNKNOWN"

/-- Attributes include the name and the category. -/
def value? (r : Record) (key : String) : Option String :=
  if key = "name" then some r.name
  else if key = "category" then r.category
  else r.attributes.value? key

def setAttribute (r : Record) (key value : String) : Record :=
  if key = "name" then { r with name := value }
  else if key = "category" then { r with category := some value }
  else { r with attributes := r.attributes.put key value }

def setAttributes (r : Record) (changes : Attributes) : Record :=
  changes.foldl (fun acc change => acc.setAttribute change.1 change.2) r

/-- The tags of the children that have a field of their own. -/
def knownTags : List String :=
  ["description", "documentation", "variants"]

def ofElement (e : Element) : Except RecordError Record :=
  let named := setAttributes {} e.attributes
  if e.tag ≠ "instruction" then .error (.wrongTag e.tag)
  else if named.name = "" then .error .missingName
  else
    .ok { named with
      description := (e.child? "description").map Prose.ofElement
      documentation := (e.child? "documentation").map Documentation.ofElement
      variants := (e.child? "variants").map Variants.ofElement
      extra := Element.stripLayoutAll (Documentation.removeFirsts knownTags e.children) }

def toElement (r : Record) : Element where
  tag := "instruction"
  attributes :=
    Attributes.putAll [("name", r.name)]
      ((r.category.map fun category => ("category", category)).toList ++ r.attributes)
  children :=
    (r.description.map (Prose.toElement "description")).toList ++
      (r.documentation.map Documentation.toElement).toList ++
      (r.variants.map Variants.block).toList ++ r.extra

/-- The text fields that hold more than plain character data. -/
def markedFields (r : Record) : List String :=
  let topics := fun (d : Documentation) =>
    Topic.all.filter fun topic => (d.get? topic).any Prose.isMarked
  (if r.description.any Prose.isMarked then ["description"] else []) ++
    (r.documentation.elim [] topics).map fun topic => "documentation." ++ topic.tag

end Record

end InstructionCatalog
