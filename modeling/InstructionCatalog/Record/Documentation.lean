import InstructionCatalog.Record.Prose

/-!
# Documentation

The long-form part of a record: five topics, each a text field, and any other
children as they came.  Of several children for one topic the first is its
field and the others stay among the other children.
-/

namespace InstructionCatalog

open Markup

inductive Topic where
  | summary
  | description
  | operation
  | flagsAffected
  | notes
  deriving DecidableEq, Repr

namespace Topic

def all : List Topic :=
  [summary, description, operation, flagsAffected, notes]

def tag : Topic → String
  | summary => "summary"
  | description => "description"
  | operation => "operation"
  | flagsAffected => "flags-affected"
  | notes => "notes"

def label : Topic → String
  | summary => "Summary"
  | description => "Description"
  | operation => "Operation"
  | flagsAffected => "Flags Affected"
  | notes => "Notes"

def ofTag? (tag : String) : Option Topic :=
  all.find? fun topic => topic.tag = tag

end Topic

structure Documentation where
  attributes : Attributes := []
  summary : Option Prose := none
  description : Option Prose := none
  operation : Option Prose := none
  flagsAffected : Option Prose := none
  notes : Option Prose := none
  extra : List Element := []
  deriving DecidableEq, Repr, Inhabited

namespace Documentation

def get? (d : Documentation) : Topic → Option Prose
  | .summary => d.summary
  | .description => d.description
  | .operation => d.operation
  | .flagsAffected => d.flagsAffected
  | .notes => d.notes

/-- A documentation whose topics are given by a function. -/
def ofTopics (attributes : Attributes) (field : Topic → Option Prose) (extra : List Element) :
    Documentation where
  attributes := attributes
  summary := field .summary
  description := field .description
  operation := field .operation
  flagsAffected := field .flagsAffected
  notes := field .notes
  extra := extra

def isEmpty (d : Documentation) : Bool :=
  Topic.all.all (fun topic => (d.get? topic).isNone) && d.attributes.isEmpty && d.extra.isEmpty

def removeFirsts (tags : List String) (children : List Element) : List Element :=
  tags.foldl (fun rest tag => rest.eraseP fun child => child.tag = tag) children

def ofElement (e : Element) : Documentation :=
  ofTopics e.attributes (fun topic => (e.child? topic.tag).map Prose.ofElement)
    (Element.stripLayoutAll (removeFirsts (Topic.all.map Topic.tag) e.children))

def toElement (d : Documentation) : Element where
  tag := "documentation"
  attributes := d.attributes
  children :=
    Topic.all.filterMap (fun topic => (d.get? topic).map (Prose.toElement topic.tag)) ++ d.extra

end Documentation

end InstructionCatalog
