import InstructionCatalog.Record.Basic

/-!
# Reconciling records

An incoming record either replaces the stored one or is merged into it.  A
merge takes what the incoming record supplies and keeps the rest: attributes by
key, text fields and variants as a whole, documentation topic by topic, and of
the other children the n-th with a tag takes the place of the n-th stored one
with that tag.
-/

namespace InstructionCatalog

open Markup

inductive Mode where
  | merge
  | replace
  deriving DecidableEq, Repr, Inhabited

namespace Mode

def name : Mode → String
  | merge => "merge"
  | replace => "replace"

def ofName? (name : String) : Option Mode :=
  [merge, replace].find? fun mode => mode.name = name

end Mode

/-- The first element with a tag, and all the others in order. -/
def takeTagged (tag : String) : List Element → Option (Element × List Element)
  | [] => none
  | e :: rest =>
      if e.tag = tag then some (e, rest)
      else (takeTagged tag rest).map fun (found, others) => (found, e :: others)

/-- Surplus incoming children are appended in their order. -/
def mergeChildren : (stored incoming : List Element) → List Element
  | [], incoming => incoming
  | e :: rest, incoming =>
      match takeTagged e.tag incoming with
      | some (found, others) => found :: mergeChildren rest others
      | none => e :: mergeChildren rest incoming

def Documentation.merge (stored incoming : Documentation) : Documentation :=
  ofTopics (stored.attributes.putAll incoming.attributes)
    (fun topic => (incoming.get? topic).or (stored.get? topic))
    (mergeChildren stored.extra incoming.extra)

namespace Record

def mergeDocumentation : (stored incoming : Option Documentation) → Option Documentation
  | stored, none => stored
  | none, some incoming => some incoming
  | some stored, some incoming => some (stored.merge incoming)

def merge (stored incoming : Record) : Record :=
  let renamed := { stored with
    name := incoming.name
    category := incoming.category.or stored.category }
  { renamed.setAttributes incoming.attributes with
    description := incoming.description.or stored.description
    documentation := mergeDocumentation stored.documentation incoming.documentation
    variants := incoming.variants.or stored.variants
    extra := mergeChildren stored.extra incoming.extra }

def reconcile (mode : Mode) (stored incoming : Record) : Record :=
  match mode with
  | .replace => incoming
  | .merge => stored.merge incoming

end Record

end InstructionCatalog
