import InstructionCatalog.Markup.Layout

/-!
# Prose

The value of a text field.  Most are plain character data.  A field with
attributes or elements of its own keeps all of them, without layout and without
the tag, which the field's place decides.
-/

namespace InstructionCatalog

open Markup

inductive Prose where
  | plain (text : String)
  | marked (attributes : Attributes) (text : Option String) (children : List Element)
  deriving DecidableEq, Repr, Inhabited

namespace Prose

def dropEmpty (slot : Option String) : Option String :=
  if slot = some "" then none else slot

def ofElement (e : Element) : Prose :=
  if e.attributes.isEmpty ∧ e.children.isEmpty then .plain e.textOrEmpty
  else
    .marked e.attributes (if e.children.isEmpty then dropEmpty e.text else clearBlank e.text)
      (Element.stripLayoutAll e.children)

def toElement (tag : String) : Prose → Element
  | .plain text => { tag, text := some text }
  | .marked attributes text children => { tag, attributes, text, children }

def text : Prose → String
  | .plain text => text
  | .marked _ text children => text.getD "" ++ Element.contentAll children

def isMarked : Prose → Bool
  | .plain _ => false
  | .marked .. => true

end Prose

end InstructionCatalog
