import InstructionCatalog.Markup.Element

/-!
# Layout

Blank tails, and the blank text of an element with children, are layout: they
may be dropped or rewritten without touching content.  The text of a leaf is
content even when it is blank.
-/

namespace InstructionCatalog.Markup

def isBlankSlot : Option String → Bool
  | none => true
  | some s => Text.isBlank s

def clearBlank (slot : Option String) : Option String :=
  if isBlankSlot slot then none else slot

/-- Put `layout` where there is no content. -/
def fillBlank (layout : String) (slot : Option String) : Option String :=
  if isBlankSlot slot then some layout else slot

/-- A line break and two spaces for each level. -/
def padding (level : Nat) : String :=
  String.ofList ('\n' :: List.replicate (2 * level) ' ')

namespace Element

mutual

/-- Drop all layout, so that elements can be compared by content. -/
def stripLayout : Element → Element
  | ⟨tag, attributes, text, tail, children⟩ =>
      { tag, attributes
        text := if children.isEmpty then text else clearBlank text
        tail := clearBlank tail
        children := stripLayoutAll children }

def stripLayoutAll : List Element → List Element
  | [] => []
  | e :: rest => stripLayout e :: stripLayoutAll rest

end

mutual

/-- Lay out what is inside an element that stands at `level`. -/
def indentInside (level : Nat) : Element → Element
  | ⟨tag, attributes, text, tail, children⟩ =>
      { tag, attributes, tail
        text := if children.isEmpty then text else fillBlank (padding (level + 1)) text
        children := indentSiblings level children }

/--
Lay out the children of an element at `level`.  The end tag of that element
follows the last of them, so its tail is one level less deep.
-/
def indentSiblings (level : Nat) : List Element → List Element
  | [] => []
  | e :: rest =>
      let next := if rest.isEmpty then level else level + 1
      (indentInside (level + 1) e).withTail (fillBlank (padding next) e.tail) ::
        indentSiblings level rest

end

/--
Lay out an element that stands at `level`, one line for each tag.  An element
without children at level zero has no layout at all.
-/
def indent (level : Nat) (e : Element) : Element :=
  if level = 0 ∧ e.children.isEmpty then e
  else (indentInside level e).withTail (fillBlank (padding level) e.tail)

end Element

end InstructionCatalog.Markup
