import InstructionCatalog.Markup.Element
import InstructionCatalog.Markup.Entity

/-!
# Writing elements

An element without children and character data is written as one empty tag.
Attribute values stand in double quotes.
-/

namespace InstructionCatalog.Markup

def declaration : String :=
  "<?xml version='1.0' encoding='UTF-8'?>"

def attributeChars (attributes : Attributes) : List Char :=
  attributes.flatMap fun (key, value) =>
    ' ' :: key.toList ++ '=' :: '"' :: Entity.escapeValue value.toList ++ ['"']

def slotChars (slot : Option String) : List Char :=
  Entity.escapeData (slot.getD "").toList

namespace Element

mutual

def chars : Element → List Char
  | ⟨tag, attributes, text, _, children⟩ =>
      '<' :: tag.toList ++ attributeChars attributes ++
        if children.isEmpty && (text.getD "").isEmpty then [' ', '/', '>']
        else
          '>' :: slotChars text ++ charsAll children ++ '<' :: '/' :: tag.toList ++ ['>']

def charsAll : List Element → List Char
  | [] => []
  | e :: rest => chars e ++ slotChars e.tail ++ charsAll rest

end

/-- The element alone, without its tail. -/
def fragment (e : Element) : String :=
  String.ofList e.chars

/-- A whole document: the declaration line, the element and its tail. -/
def document (e : Element) : String :=
  declaration ++ "\n" ++ String.ofList (e.chars ++ slotChars e.tail)

end Element

end InstructionCatalog.Markup
