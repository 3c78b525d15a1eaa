import InstructionCatalog.Markup.Layout
import InstructionCatalog.Text.Lines

/-!
# Variants

The operand combinations of an instruction.  The block is kept as an element,
so that what it holds besides variants and operands is not lost; `list` is the
typed view of it.
-/

namespace InstructionCatalog

open Markup

structure Operand where
  kind : String
  optional : Bool := false
  deriving DecidableEq, Repr, Inhabited

abbrev Variant := List Operand

structure Variants where
  block : Element
  deriving DecidableEq, Repr, Inhabited

namespace Operand

def ofElement (e : Element) : Operand where
  kind := (e.value? "type").getD ""
  optional := e.value? "optional" = some "true"

def toElement (operand : Operand) : Element where
  tag := "operand"
  attributes :=
    (if operand.kind.isEmpty then [] else [("type", operand.kind)]) ++
      (if operand.optional then [("optional", "true")] else [])

def display (operand : Operand) : String :=
  let kind := if operand.kind.isEmpty then "UNKNOWN" else operand.kind
  if operand.optional then "[" ++ kind ++ "]" else kind

end Operand

namespace Variant

def ofElement (e : Element) : Variant :=
  (e.childrenNamed "operand").map Operand.ofElement

def toElement (variant : Variant) : Element where
  tag := "variant"
  children := variant.map Operand.toElement

def display (variant : Variant) : String :=
  Text.joinWith " | " (variant.map Operand.display)

end Variant

namespace Variants

def ofElement (e : Element) : Variants where
  block := (e.withTail none).stripLayout

def ofList (variants : List Variant) : Variants where
  block := { tag := "variants", children := variants.map Variant.toElement }

def list (v : Variants) : List Variant :=
  (v.block.childrenNamed "variant").map Variant.ofElement

def size (v : Variants) : Nat :=
  (v.block.childrenNamed "variant").length

end Variants

end InstructionCatalog
