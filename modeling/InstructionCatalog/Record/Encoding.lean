import InstructionCatalog.Json
import InstructionCatalog.Record.Basic

/-!
# Records as JSON

Absent and empty parts are left out; text fields are shown as their character
data and variants through their typed view.
-/

namespace InstructionCatalog

open Markup

namespace Json

/-- A field that is left out when there is nothing to show. -/
def optionalField (key : String) (value : Option Json) : List (String × Json) :=
  (value.map fun v => (key, v)).toList

def listField (key : String) (items : List Json) : List (String × Json) :=
  if items.isEmpty then [] else [(key, .array items)]

end Json

def Markup.Attributes.toJson (attributes : Attributes) : List Json :=
  attributes.map fun (key, value) => .array [.string key, .string value]

namespace Markup.Element

mutual

/-- Tails are not shown. -/
def toJson : Element → Json
  | ⟨tag, attributes, text, _, children⟩ =>
      .object <|
        ("tag", .string tag) :: Json.listField "attributes" attributes.toJson ++
          Json.optionalField "text" (text.map .string) ++
          Json.listField "children" (toJsonAll children)

def toJsonAll : List Element → List Json
  | [] => []
  | e :: rest => toJson e :: toJsonAll rest

end

end Markup.Element

def Prose.toJson (p : Prose) : Json :=
  .string p.text

def Documentation.toJson (d : Documentation) : Json :=
  .object <|
    Json.listField "attributes" d.attributes.toJson ++
      Topic.all.flatMap (fun topic =>
        Json.optionalField topic.tag ((d.get? topic).map Prose.toJson)) ++
      Json.listField "extra" (Element.toJsonAll d.extra)

def Operand.toJson (operand : Operand) : Json :=
  .object <|
    ("type", .string operand.kind) ::
      if operand.optional then [("optional", .bool true)] else []

def Variants.toJson (v : Variants) : Json :=
  .array (v.list.map fun variant => .array (variant.map Operand.toJson))

def Record.toJson (r : Record) : Json :=
  .object <|
    ("name", .string r.name) :: Json.optionalField "category" (r.category.map .string) ++
      Json.listField "attributes" r.attributes.toJson ++
      Json.optionalField "description" (r.description.map Prose.toJson) ++
      Json.optionalField "documentation" (r.documentation.map Documentation.toJson) ++
      Json.optionalField "variants" (r.variants.map Variants.toJson) ++
      Json.listField "extra" (Element.toJsonAll r.extra)

end InstructionCatalog
