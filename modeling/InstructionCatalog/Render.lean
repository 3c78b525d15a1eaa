import InstructionCatalog.Catalog.Listing
import InstructionCatalog.Patch
import InstructionCatalog.Record.Encoding

/-!
# Output

Records and listings for people, and their JSON form for programs.
-/

namespace InstructionCatalog

open Markup

inductive Format where
  | text
  | json
  deriving DecidableEq, Repr

namespace Render

/-- Characters between the separators of a tag; `word` is kept last character first. -/
def tagWordsFrom (word : List Char) : List Char → List (List Char)
  | [] => [word.reverse]
  | c :: cs =>
      if c = '-' ∨ c = '_' ∨ c = ' ' then word.reverse :: tagWordsFrom [] cs
      else tagWordsFrom (c :: word) cs

def title (tag : String) : String :=
  let words := (tagWordsFrom [] tag.toList).filter fun word => !word.isEmpty
  Text.joinWith " " (words.map fun word => Text.capitalize (String.ofList word))

def rule (c : Char) : String :=
  String.ofList (List.replicate 60 c)

def padRight (width : Nat) (s : String) : String :=
  s ++ String.ofList (List.replicate (width - s.length) ' ')

/-- A labelled line, left out when the text is blank. -/
def labelled (label text : String) : String :=
  if Text.isBlank text then "" else label ++ ": " ++ Text.trim text ++ "\n"

def documentation (d : Documentation) : String :=
  "\nDocumentation:\n" ++
    String.join (Topic.all.map fun topic =>
      labelled ("  " ++ topic.label) ((d.get? topic).elim "" Prose.text)) ++
    String.join (d.extra.map fun e => labelled ("  " ++ title e.tag) e.content)

/-- Numbered lines, the first with number `n`. -/
def numberedFrom (n : Nat) : List Variant → String
  | [] => ""
  | variant :: rest =>
      s!"  {n}. " ++ Variant.display variant ++ "\n" ++ numberedFrom (n + 1) rest

def record (r : Record) : String :=
  s!"\nInstruction: {r.name}\nCategory: {r.categoryOrUnknown}\n" ++ rule '-' ++ "\n" ++
    labelled "\nDescription" (r.description.elim "" Prose.text) ++
    r.documentation.elim "" documentation ++
    r.variants.elim "" (fun v => "\nVariants:\n" ++ numberedFrom 1 v.list) ++ "\n"

def listing (rows : List Row) : String :=
  s!"Found {rows.length} instruction(s):\n\n" ++
    String.join (rows.map fun row => s!"  {padRight 20 row.name} [{row.category}]\n")

end Render

def Row.toJson (row : Row) : Json :=
  .object [("name", .string row.name), ("category", .string row.category)]

def Patch.Outcome.toJson : Patch.Outcome → Json
  | added name => .object [("action", .string "added"), ("name", .string name)]
  | merged name => .object [("action", .string "merged"), ("name", .string name)]
  | replaced name => .object [("action", .string "replaced"), ("name", .string name)]
  | skipped position name reason =>
      .object [("action", .string "skipped"), ("position", .number position),
        ("name", name.elim .null .string), ("reason", .string reason.message)]

namespace Format

def ofName? : String → Option Format
  | "text" => some text
  | "json" => some json
  | _ => none

def renderRecord (format : Format) (r : Record) : String :=
  match format with
  | text => Render.record r
  | json => r.toJson.pretty

def renderListing (format : Format) (rows : List Row) : String :=
  match format with
  | text => Render.listing rows
  | json => (Json.array (rows.map Row.toJson)).pretty

end Format

end InstructionCatalog
