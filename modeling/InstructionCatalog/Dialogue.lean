import InstructionCatalog.Contents
import InstructionCatalog.Error
import InstructionCatalog.Record.Basic
import InstructionCatalog.Render

/-!
# Asking for a record

A dialogue reads answers line by line and writes prompts.  Answers are trimmed.
Name, category and description are asked for until they are given, topics may
be left blank, and a blank line ends a variant and then the list of variants.
-/

namespace InstructionCatalog

inductive Dialogue.Stop where
  | inputEnded
  | declined
  | unreadable
  deriving DecidableEq, Repr

/-- A dialogue takes the lines to come; it gives what it wrote and the lines it left. -/
def Dialogue (α : Type) :=
  List Contents → String × Except Dialogue.Stop (α × List Contents)

namespace Dialogue

def done {α : Type} (value : α) : Dialogue α :=
  fun lines => ("", .ok (value, lines))

def andThen {α β : Type} (first : Dialogue α) (next : α → Dialogue β) : Dialogue β :=
  fun lines =>
    match first lines with
    | (said, .error stop) => (said, .error stop)
    | (said, .ok (value, rest)) =>
        let (more, result) := next value rest
        (said ++ more, result)

instance : Monad Dialogue where
  pure := done
  bind := andThen

def stop {α : Type} (reason : Stop) : Dialogue α :=
  fun _ => ("", .error reason)

def say (line : String) : Dialogue Unit :=
  fun lines => (line ++ "\n", .ok ((), lines))

def ask (prompt : String) : Dialogue String
  | [] => (prompt ++ ": ", .error .inputEnded)
  | .binary _ :: _ => (prompt ++ ": ", .error .unreadable)
  | .text line :: rest => (prompt ++ ": ", .ok (Text.trim line, rest))

/-- Ask again until the answer is not blank. -/
def askRequired (prompt : String) : Dialogue String
  | [] => (prompt ++ ": ", .error .inputEnded)
  | .binary _ :: _ => (prompt ++ ": ", .error .unreadable)
  | .text line :: rest =>
      if Text.isBlank line then
        let (said, result) := askRequired prompt rest
        (prompt ++ ": " ++ "  A value is required.\n" ++ said, result)
      else (prompt ++ ": ", .ok (Text.trim line, rest))

/-- A value given in advance is not asked for unless it is blank. -/
def givenOr (given : Option String) (prompt : String) : Dialogue String :=
  match given.filter fun value => !Text.isBlank value with
  | some value => done (Text.trim value)
  | none => askRequired prompt

def topicPrompt : Topic → String
  | .summary => "  Summary"
  | .description => "  Detailed description"
  | .operation => "  Operation (e.g., 'DEST := SRC')"
  | .flagsAffected => "  Flags affected (e.g., 'OF, SF, ZF, CF')"
  | .notes => "  Notes"

def askTopic (topic : Topic) : Dialogue (Option Prose) := do
  let answer ← ask (topicPrompt topic)
  return if answer.isEmpty then none else some (.plain answer)

def askDocumentation : Dialogue Documentation := do
  let summary ← askTopic .summary
  let description ← askTopic .description
  let operation ← askTopic .operation
  let flagsAffected ← askTopic .flagsAffected
  let notes ← askTopic .notes
  return { summary, description, operation, flagsAffected, notes }

def operandPrompt (operands : Variant) : String :=
  s!"    Operand {operands.length + 1} type (or Enter to finish variant): "

def variantHeading (variants : List Variant) : String :=
  s!"\n  Variant {variants.length + 1}:\n"

/-- Read operands; `variants` are complete and `operands` belong to the next one. -/
def operandsFrom (variants : List Variant) (operands : Variant) : Dialogue (List Variant)
  | [] => (operandPrompt operands, .error .inputEnded)
  | .binary _ :: _ => (operandPrompt operands, .error .unreadable)
  | .text line :: rest =>
      if Text.isBlank line then
        if operands.isEmpty then (operandPrompt operands, .ok (variants, rest))
        else
          let complete := variants ++ [operands]
          let (said, result) := operandsFrom complete [] rest
          (operandPrompt operands ++ variantHeading complete ++ said, result)
      else
        let operand : Operand := { kind := Text.upper (Text.trim line) }
        let (said, result) := operandsFrom variants (operands ++ [operand]) rest
        (operandPrompt operands ++ said, result)

def askVariants : Dialogue (List Variant) :=
  fun lines =>
    let (said, result) := operandsFrom [] [] lines
    (variantHeading [] ++ said, result)

def summary (r : Record) : String :=
  let topics := fun (d : Documentation) =>
    (Topic.all.filter fun topic => (d.get? topic).isSome).map Topic.tag
  "\n" ++ Render.rule '=' ++
    s!"\nAdding instruction: {r.name}\nCategory: {r.categoryOrUnknown}\n" ++
    "Description: " ++ r.description.elim "" Prose.text ++ "\n" ++
    r.documentation.elim "" (fun d =>
      "Documentation fields: " ++ Text.joinWith ", " (topics d) ++ "\n") ++
    r.variants.elim "" (fun v => s!"Variants: {v.size}\n" ++ Render.numberedFrom 1 v.list)

/-- Only the letter `y` in either case confirms. -/
def isYes (answer : String) : Bool :=
  answer = "y" || answer = "Y"

def confirm (r : Record) : Dialogue Record := do
  fun lines => (summary r, .ok ((), lines))
  let answer ← ask "\nAdd this instruction? (y/n)"
  if isYes answer then return r
  else
    say "Cancelled."
    stop .declined

/-- The whole dialogue, with a name and a category that may be given in advance. -/
def record (name category : Option String) : Dialogue Record := do
  say "Add Complex Instruction - Interactive Mode"
  say (Render.rule '=')
  let name ← givenOr name "Instruction name"
  let category ←
    givenOr category "Category (ARITHMETIC/LOGICAL/DATA_TRANSFER/CONTROL/SYSTEM/etc.)"
  let description ← askRequired "Short description"
  say "\nDocumentation (press Enter to skip any field):"
  let documentation ← askDocumentation
  say "\nVariants (press Enter when done):"
  say "Available operand types: REG, R_M, IMM, MEM, LABEL, etc."
  let variants ← askVariants
  confirm { Record.simple name category description with
    documentation := if documentation.isEmpty then none else some documentation
    variants := if variants.isEmpty then none else some (.ofList variants) }

def Stop.error : Stop → CatalogError
  | inputEnded => .cancelled
  | declined => .cancelled
  | unreadable => .unreadable "<stdin>" .notText

/-- Everything written, and the record or the reason why there is none. -/
def collect (name category : Option String) (lines : List Contents) :
    String × Except CatalogError Record :=
  match record name category lines with
  | (said, .ok (r, _)) => (said, .ok r)
  | (said, .error stop) => (said, .error stop.error)

end Dialogue

end InstructionCatalog
