import InstructionCatalog.Error
import InstructionCatalog.Reconcile
import InstructionCatalog.Text.Quoted
import InstructionCatalog.Toml.Reader

/-!
# Configuration

Three optional sections with one optional setting each.  A section is usually a
table; a list gives its settings by position.  Whatever comes first in the text
is complained about first.
-/

namespace InstructionCatalog

open Toml

structure Config where
  databasePath : String := "src/main/resources/nasm/instructions.xml"
  editorCommand : Option String := none
  patchMode : Mode := .merge
  deriving DecidableEq, Repr

namespace Config

def defaultFile : String :=
  "insdb.toml"

inductive Complaint where
  | unknownField (name : String) (expected : List String)
  | unknownVariant (name : String)
  | wrongType (found expected : String)
  | notAMode
  | modeEntries (found : String)
  | modeNotEmpty
  | modeNotTable (found : String)
  deriving DecidableEq, Repr

inductive Error where
  | malformed (line : Nat)
  | complaint (line : Nat) (cause : Complaint)
  | unreadable (cause : ReadError)
  deriving DecidableEq, Repr

def oneOf (names : List String) : String :=
  let quoted := names.map fun name => s!"`{name}`"
  match quoted with
  | [name] => name
  | [first, second] => first ++ " or " ++ second
  | names => "one of " ++ Text.joinWith ", " names

def Complaint.message : Complaint → String
  | unknownField name expected => s!"unknown field `{name}`, expected " ++ oneOf expected
  | unknownVariant name => s!"unknown variant `{name}`, expected " ++ oneOf ["merge", "replace"]
  | wrongType found expected => s!"invalid type: {found}, expected {expected}"
  | notAMode => "wanted string or table"
  | modeEntries found => s!"wanted exactly 1 element, {found}"
  | modeNotEmpty => "expected empty table"
  | modeNotTable found => s!"expected table, found {found}"

def Error.message : Error → String
  | malformed line => s!"line {line}: TOML parse error"
  | complaint line cause => s!"line {line}: " ++ cause.message
  | unreadable cause => "could not read file: " ++ cause.message

def describe : Node → String
  | .string _ value => "string " ++ Text.quoted value
  | .integer _ value => s!"integer `{value}`"
  | .float _ shown => s!"floating point `{shown}`"
  | .boolean _ value => s!"boolean `{value}`"
  | .array .. => "sequence"
  | .tables _ => "sequence"
  | .table .. => "map"

def typeName : Node → String
  | .string .. => "string"
  | .integer .. => "integer"
  | .float .. => "float"
  | .boolean .. => "boolean"
  | .array .. => "array"
  | .tables _ => "array of tables"
  | .table .. => "table"

/-- A setting that is a text; `line` counts when the value has no line of its own. -/
def textSetting (expected : String) (line : Nat) : Node → Except Error String
  | .string _ value => .ok value
  | node => .error (.complaint (node.line?.getD line) (.wrongType (describe node) expected))

def modeNamed (name : String) (line : Nat) : Except Error Mode :=
  match Mode.ofName? name with
  | some mode => .ok mode
  | none => .error (.complaint line (.unknownVariant name))

/-- A mode is a name, or a table with that name as its only key and nothing in it. -/
def modeSetting (line : Nat) (node : Node) : Except Error Mode :=
  let here := node.line?.getD line
  match node with
  | .string _ name => modeNamed name here
  | .table _ _ [] => .error (.complaint here (.modeEntries "found 0 elements"))
  | .table _ _ [(key, inner)] => do
      let mode ← modeNamed key.name key.line
      let innerLine := inner.line?.getD key.line
      match inner with
      | .table _ _ [] => return mode
      | .array _ [] => return mode
      | .tables [] => return mode
      | .table .. => .error (.complaint innerLine .modeNotEmpty)
      | .array .. => .error (.complaint innerLine .modeNotEmpty)
      | .tables _ => .error (.complaint innerLine .modeNotEmpty)
      | other => .error (.complaint innerLine (.modeNotTable (typeName other)))
  | .table .. => .error (.complaint here (.modeEntries "more than 1 element"))
  | _ => .error (.complaint here .notAMode)

/-- A section with one setting, called `setting`, that is given to `apply`. -/
def oneSetting (type setting : String) (apply : Nat → Node → Config → Except Error Config)
    (line : Nat) (node : Node) (config : Config) : Except Error Config :=
  let here := node.line?.getD line
  match node with
  | .table _ _ entries =>
      entries.foldlM (fun acc (key, value) =>
        if key.name = setting then apply key.line value acc
        else .error (.complaint key.line (.unknownField key.name [setting]))) config
  | .array _ [] => .ok config
  | .array _ (value :: _) => apply here value config
  | .tables [] => .ok config
  | .tables (value :: _) => apply here value config
  | other => .error (.complaint here (.wrongType (describe other) ("struct " ++ type)))

def databaseSection : Nat → Node → Config → Except Error Config :=
  oneSetting "DatabaseConfig" "path" fun line node config => do
    return { config with databasePath := ← textSetting "path string" line node }

def editorSection : Nat → Node → Config → Except Error Config :=
  oneSetting "EditorConfig" "command" fun line node config => do
    return { config with editorCommand := some (← textSetting "a string" line node) }

def patchSection : Nat → Node → Config → Except Error Config :=
  oneSetting "PatchConfig" "mode" fun line node config => do
    return { config with patchMode := ← modeSetting line node }

def entry (config : Config) (key : Key) (node : Node) : Except Error Config :=
  match key.name with
  | "database" => databaseSection key.line node config
  | "editor" => editorSection key.line node config
  | "patch" => patchSection key.line node config
  | name => .error (.complaint key.line (.unknownField name ["database", "editor", "patch"]))

def read (text : String) : Except Error Config :=
  match Toml.read text with
  | .error line => .error (.malformed line)
  | .ok entries => entries.foldlM (fun config (key, node) => config.entry key node) {}

/-- The path given on the command line wins. -/
def pathOr (config : Config) (given : Option String) : String :=
  given.getD config.databasePath

end Config

end InstructionCatalog
