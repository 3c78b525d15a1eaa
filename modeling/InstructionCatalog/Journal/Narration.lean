import InstructionCatalog.Catalog.Text
import InstructionCatalog.Edit.Command
import InstructionCatalog.Edit.Session
import InstructionCatalog.Journal.Event
import InstructionCatalog.Patch

/-!
# What operations report

For each operation the events it gives rise to, as a function of its input and
result.  An operation that fails reports what it did before it failed.
-/

namespace InstructionCatalog.Journal

/-! ## The catalog -/

def insertion (c : Catalog) (r : Record) : List Event :=
  match c.insert r with
  | .error _ => []
  | .ok (_, index) =>
      [{ level := .debug, message := "inserting record"
         fields := [("name", Text.lower r.name), ("index", toString index)] }]

def rename (previous incoming : Record) : List Event :=
  if previous.name = Text.lower incoming.name then []
  else
    [{ level := .info, message := "record renamed"
       fields := [("from", previous.name), ("to", incoming.name)] }]

def replacement (c : Catalog) (old : String) (r : Record) : List Event :=
  match c.find? old, c.replace old r with
  | some previous, .ok _ => rename previous r ++ insertion (c.erase old) r
  | _, _ => []

def addition (c : Catalog) (r : Record) : List Event :=
  within ⟨"add", [("name", r.name)]⟩ <|
    insertion c r ++
      match c.insert r with
      | .error _ => []
      | .ok (_, index) =>
          [{ level := .info, message := "instruction added"
             fields := [("index", toString index)] }]

def deletion (c : Catalog) (name : String) : List Event :=
  within ⟨"delete", [("name", Text.quoted name)]⟩ <|
    match c.remove name with
    | .error _ => []
    | .ok _ => [{ level := .info, message := "instruction deleted" }]

/-! ## Patches -/

def entryEvents (mode : Mode) (position : Nat) (c : Catalog) : Patch.Entry → List Event
  | .nameless =>
      [{ level := .warn, message := "skipping patch record without 'name' attribute"
         fields := [("position", toString position)] }]
  | .record incoming =>
      let name := Text.lower incoming.name
      let stored :=
        match c.find? name with
        | none => insertion c incoming
        | some stored => replacement c name (Record.reconcile mode stored incoming)
      match c.applyRecord mode incoming with
      | .ok (_, outcome) =>
          stored ++
            [{ level := .debug, message := "patch record applied"
               fields := [("outcome", outcome.display)] }]
      | .error e =>
          [{ level := .warn, message := "patch record not applied"
             fields := [("position", toString position), ("name", name), ("error", e.message)] }]

def entriesEvents (mode : Mode) (position : Nat) (c : Catalog) : List Patch.Entry → List Event
  | [] => []
  | entry :: rest =>
      entryEvents mode position c entry ++
        entriesEvents mode (position + 1) (c.applyEntry mode position entry).1 rest

def patching (c : Catalog) (patch : Patch) (mode : Mode) : List Event :=
  within ⟨"apply", [("records", toString patch.entries.length), ("mode", mode.name)]⟩ <|
    entriesEvents mode 1 c patch.entries

/-! ## Edits -/

def applyingEdit (c : Catalog) (old : String) (edited : Record) : List Event :=
  within ⟨"apply_edit", [("name", Text.quoted old)]⟩ <|
    if c.find? old = some edited.lowered then []
    else replacement c old edited.lowered

def keptOnDisk (message path : String) : Event where
  level := .warn
  message := message
  fields := [("path", path)]

def afterEditor (c : Catalog) (name path buffer : String) (run : EditorRun) : List Event :=
  match run.result with
  | .gaveUp =>
      if run.isModified buffer then
        [keptOnDisk "editor failed; modified instruction kept on disk" path]
      else []
  | .failed _ => []
  | .finished =>
      let applied :=
        match run.readBack path with
        | .error _ => []
        | .ok text =>
            match Record.ofBuffer text with
            | .error _ => []
            | .ok edited => applyingEdit c name edited
      match c.applyScratch name path run with
      | .ok _ => applied
      | .error _ => applied ++ [keptOnDisk "edited instruction kept on disk" path]

/-- `reports` are the events of the editor itself. -/
def editing (c : Catalog) (name : String) (scratch : Except CatalogError String)
    (editor : Editor) (reports : EditorRun → List Event) : List Event :=
  within ⟨"run_edit", [("name", Text.quoted name)]⟩ <|
    match c.find? name, scratch with
    | some r, .ok path =>
        let run := editor r.toBuffer
        reports run ++ afterEditor c name path r.toBuffer run
    | _, _ => []

/-- What a program started as an editor reports; `status` is how it exited. -/
def launching (program path status : String) (run : EditorRun) : List Event :=
  { level := .debug, message := "launching editor"
    fields := [("program", program), ("path", path)] } ::
    match run.result with
    | .gaveUp =>
        [{ level := .warn, message := "editor exited unsuccessfully; edit abandoned"
           fields := [("program", program), ("status", status)] }]
    | _ => []

/-! ## Files -/

/-- Names are lower-cased one after the other until a record cannot be read. -/
def loweringFrom (position : Nat) : List Markup.Element → List Event
  | [] => []
  | child :: rest =>
      match Catalog.recordAt position child with
      | .error _ => []
      | .ok r =>
          (if Text.lower r.name = r.name then []
          else
            [{ level := .info, message := "record name lower-cased"
               fields := [("name", r.name)] }]) ++
            loweringFrom (position + 1) rest

def reading (text : String) : List Event :=
  let lowering :=
    match Markup.parse text with
    | .error _ => []
    | .ok root => if root.tag = "instructions" then loweringFrom 1 root.children else []
  let sorting :=
    match Catalog.readRecords text, Catalog.readDefect text with
    | .ok (_, found), .ok _ =>
        if ({ records := found.map Record.lowered } : Catalog).isSorted then []
        else
          [{ level := .warn
             message :=
              "database was not in alphabetical order; records have been re-sorted" }]
    | _, _ => []
  lowering ++ sorting

def loaded (path : String) (c : Catalog) : Event where
  level := .debug
  message := "database loaded"
  fields := [("path", path), ("records", toString c.size)]

def saved (path : String) (c : Catalog) : Event where
  level := .debug
  message := "database saved"
  fields := [("path", path), ("records", toString c.size)]

end InstructionCatalog.Journal
