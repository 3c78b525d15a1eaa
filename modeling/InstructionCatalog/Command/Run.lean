import InstructionCatalog.Catalog.Text
import InstructionCatalog.Command.Arguments
import InstructionCatalog.Command.Help
import InstructionCatalog.Config
import InstructionCatalog.Dialogue
import InstructionCatalog.Journal.Narration

/-!
# Running commands

A command is a function of what it finds: files, standard input, environment
and the programs that can be started.  Its effect says what it writes where; the
catalog file is written at most once, at the end.
-/

namespace InstructionCatalog

inductive Exit where
  | success
  | failure (status : String)
  | notStarted (detail : String)
  deriving DecidableEq, Repr

structure Launch where
  exit : Exit
  scratch : Option Contents
  deriving DecidableEq, Repr

structure World where
  read : String → Except ReadError String
  input : List UInt8
  environment : String → Option String
  scratch : Except CatalogError String
  launch : EditorCommand → String → Launch

inductive CommandError where
  | catalog (cause : CatalogError)
  | patchInput (cause : ReadError)
  | patchFile (file : String) (cause : ReadError)
  | config (path : String) (cause : Config.Error)
  | configNotFound (path : String)
  deriving DecidableEq, Repr

namespace CommandError

def message : CommandError → String
  | catalog cause => cause.message
  | patchInput _ => "failed to read patch from stdin"
  | patchFile file _ => s!"failed to read patch file '{file}'"
  | config path cause => path ++ ": " ++ cause.message
  | configNotFound path =>
      s!"config file not found: {path}\n" ++
        "  To fix: check --config / INSDB_CONFIG, or remove it to use defaults."

def source? : CommandError → Option String
  | catalog cause => cause.source?
  | patchInput cause => some cause.message
  | patchFile _ cause => some cause.message
  | _ => none

def report (e : CommandError) : String :=
  "Error: " ++ e.message ++ "\n" ++
    e.source?.elim "" fun source => "\nCaused by:\n    " ++ source ++ "\n"

end CommandError

structure Effect where
  events : List Journal.Event := []
  output : String := ""
  notes : String := ""
  failure : Option CommandError := none
  saved : Option Catalog := none
  kept : Option Contents := none

namespace Effect

def fail (e : CommandError) : Effect :=
  { failure := some e }

def failCatalog (e : CatalogError) : Effect :=
  fail (.catalog e)

def after (events : List Journal.Event) (effect : Effect) : Effect :=
  { effect with events := events ++ effect.events }

def save (path : String) (c : Catalog) (output : String) : Effect :=
  { events := [Journal.saved path c], output, saved := some c }

end Effect

namespace Command

def load (w : World) (path : String) : Except CatalogError Catalog :=
  match w.read path with
  | .error .missing => .error (.databaseNotFound path)
  | .error cause => .error (.unreadable path cause)
  | .ok text => Catalog.read text

def loadEvents (w : World) (path : String) : List Journal.Event :=
  match w.read path with
  | .error _ => []
  | .ok text =>
      Journal.reading text ++
        match Catalog.read text with
        | .error _ => []
        | .ok c => [Journal.loaded path c]

def withCatalog (w : World) (path : String) (next : Catalog → Effect) : Effect :=
  Effect.after (loadEvents w path) <|
    match load w path with
    | .error e => Effect.failCatalog e
    | .ok c => next c

def runList (pattern : Option String) (format : Format) (c : Catalog) : Effect :=
  { output := format.renderListing (c.rows pattern) }

def runRead (name : String) (format : Format) (c : Catalog) : Effect :=
  match c.find? name with
  | some r => { output := format.renderRecord r }
  | none =>
      let similar := c.similar name
      { notes :=
          if similar.isEmpty then ""
          else "Similar instructions:\n" ++ Render.listing similar
        failure := some (.catalog (.recordNotFound name)) }

def runAdd (path : String) (r : Record) (c : Catalog) : Effect :=
  Effect.after (Journal.addition c r) <|
    match c.insert r with
    | .error e => Effect.failCatalog e
    | .ok (updated, _) =>
        Effect.save path updated s!"Successfully added instruction '{r.name}'\n"

def runAddComplex (path : String) (name category : Option String) (input : List UInt8)
    (c : Catalog) : Effect :=
  match name.filter fun given => (c.find? given).isSome with
  | some given => Effect.failCatalog (.duplicateName (Text.lower given))
  | none =>
      let (said, result) := Dialogue.collect name category (Contents.lines input)
      match result with
      | .error e => { Effect.failCatalog e with output := said }
      | .ok r =>
          let effect := runAdd path r c
          { effect with output := said ++ effect.output }

def runDelete (path name : String) (c : Catalog) : Effect :=
  Effect.after (Journal.deletion c name) <|
    match c.remove name with
    | .error e => Effect.failCatalog e
    | .ok (updated, removed) =>
        Effect.save path updated s!"Successfully deleted instruction '{removed.name}'\n"

def editorOf (w : World) (command : EditorCommand) : Editor := fun buffer =>
  let launch := w.launch command buffer
  { scratch := launch.scratch
    result :=
      match launch.exit with
      | .success => .finished
      | .failure _ => .gaveUp
      | .notStarted detail => .broken command.program detail }

def exitStatus (w : World) (command : EditorCommand) (buffer : String) : String :=
  match (w.launch command buffer).exit with
  | .failure status => status
  | _ => ""

def editorCommand (w : World) (config : Config) : EditorCommand :=
  EditorCommand.choose config.editorCommand (w.environment "VISUAL") (w.environment "EDITOR")

def editEvents (w : World) (config : Config) (name : String) (c : Catalog) : List Journal.Event :=
  let command := editorCommand w config
  match c.find? name, w.scratch with
  | some r, .ok path =>
      Journal.editing c name w.scratch (editorOf w command)
        (Journal.launching command.program path (exitStatus w command r.toBuffer))
  | _, _ => []

def runEdit (w : World) (config : Config) (path name : String) (c : Catalog) : Effect :=
  let outcome := c.runEdit name w.scratch (editorOf w (editorCommand w config))
  Effect.after (editEvents w config name c) <|
    match outcome.result with
    | .error e => { Effect.failCatalog e with kept := outcome.kept }
    | .ok (_, .unchanged) =>
        { output := s!"No changes made to instruction '{Text.lower name}'\n" }
    | .ok (updated, .updated newName (some old)) =>
        Effect.save path updated
          s!"Successfully updated instruction '{old}' (renamed to '{newName}')\n"
    | .ok (updated, .updated newName none) =>
        Effect.save path updated s!"Successfully updated instruction '{newName}'\n"

def patchText (w : World) (file : String) : Except CommandError String :=
  if file = "-" then
    match Contents.ofBytes w.input with
    | .text value => .ok value
    | .binary _ => .error (.patchInput .notText)
  else (w.read file).mapError (.patchFile file)

def applyPatch (path : String) (batch : Patch) (mode : Mode) (c : Catalog) : Effect :=
  let (updated, outcomes) := c.applyPatch batch mode
  let output :=
    s!"Patch applied successfully ({mode.name} mode):\n" ++
      String.join (outcomes.map fun outcome => "  " ++ outcome.display ++ "\n")
  Effect.after (Journal.patching c batch mode) <|
    if outcomes.any Patch.Outcome.isApplied then Effect.save path updated output
    else { output }

/-- The patch is read before the catalog. -/
def runPatch (w : World) (path file : String) (mode : Mode) : Effect :=
  match patchText w file with
  | .error e => Effect.fail e
  | .ok text =>
      match Patch.read text with
      | .error e => Effect.failCatalog e
      | .ok batch => withCatalog w path (applyPatch path batch mode)

def run (w : World) (config : Config) (path : String) : Command → Effect
  | .list pattern format => withCatalog w path (runList pattern format)
  | .read name format => withCatalog w path (runRead name format)
  | .add name category description =>
      withCatalog w path
        (runAdd path (Record.simple name category (Text.joinWith " " description)))
  | .addComplex name category => withCatalog w path (runAddComplex path name category w.input)
  | .edit name => withCatalog w path (runEdit w config path name)
  | .delete name => withCatalog w path (runDelete path name)
  | .patch file mode => runPatch w path file (mode.getD config.patchMode)
  | .patchHelp => { output := Help.patch }
  | .help => { output := Help.usage }

end Command

/-! ## The whole program -/

/-- Read the configuration; only a file that is named has to exist. -/
def loadConfig (w : World) (named : Option String) : Except CommandError Config :=
  let path := named.getD Config.defaultFile
  match w.read path, named with
  | .ok text, _ => (Config.read text).mapError (.config path)
  | .error .missing, none => .ok {}
  | .error .missing, some _ => .error (.configNotFound path)
  | .error .notDirectory, some _ => .error (.configNotFound path)
  | .error cause, _ => .error (.config path (.unreadable cause))

def configEvents (w : World) (named : Option String) : List Journal.Event :=
  match named, w.read Config.defaultFile with
  | none, .error .missing =>
      [{ level := .debug, message := "no config file; using defaults"
         fields := [("path", Config.defaultFile)] }]
  | _, _ => []

structure Report where
  exit : Nat
  output : String := ""
  errors : String := ""
  written : Option (String × String) := none
  kept : Option Contents := none

def Effect.toReport (w : World) (path : String) (effect : Effect) : Report where
  exit := if effect.failure.isSome then 1 else 0
  output := effect.output
  errors :=
    Journal.text (Journal.verbosity (w.environment "INSDB_LOG")) effect.events ++
      effect.notes ++ effect.failure.elim "" CommandError.report
  written := effect.saved.map fun c => (path, c.render)
  kept := effect.kept

def Invocation.run (w : World) (invocation : Invocation) : Report :=
  match loadConfig w invocation.config with
  | .error e => (Effect.fail e).toReport w ""
  | .ok config =>
      let path := config.pathOr invocation.database
      let chosen : Journal.Event :=
        { level := .debug, message := "using database", fields := [("path", path)] }
      Effect.toReport w path <|
        Effect.after (configEvents w invocation.config ++ [chosen])
          (invocation.command.run w config path)

def runProgram (w : World) (arguments : List String) : Report :=
  match Invocation.read w.environment arguments with
  | .error .usage => { exit := 2 }
  | .error .notice => { exit := 0, output := Help.usage }
  | .ok invocation => invocation.run w

end InstructionCatalog
