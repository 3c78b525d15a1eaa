import InstructionCatalog.Command.Run

/-!
# The program

Fetches the files a command line may need, hands them to the pure program and
carries out its report.  Programs cannot be started from here, so an edit ends
with the error for an editor that does not run.
-/

namespace InstructionCatalog.Program

abbrev Fetched := List (String × Except ReadError String)

/-- The settings that are looked at. -/
def settings : List String :=
  ["INSDB_PATH", "INSDB_CONFIG", "INSDB_LOG", "VISUAL", "EDITOR"]

def fetch (path : String) : IO (Except ReadError String) := do
  try
    match String.fromUTF8? (← IO.FS.readBinFile path) with
    | some text => return .ok text
    | none => return .error .notText
  catch
    | .noFileOrDirectory .. => return .error .missing
    | .noSuchThing .. => return .error .missing
    | _ => return .error .directory

def fetchSettings : IO (List (String × String)) := do
  let found ← settings.mapM fun name => do
    return (← IO.getEnv name).map fun value => (name, value)
  return found.filterMap id

partial def readAll (stream : IO.FS.Stream) (read : ByteArray) : IO ByteArray := do
  let more ← stream.read 65536
  if more.isEmpty then return read else readAll stream (read ++ more)

def world (files : Fetched) (environment : List (String × String)) (input : ByteArray) : World where
  read := fun path => (files.lookup path).getD (.error .missing)
  input := input.toList
  environment := fun name => environment.lookup name
  scratch := .ok "insdb-edit.xml"
  launch := fun _ buffer =>
    ⟨.notStarted "programs cannot be started from here", some (.text buffer)⟩

/-- The files that a command line may need. -/
def fetchFiles (environment : List (String × String)) (invocation : Invocation) : IO Fetched := do
  let configPath := invocation.config.getD Config.defaultFile
  let config : Fetched := [(configPath, ← fetch configPath)]
  match loadConfig (world config environment .empty) invocation.config with
  | .error _ => return config
  | .ok loaded =>
      let path := loaded.pathOr invocation.database
      let database : Fetched := [(path, ← fetch path)]
      match invocation.command with
      | .patch file _ => return database ++ config ++ [(file, ← fetch file)]
      | _ => return database ++ config

/-- Ask until the dialogue needs no more lines; `shown` characters of it are on the screen. -/
partial def converse (name category : Option String) (input : ByteArray) (shown : Nat) :
    IO (ByteArray × Nat) := do
  let (said, result) := Dialogue.record name category (Contents.lines input.toList)
  IO.print (String.ofList (said.toList.drop shown))
  (← IO.getStdout).flush
  match result with
  | .error .inputEnded =>
      let line ← (← IO.getStdin).getLine
      if line.isEmpty then return (input, said.length)
      else converse name category (input ++ line.toUTF8) said.length
  | _ => return (input, said.length)

/-- Standard input as far as a command reads it, and what has been written meanwhile. -/
def gather (files : Fetched) (environment : List (String × String)) (invocation : Invocation) :
    IO (ByteArray × Nat) := do
  match invocation.command with
  | .patch "-" _ => return (← readAll (← IO.getStdin) .empty, 0)
  | .addComplex name category =>
      if (invocation.run (world files environment .empty)).output.isEmpty then return (.empty, 0)
      else converse name category .empty 0
  | _ => return (.empty, 0)

/-- Carry out a report, of whose output `shown` characters have been written. -/
def finish (report : Report) (shown : Nat) : IO UInt32 := do
  if let some (path, text) := report.written then
    IO.FS.writeFile path text
  IO.print (String.ofList (report.output.toList.drop shown))
  IO.eprint report.errors
  return UInt32.ofNat report.exit

def start (arguments : List String) : IO UInt32 := do
  let environment ← fetchSettings
  match Invocation.read (fun name => environment.lookup name) arguments with
  | .error _ => finish (runProgram (world [] environment .empty) arguments) 0
  | .ok invocation =>
      let files ← fetchFiles environment invocation
      let (input, shown) ← gather files environment invocation
      finish (invocation.run (world files environment input)) shown

end InstructionCatalog.Program

def main (arguments : List String) : IO UInt32 :=
  InstructionCatalog.Program.start arguments
