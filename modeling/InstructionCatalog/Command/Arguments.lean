import InstructionCatalog.Reconcile
import InstructionCatalog.Render

/-!
# Command lines

Options may stand before or after the command; `--` ends them.  The two paths
may also come from the environment, and a path given after the command wins over
one given before it.  An option may be given once in each of the two places.
-/

namespace InstructionCatalog

inductive Verb where
  | list
  | read
  | add
  | addComplex
  | edit
  | delete
  | patch
  | help
  deriving DecidableEq, Repr

inductive Command where
  | list (pattern : Option String) (format : Format)
  | read (name : String) (format : Format)
  | add (name category : String) (description : List String)
  | addComplex (name category : Option String)
  | edit (name : String)
  | delete (name : String)
  | patch (file : String) (mode : Option Mode)
  | patchHelp
  | help
  deriving DecidableEq, Repr

structure Invocation where
  database : Option String
  config : Option String
  command : Command
  deriving DecidableEq, Repr

namespace Arguments

inductive Stop where
  | usage
  | notice
  deriving DecidableEq, Repr

structure Given where
  database : Option String := none
  config : Option String := none
  format : Option Format := none
  mode : Option Mode := none
  patchHelp : Bool := false
  values : List String := []
  deriving DecidableEq, Repr

/--
What has been read so far: before the command, the command, and after it.  An
option may be waiting for its value, and after `--` all arguments are values.
-/
structure Progress where
  before : Given := {}
  verb : Option Verb := none
  after : Given := {}
  waiting : Option String := none
  literal : Bool := false
  deriving DecidableEq, Repr

def verb? : String → Option Verb
  | "list" => some .list
  | "read" => some .read
  | "add" => some .add
  | "add-complex" => some .addComplex
  | "edit" => some .edit
  | "delete" => some .delete
  | "patch" => some .patch
  | "help" => some .help
  | _ => none

/-- The greatest number of values a command takes, if there is one. -/
def maxValues : Verb → Option Nat
  | .list => some 1
  | .read => some 1
  | .add => none
  | .addComplex => some 2
  | .edit => some 1
  | .delete => some 1
  | .patch => some 1
  | .help => some 0

def takesValue (verb : Option Verb) (name : String) : Bool :=
  name = "db" || name = "config" ||
    (name = "format" && (verb = some .list || verb = some .read)) ||
    (name = "mode" && verb = some .patch)

namespace Given

def setPath (old : Option String) (value : String) : Except Stop (Option String) :=
  if old.isSome ∨ value.isEmpty then .error .usage else .ok (some value)

def setChoice {α : Type} (old new : Option α) : Except Stop (Option α) :=
  if old.isSome ∨ new.isNone then .error .usage else .ok new

def set (g : Given) (name value : String) : Except Stop Given := do
  match name with
  | "db" => return { g with database := ← setPath g.database value }
  | "config" => return { g with config := ← setPath g.config value }
  | "format" => return { g with format := ← setChoice g.format (Format.ofName? value) }
  | "mode" => return { g with mode := ← setChoice g.mode (Mode.ofName? value) }
  | _ => .error .usage

end Given

namespace Progress

def set (p : Progress) (name value : String) : Except Stop Progress := do
  match p.verb with
  | none => return { p with before := ← p.before.set name value }
  | some _ => return { p with after := ← p.after.set name value }

def flag (p : Progress) (name : String) : Except Stop Progress :=
  match name, p.verb with
  | "help", _ => .error .notice
  | "version", none => .error .notice
  | "help-patch", some .patch =>
      if p.after.patchHelp then .error .usage
      else .ok { p with after := { p.after with patchHelp := true } }
  | _, _ => .error .usage

/-- The command itself, or a value of it. -/
def value (p : Progress) (text : String) : Except Stop Progress :=
  match p.verb with
  | none =>
      match verb? text with
      | some verb => if p.literal then .error .usage else .ok { p with verb := some verb }
      | none => .error .usage
  | some verb =>
      let values := p.after.values ++ [text]
      if (maxValues verb).any (· < values.length) then .error .usage
      else .ok { p with after := { p.after with values } }

end Progress

/-- An argument of an option that stands by itself is no option. -/
def isValue (text : String) : Bool :=
  text = "-" || !"-".isPrefixOf text

/-- What an argument is, before its option is looked up. -/
inductive Shape where
  | escape
  | value
  | long (name : String) (value : Option String)
  | short (letter : Char) (rest : List Char)
  deriving DecidableEq, Repr

def shape (argument : String) : Shape :=
  match argument.toList with
  | ['-', '-'] => .escape
  | '-' :: '-' :: rest =>
      let name := String.ofList (rest.takeWhile (· ≠ '='))
      match rest.dropWhile (· ≠ '=') with
      | [] => .long name none
      | _ :: value => .long name (some (String.ofList value))
  | '-' :: letter :: rest => .short letter rest
  | _ => .value

def longName : Char → String
  | 'h' => "help"
  | 'V' => "version"
  | 'm' => "mode"
  | _ => ""

/-- Letters after one that takes a value are that value; an `=` between them is dropped. -/
def attached : List Char → Option String
  | [] => none
  | '=' :: rest => some (String.ofList rest)
  | rest => some (String.ofList rest)

namespace Progress

/-- An option with the value attached to it, if there is one. -/
def option (p : Progress) (name : String) (value : Option String) (isLong : Bool) :
    Except Stop Progress :=
  if takesValue p.verb name then
    match value with
    | some value => p.set name value
    | none => .ok { p with waiting := some name }
  else
    match value with
    | none => p.flag name
    | some _ =>
        -- letters after a flag count only if the flag does not end the reading
        match p.flag name with
        | .error .notice => .error (if isLong then .usage else .notice)
        | _ => .error .usage

def step (p : Progress) (argument : String) : Except Stop Progress :=
  match p.waiting, p.literal with
  | some name, _ =>
      if isValue argument then { p with waiting := none }.set name argument else .error .usage
  | none, true => p.value argument
  | none, false =>
      match shape argument with
      | .escape => .ok { p with literal := true }
      | .value => p.value argument
      | .long name value => p.option name value true
      | .short letter rest => p.option (longName letter) (attached rest) false

end Progress

def readAll (arguments : List String) : Except Stop Progress := do
  let p ← arguments.foldlM Progress.step {}
  if p.waiting.isSome then .error .usage else return p

/-- A path after the command, before it, or from the environment, which may not be empty. -/
def choosePath (before after environment : Option String) : Except Stop (Option String) :=
  if environment = some "" ∧ (before.isNone ∨ after.isNone) then .error .usage
  else .ok ((after.or before).or environment)

def command (verb : Verb) (g : Given) : Except Stop Command :=
  let format := g.format.getD .text
  match verb, g.values with
  | .list, [] => .ok (.list none format)
  | .list, [pattern] => .ok (.list (some pattern) format)
  | .read, [name] => .ok (.read name format)
  | .add, name :: category :: word :: words => .ok (.add name category (word :: words))
  | .addComplex, [] => .ok (.addComplex none none)
  | .addComplex, [name] => .ok (.addComplex (some name) none)
  | .addComplex, [name, category] => .ok (.addComplex (some name) (some category))
  | .edit, [name] => .ok (.edit name)
  | .delete, [name] => .ok (.delete name)
  | .patch, values =>
      if g.patchHelp then .ok .patchHelp else .ok (.patch (values.head?.getD "-") g.mode)
  | .help, [] => .ok .help
  | _, _ => .error .usage

end Arguments

def Invocation.read (environment : String → Option String) (arguments : List String) :
    Except Arguments.Stop Invocation := do
  let p ← Arguments.readAll arguments
  match p.verb with
  | none => .error .usage
  | some verb =>
      let command ← Arguments.command verb p.after
      let database ←
        Arguments.choosePath p.before.database p.after.database (environment "INSDB_PATH")
      let config ←
        Arguments.choosePath p.before.config p.after.config (environment "INSDB_CONFIG")
      return { database, config, command }

end InstructionCatalog
