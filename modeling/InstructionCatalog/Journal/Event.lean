import InstructionCatalog.Text.Quoted

/-!
# Journal events

What the program reports about its work while it runs.  An event carries its
own fields and the spans in which it happened, the outermost first.
-/

namespace InstructionCatalog.Journal

inductive Level where
  | error
  | warn
  | info
  | debug
  deriving DecidableEq, Repr

abbrev Fields := List (String × String)

structure Span where
  name : String
  fields : Fields
  deriving DecidableEq, Repr

structure Event where
  level : Level
  message : String
  fields : Fields := []
  spans : List Span := []
  deriving DecidableEq, Repr

namespace Level

def name : Level → String
  | error => "ERROR"
  | warn => "WARN"
  | info => "INFO"
  | debug => "DEBUG"

def rank : Level → Nat
  | error => 1
  | warn => 2
  | info => 3
  | debug => 4

end Level

def within (span : Span) (events : List Event) : List Event :=
  events.map fun event => { event with spans := span :: event.spans }

/-! ## Text -/

/-- The number of levels up to a named one; a digit names its level too. -/
def levelsUpTo? (word : String) : Option Nat :=
  match String.ofList (word.toList.map Char.toLower) with
  | "off" | "0" => some 0
  | "error" | "1" => some 1
  | "warn" | "2" => some 2
  | "info" | "3" => some 3
  | "debug" | "4" => some 4
  | "trace" | "5" => some 5
  | _ => none

/-- Where all events of the program come from. -/
def source : String := "insdb"

def isSourceChar (c : Char) : Bool :=
  c.isAlphanum || c == '_' || c == '-' || c == ':'

/-- Every source that starts with `word` is meant by it. -/
def coversProgram (word : String) : Bool :=
  word.toList.isPrefixOf source.toList

/--
The number of levels that are shown.  A setting is a level, a source, or a
source with its level; a source alone shows all its levels.  An empty setting
means errors only.  No setting, or one that cannot be read, means warnings.
-/
def verbosity : Option String → Nat
  | none => Level.warn.rank
  | some "" => Level.error.rank
  | some setting =>
      match levelsUpTo? setting, setting.splitOn "=" with
      | some shown, _ => shown
      | none, [word] =>
          if !word.toList.all isSourceChar then Level.warn.rank
          else if coversProgram word then 5 else 0
      | none, [word, level] =>
          match word.toList.all isSourceChar, levelsUpTo? level with
          | true, some shown => if coversProgram word then shown else 0
          | _, _ => Level.warn.rank
      | none, _ => Level.warn.rank

def fieldText (fields : Fields) : String :=
  String.join (fields.map fun (name, value) => " " ++ name ++ "=" ++ value)

/-- Spans are shown from level `info` on. -/
def Event.line (event : Event) (shown : Nat) : String :=
  let spans := if shown < Level.info.rank then [] else event.spans
  let level := String.ofList (List.replicate (5 - event.level.name.length) ' ') ++ event.level.name
  let path := String.join (spans.map fun span => span.name ++ ":")
  level ++ " " ++ path ++ (if spans.isEmpty then "" else " ") ++ event.message ++
    fieldText event.fields ++ String.join (spans.map fun span => fieldText span.fields) ++ "\n"

def text (shown : Nat) (events : List Event) : String :=
  String.join ((events.filter fun event => event.level.rank ≤ shown).map fun event =>
    event.line shown)

end InstructionCatalog.Journal
