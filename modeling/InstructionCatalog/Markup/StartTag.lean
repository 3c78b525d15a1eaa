import InstructionCatalog.Markup.Attributes
import InstructionCatalog.Markup.Entity

/-!
# Start tags

The inside of a start tag is a tag name followed by attributes `key="value"`.
The name ends at the first blank, keys end at a blank or `=`, and no other
character is refused in either.  Blanks around `=` and between attributes are
skipped and not required.

Error positions are byte offsets from just after the `<`.
-/

namespace InstructionCatalog.Markup

def isTagSpace (c : Char) : Bool :=
  c = ' ' || c = '\t' || c = '\r' || c = '\n'

inductive AttributeError where
  | noEquals (position : Nat)
  | duplicated (position previous : Nat)
  | noValue (position : Nat)
  | unquoted (position : Nat)
  | unclosedQuote (position : Nat) (quote : Char)
  | badValue (key : String) (cause : EntityError)
  deriving DecidableEq, Repr

namespace StartTag

inductive Mode where
  | between
  | key (start : Nat) (chars : List Char)
  | afterKey (start : Nat) (key : String)
  | beforeValue (key : String)
  | value (key : String) (quote : Char) (chars : List Char)
  deriving DecidableEq, Repr

/-- The `=` after a key: a key may not occur twice. -/
def acceptKey (seen : List (String × Nat)) (start : Nat) (key : String) :
    Except AttributeError (List (String × Nat)) :=
  match seen.lookup key with
  | some previous => .error (.duplicated start previous)
  | none => .ok ((key, start) :: seen)

/--
Read attributes from byte `position` on.  `seen` holds the keys read so far
with their positions; characters in the mode are kept last one first.
-/
def attributesFrom (seen : List (String × Nat)) :
    Mode → Nat → List Char → Except AttributeError Attributes
  | .between, _, [] => .ok []
  | .key .., position, [] => .error (.noEquals position)
  | .afterKey .., position, [] => .error (.noEquals position)
  | .beforeValue _, position, [] => .error (.noValue position)
  | .value _ quote _, position, [] => .error (.unclosedQuote position quote)
  | .between, position, c :: cs =>
      if isTagSpace c then attributesFrom seen .between (position + c.utf8Size) cs
      else attributesFrom seen (.key position [c]) (position + c.utf8Size) cs
  | .key start chars, position, c :: cs =>
      if c = '=' then
        match acceptKey seen start (String.ofList chars.reverse) with
        | .error e => .error e
        | .ok seen' =>
            attributesFrom seen' (.beforeValue (String.ofList chars.reverse))
              (position + c.utf8Size) cs
      else if isTagSpace c then
        attributesFrom seen (.afterKey start (String.ofList chars.reverse))
          (position + c.utf8Size) cs
      else attributesFrom seen (.key start (c :: chars)) (position + c.utf8Size) cs
  | .afterKey start key, position, c :: cs =>
      if c = '=' then
        match acceptKey seen start key with
        | .error e => .error e
        | .ok seen' => attributesFrom seen' (.beforeValue key) (position + c.utf8Size) cs
      else if isTagSpace c then
        attributesFrom seen (.afterKey start key) (position + c.utf8Size) cs
      else .error (.noEquals position)
  | .beforeValue key, position, c :: cs =>
      if isTagSpace c then attributesFrom seen (.beforeValue key) (position + c.utf8Size) cs
      else if c = '"' ∨ c = '\'' then
        attributesFrom seen (.value key c []) (position + c.utf8Size) cs
      else .error (.unquoted position)
  | .value key quote chars, position, c :: cs =>
      if c = quote then
        match Entity.unescape chars.reverse with
        | .error cause => .error (.badValue key cause)
        | .ok value =>
            match attributesFrom seen .between (position + c.utf8Size) cs with
            | .error e => .error e
            | .ok rest => .ok ((key, String.ofList value) :: rest)
      else attributesFrom seen (.value key quote (c :: chars)) (position + c.utf8Size) cs

def tag (inside : List Char) : String :=
  String.ofList (inside.takeWhile fun c => !isTagSpace c)

def attributes (inside : List Char) : Except AttributeError Attributes :=
  attributesFrom [] .between (tag inside).utf8ByteSize (inside.dropWhile fun c => !isTagSpace c)

end StartTag

end InstructionCatalog.Markup
