/-!
# Character references

Writing replaces the characters that have a meaning in markup by named
references, and reading resolves the five names and numeric references.  In
character data `<`, `>` and `&` are written as references, in attribute values
the two quotes as well.

Error positions are byte offsets into the text being read.
-/

namespace InstructionCatalog.Markup

/-- What is wrong with the number of a numeric reference. -/
inductive NumberError where
  | signed
  | empty
  | badDigit
  | tooLarge
  | zero
  | notScalar (code : Nat)
  deriving DecidableEq, Repr

inductive EntityError where
  | unterminated (start stop : Nat)
  | unknown (start stop : Nat) (name : String)
  | badNumber (cause : NumberError)
  deriving DecidableEq, Repr

def NumberError.message : NumberError → String
  | signed => "unexpected number sign"
  | empty => "cannot parse integer from empty string"
  | badDigit => "invalid digit found in string"
  | tooLarge => "number too large to fit in target type"
  | zero => "0x0 character is not permitted in XML"
  | notScalar code => s!"`{code}` is not a valid codepoint"

def EntityError.message : EntityError → String
  | unterminated start stop =>
      s!"Error while escaping character at range {start}..{stop}: Cannot find ';' after '&'"
  | unknown start stop name => s!"at {start}..{stop}: unrecognized entity `{name}`"
  | badNumber cause => "invalid character reference: " ++ cause.message

namespace Entity

/-! ## Writing -/

def escapeDataChar (c : Char) : List Char :=
  if c = '<' then ['&', 'l', 't', ';']
  else if c = '>' then ['&', 'g', 't', ';']
  else if c = '&' then ['&', 'a', 'm', 'p', ';']
  else [c]

def escapeValueChar (c : Char) : List Char :=
  if c = '\'' then ['&', 'a', 'p', 'o', 's', ';']
  else if c = '"' then ['&', 'q', 'u', 'o', 't', ';']
  else escapeDataChar c

def escapeData (cs : List Char) : List Char :=
  cs.flatMap escapeDataChar

def escapeValue (cs : List Char) : List Char :=
  cs.flatMap escapeValueChar

/-! ## Reading -/

def named? : List Char → Option Char
  | ['l', 't'] => some '<'
  | ['g', 't'] => some '>'
  | ['a', 'm', 'p'] => some '&'
  | ['a', 'p', 'o', 's'] => some '\''
  | ['q', 'u', 'o', 't'] => some '"'
  | _ => none

def digit? (radix : Nat) (c : Char) : Option Nat :=
  let value :=
    if '0' ≤ c ∧ c ≤ '9' then some (c.toNat - '0'.toNat)
    else if 'a' ≤ c ∧ c ≤ 'f' then some (c.toNat - 'a'.toNat + 10)
    else if 'A' ≤ c ∧ c ≤ 'F' then some (c.toNat - 'A'.toNat + 10)
    else none
  value.filter (· < radix)

/-- Digits are read from the left, and the value must stay below `2 ^ 32`. -/
def readDigits (radix value : Nat) : List Char → Except NumberError Nat
  | [] => .ok value
  | c :: cs =>
      match digit? radix c with
      | none => .error .badDigit
      | some d =>
          if value * radix + d < 2 ^ 32 then readDigits radix (value * radix + d) cs
          else .error .tooLarge

def readNumber (radix : Nat) : List Char → Except NumberError Nat
  | [] => .error .empty
  | '+' :: _ => .error .signed
  | '-' :: _ => .error .signed
  | c :: cs => readDigits radix 0 (c :: cs)

/-- The character with the number written after `&#`. -/
def readReference (number : List Char) : Except NumberError Char := do
  let code ←
    match number with
    | 'x' :: hex => readNumber 16 hex
    | decimal => readNumber 10 decimal
  if code = 0 then .error .zero
  else if code.isValidChar then .ok (Char.ofNat code)
  else .error (.notScalar code)

/-- Resolve what stands between `&` at byte `start` and the next `;`. -/
def resolve (start : Nat) (name : List Char) : Except EntityError Char :=
  match name with
  | '#' :: number =>
      match readReference number with
      | .ok c => .ok c
      | .error cause => .error (.badNumber cause)
  | _ =>
      match named? name with
      | some c => .ok c
      | none =>
          let text := String.ofList name
          .error (.unknown (start + 1) (start + 1 + text.utf8ByteSize) text)

/--
Resolve the references of a text of `total` bytes from byte `position` on.  A
reference being read is kept as the position of its `&` and its characters so
far, last one first.
-/
def unescapeFrom (total : Nat) :
    Nat → Option (Nat × List Char) → List Char → Except EntityError (List Char)
  | _, none, [] => .ok []
  | _, some (start, _), [] => .error (.unterminated start total)
  | position, none, c :: cs =>
      if c = '&' then unescapeFrom total (position + c.utf8Size) (some (position, [])) cs
      else
        match unescapeFrom total (position + c.utf8Size) none cs with
        | .ok rest => .ok (c :: rest)
        | .error e => .error e
  | position, some (start, name), c :: cs =>
      if c = '&' then .error (.unterminated start total)
      else if c = ';' then
        match resolve start name.reverse with
        | .error e => .error e
        | .ok r =>
            match unescapeFrom total (position + c.utf8Size) none cs with
            | .ok rest => .ok (r :: rest)
            | .error e => .error e
      else unescapeFrom total (position + c.utf8Size) (some (start, c :: name)) cs

def unescape (cs : List Char) : Except EntityError (List Char) :=
  unescapeFrom (String.ofList cs).utf8ByteSize 0 none cs

end Entity

end InstructionCatalog.Markup
