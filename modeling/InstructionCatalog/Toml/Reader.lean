import InstructionCatalog.Decimal.Shortest
import InstructionCatalog.Markup.Entity
import InstructionCatalog.Toml.Node

/-!
# Reading TOML

A reader takes a cursor and gives a value and the cursor after it, or the line
on which it could not go on.  Functions that repeat carry a bound on the number
of rounds; the length of the text is always enough.
-/

namespace InstructionCatalog.Toml

structure Cursor where
  rest : List Char
  line : Nat
  deriving Repr

/-! ## Blanks, comments and line ends -/

def isBlankChar (c : Char) : Bool :=
  c = ' ' || c = '\t'

/-- Characters that may stand in comments and strings. -/
def isPlain (c : Char) : Bool :=
  c = '\t' || (0x20 ≤ c.toNat && c.toNat ≠ 0x7F)

namespace Cursor

def skipBlanks (c : Cursor) : Cursor :=
  { c with rest := c.rest.dropWhile isBlankChar }

def skipComment (c : Cursor) : Cursor :=
  match c.rest with
  | '#' :: rest => { c with rest := rest.dropWhile isPlain }
  | _ => c

def newline? (c : Cursor) : Option Cursor :=
  match c.rest with
  | '\n' :: rest => some ⟨rest, c.line + 1⟩
  | '\r' :: '\n' :: rest => some ⟨rest, c.line + 1⟩
  | _ => none

def lineEnd (c : Cursor) : Except Nat Cursor :=
  match c.newline? with
  | some next => .ok next
  | none => if c.rest.isEmpty then .ok c else .error c.line

/-- What may follow a value or a header on its line. -/
def trailing (c : Cursor) : Except Nat Cursor :=
  c.skipBlanks.skipComment.lineEnd

/-- Blanks, line ends and comments between the items of an array. -/
def skipLayout : Nat → Cursor → Except Nat Cursor
  | 0, c => .ok c
  | rounds + 1, c =>
      let c := c.skipBlanks
      match c.rest with
      | '#' :: _ =>
          match c.skipComment.newline? with
          | some next => skipLayout rounds next
          | none => .error c.line
      | _ =>
          match c.newline? with
          | some next => skipLayout rounds next
          | none => .ok c

/-- Blanks and line ends after a backslash at the end of a line. -/
def skipBreaks : Nat → Cursor → Cursor
  | 0, c => c
  | rounds + 1, c =>
      match c.skipBlanks.newline? with
      | some next => skipBreaks rounds next
      | none => c.skipBlanks

def expect (char : Char) (c : Cursor) : Except Nat Cursor :=
  match c.rest with
  | head :: rest => if head = char then .ok { c with rest } else .error c.line
  | [] => .error c.line

end Cursor

/-! ## Strings -/

/-- A character given by a fixed number of hexadecimal digits. -/
def hexEscape (count line : Nat) (rest : List Char) : Except Nat (Char × List Char) :=
  match (rest.take count).mapM (Markup.Entity.digit? 16) with
  | none => .error line
  | some digits =>
      let code := digits.foldl (fun value d => value * 16 + d) 0
      if digits.length = count ∧ code.isValidChar then .ok (Char.ofNat code, rest.drop count)
      else .error line

def escape (line : Nat) : List Char → Except Nat (Char × List Char)
  | 'b' :: rest => .ok (Char.ofNat 8, rest)
  | 't' :: rest => .ok ('\t', rest)
  | 'n' :: rest => .ok ('\n', rest)
  | 'f' :: rest => .ok (Char.ofNat 12, rest)
  | 'r' :: rest => .ok ('\r', rest)
  | '"' :: rest => .ok ('"', rest)
  | '\\' :: rest => .ok ('\\', rest)
  | 'u' :: rest => hexEscape 4 line rest
  | 'U' :: rest => hexEscape 8 line rest
  | '\n' :: _ => .error (line + 1)
  | _ => .error line

def basicString : Nat → List Char → Cursor → Except Nat (String × Cursor)
  | 0, _, c => .error c.line
  | rounds + 1, read, c =>
      match c.rest with
      | [] => .error c.line
      | '"' :: rest => .ok (String.ofList read.reverse, { c with rest })
      | '\\' :: rest =>
          match escape c.line rest with
          | .ok (char, rest) => basicString rounds (char :: read) { c with rest }
          | .error line => .error line
      | char :: rest =>
          if isPlain char then basicString rounds (char :: read) { c with rest }
          else .error c.line

def literalString (line : Nat) (read : List Char) : List Char → Except Nat (String × Cursor)
  | [] => .error line
  | char :: rest =>
      if char = '\'' then .ok (String.ofList read.reverse, ⟨rest, line⟩)
      else if isPlain char then literalString line (char :: read) rest
      else .error line

/--
A string over several lines, after its three opening quotes.  It ends at three
quotes; one or two more belong to it.  Backslashes have a meaning only between
double quotes.
-/
def longString (quote : Char) : Nat → List Char → Cursor → Except Nat (String × Cursor)
  | 0, _, c => .error c.line
  | rounds + 1, read, c =>
      match c.newline? with
      | some next => longString quote rounds ('\n' :: read) next
      | none =>
          match c.rest with
          | [] => .error c.line
          | char :: rest =>
              if char = quote then
                let run := (c.rest.takeWhile (· = quote)).length
                if run < 3 then
                  longString quote rounds (List.replicate run quote ++ read)
                    { c with rest := c.rest.drop run }
                else
                  let extra := min (run - 3) 2
                  .ok (String.ofList (List.replicate extra quote ++ read).reverse,
                    { c with rest := c.rest.drop (extra + 3) })
              else if char = '\\' ∧ quote = '"' then
                match ({ c with rest } : Cursor).skipBlanks.newline? with
                | some next => longString quote rounds read (next.skipBreaks rounds)
                | none =>
                    match escape c.line rest with
                    | .ok (char, rest) => longString quote rounds (char :: read) { c with rest }
                    | .error line => .error line
              else if isPlain char then longString quote rounds (char :: read) { c with rest }
              else .error c.line

def string (rounds : Nat) (c : Cursor) : Except Nat (String × Cursor) :=
  match c.rest with
  | '"' :: '"' :: '"' :: rest =>
      let start : Cursor := { c with rest }
      longString '"' rounds [] (start.newline?.getD start)
  | '\'' :: '\'' :: '\'' :: rest =>
      let start : Cursor := { c with rest }
      longString '\'' rounds [] (start.newline?.getD start)
  | '"' :: rest => basicString rounds [] { c with rest }
  | '\'' :: rest => literalString c.line [] rest
  | _ => .error c.line

/-! ## Keys -/

def isBareKeyChar (c : Char) : Bool :=
  ('a' ≤ c && c ≤ 'z') || ('A' ≤ c && c ≤ 'Z') || ('0' ≤ c && c ≤ '9') || c = '_' || c = '-'

def simpleKey (rounds : Nat) (c : Cursor) : Except Nat (Key × Cursor) :=
  match c.rest with
  | '"' :: rest =>
      (basicString rounds [] { c with rest }).map fun (name, next) => (⟨name, c.line⟩, next)
  | '\'' :: rest =>
      (literalString c.line [] rest).map fun (name, next) => (⟨name, c.line⟩, next)
  | rest =>
      let name := rest.takeWhile isBareKeyChar
      if name.isEmpty then .error c.line
      else .ok (⟨String.ofList name, c.line⟩, { c with rest := rest.dropWhile isBareKeyChar })

/-- Keys with dots between them; blanks may stand around each. -/
def dottedKey (bound : Nat) : Nat → Cursor → Except Nat (List Key × Cursor)
  | 0, c => .error c.line
  | rounds + 1, c => do
      let (key, c) ← simpleKey bound c.skipBlanks
      let c := c.skipBlanks
      match c.rest with
      | '.' :: rest => do
          let (path, c) ← dottedKey bound rounds { c with rest }
          return (key :: path, c)
      | _ => return ([key], c)

/-! ## Numbers and words -/

/-- Digits, with single underscores between them. -/
def digits? (isDigit : Char → Bool) : List Char → Option (List Char)
  | [] => none
  | [c] => if isDigit c then some [c] else none
  | c :: '_' :: rest => if isDigit c then (digits? isDigit rest).map (c :: ·) else none
  | c :: rest => if isDigit c then (digits? isDigit rest).map (c :: ·) else none

def isDecimalDigit (c : Char) : Bool :=
  '0' ≤ c && c ≤ '9'

def valueOf (radix : Nat) (digits : List Char) : Nat :=
  digits.foldl (fun value c => value * radix + (Markup.Entity.digit? 16 c).getD 0) 0

/-- A decimal number does not start with a zero unless it is zero. -/
def decimal? (text : List Char) : Option Nat :=
  match text with
  | ['0'] => some 0
  | '0' :: _ => none
  | _ => (digits? isDecimalDigit text).map (valueOf 10)

def splitSign : List Char → Bool × List Char
  | '-' :: rest => (true, rest)
  | '+' :: rest => (false, rest)
  | rest => (false, rest)

def radix? (radix : Nat) (text : List Char) : Option Nat :=
  (digits? (fun c => (Markup.Entity.digit? radix c).isSome) text).map (valueOf radix)

/-- Integers have 64 bits. -/
def integer? (text : List Char) : Option Int :=
  let value : Option Int :=
    match text with
    | '0' :: 'x' :: rest => (radix? 16 rest).map Int.ofNat
    | '0' :: 'o' :: rest => (radix? 8 rest).map Int.ofNat
    | '0' :: 'b' :: rest => (radix? 2 rest).map Int.ofNat
    | _ =>
        let (negative, rest) := splitSign text
        (decimal? rest).map fun n => if negative then -(n : Int) else n
  value.filter fun n => -(Int.pow 2 63) ≤ n ∧ n < Int.pow 2 63

def exponent? (text : List Char) : Option Int :=
  match text with
  | [] => some 0
  | _ :: rest =>
      let (negative, digits) := splitSign rest
      (digits? isDecimalDigit digits).map fun ds =>
        if negative then -(valueOf 10 ds : Int) else valueOf 10 ds

def float? (text : List Char) : Option String := do
  let (negative, rest) := splitSign text
  let sign := if negative then "-" else ""
  if rest = ['i', 'n', 'f'] then return sign ++ "inf.0"
  else if rest = ['n', 'a', 'n'] then return "NaN.0"
  else
    let isMark := fun c => c = 'e' || c = 'E'
    let whole := rest.takeWhile fun c => c ≠ '.' && !isMark c
    let after := rest.dropWhile fun c => c ≠ '.' && !isMark c
    let fraction ←
      match after with
      | '.' :: _ => digits? isDecimalDigit ((after.drop 1).takeWhile fun c => !isMark c)
      | _ => some []
    let power := after.dropWhile fun c => !isMark c
    let exponent ← exponent? power
    let value ← decimal? whole
    if after.isEmpty ∨ 10000 < exponent.natAbs then none
    else
      let digits := value * Nat.pow 10 fraction.length + valueOf 10 fraction
      let exact := (⟨digits, 1⟩ : Decimal.Fraction).scale 10 (exponent - fraction.length)
      let binary ← exact.toBinary?
      return sign ++ binary.display

def isWordChar (c : Char) : Bool :=
  isBareKeyChar c || c = '+' || c = '.' || c = ':'

def word (c : Cursor) : Except Nat (Node × Cursor) :=
  let text := c.rest.takeWhile isWordChar
  let next : Cursor := { c with rest := c.rest.dropWhile isWordChar }
  if text = ['t', 'r', 'u', 'e'] then .ok (.boolean c.line true, next)
  else if text = ['f', 'a', 'l', 's', 'e'] then .ok (.boolean c.line false, next)
  else
    match integer? text, float? text with
    | some value, _ => .ok (.integer c.line value, next)
    | none, some shown => .ok (.float c.line shown, next)
    | none, none => .error c.line

/-! ## Values -/

mutual

def value (bound : Nat) : Nat → Cursor → Except Nat (Node × Cursor)
  | 0, c => .error c.line
  | depth + 1, c =>
      match c.rest with
      | '"' :: _ => (string bound c).map fun (text, next) => (.string c.line text, next)
      | '\'' :: _ => (string bound c).map fun (text, next) => (.string c.line text, next)
      | '[' :: rest =>
          (arrayItems bound depth { c with rest }).map fun (items, next) =>
            (.array c.line items, next)
      | '\x7b' :: rest =>
          let start : Cursor := { c with rest }
          match start.skipBlanks.rest with
          | '\x7d' :: rest => .ok (.table (some c.line) .braces [], { c with rest })
          | _ =>
              (braceEntries bound depth c.line [] start).map fun (entries, next) =>
                (.table (some c.line) .braces entries, next)
      | _ => word c

/-- The items of an array up to its end; a comma may follow the last one. -/
def arrayItems (bound : Nat) : Nat → Cursor → Except Nat (List Node × Cursor)
  | 0, c => .error c.line
  | depth + 1, c => do
      let c ← c.skipLayout bound
      match c.rest with
      | ']' :: rest => return ([], { c with rest })
      | _ => do
          let (item, c) ← value bound depth c
          let c ← c.skipLayout bound
          match c.rest with
          | ',' :: rest => do
              let (items, c) ← arrayItems bound depth { c with rest }
              return (item :: items, c)
          | ']' :: rest => return ([item], { c with rest })
          | _ => .error c.line

/-- The entries of a table in braces that starts on the line `start`. -/
def braceEntries (bound : Nat) : Nat → Nat → Entries → Cursor → Except Nat (Entries × Cursor)
  | 0, _, _, c => .error c.line
  | depth + 1, start, entries, c => do
      let (path, c) ← dottedKey bound bound c
      let c ← c.expect '='
      let (node, c) ← value bound depth c.skipBlanks
      let c := c.skipBlanks
      let added :=
        match path.reverse with
        | [] => none
        | key :: parents => entries.add parents.reverse key node
      match added, c.rest with
      | none, _ => .error start
      | some entries, ',' :: rest => braceEntries bound depth start entries { c with rest }
      | some entries, '\x7d' :: rest => return (entries, { c with rest })
      | _, _ => .error c.line

end

/-! ## Documents -/

def keyValue (bound : Nat) (o : Outline) (c : Cursor) : Except Nat (Outline × Cursor) := do
  let line := c.line
  let (path, c) ← dottedKey bound bound c
  let c ← c.expect '='
  let (node, c) ← value bound (2 * bound) c.skipBlanks
  let c ← c.trailing
  match path.reverse with
  | [] => .error line
  | key :: parents =>
      match o.current.add parents.reverse key node with
      | some current => return ({ o with current }, c)
      | none => .error line

def header (bound : Nat) (o : Outline) (c : Cursor) : Except Nat (Outline × Cursor) :=
  let line := c.line
  match c.rest with
  | '[' :: rest => do
      let (path, c) ← dottedKey bound bound { c with rest }
      let c ← (← c.expect ']').expect ']'
      let c ← c.trailing
      match o.openRepeated path line with
      | some o => return (o, c)
      | none => .error line
  | _ => do
      let (path, c) ← dottedKey bound bound c
      let c ← c.expect ']'
      let c ← c.trailing
      match o.openTable path line with
      | some o => return (o, c)
      | none => .error line

def documentFrom (bound : Nat) : Nat → Outline → Cursor → Except Nat Entries
  | 0, _, c => .error c.line
  | rounds + 1, o, c =>
      let c := c.skipBlanks
      match c.rest with
      | [] =>
          match o.close with
          | some entries => .ok entries
          | none => .error c.line
      | '#' :: _ => do documentFrom bound rounds o (← c.skipComment.lineEnd)
      | '\n' :: _ => do documentFrom bound rounds o (← c.lineEnd)
      | '\r' :: _ => do documentFrom bound rounds o (← c.lineEnd)
      | '[' :: rest => do
          let (o, c) ← header bound o { c with rest }
          documentFrom bound rounds o c
      | _ => do
          let (o, c) ← keyValue bound o c
          documentFrom bound rounds o c

/-- The entries of a document, or the line on which reading stopped. -/
def read (text : String) : Except Nat Entries :=
  let chars :=
    match text.toList with
    | '\uFEFF' :: rest => rest
    | rest => rest
  let bound := chars.length + 2
  documentFrom bound bound {} ⟨chars, 1⟩

end InstructionCatalog.Toml
