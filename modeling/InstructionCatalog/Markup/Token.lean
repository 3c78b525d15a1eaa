import InstructionCatalog.Markup.Error

/-!
# Tokens

A text is cut into runs of character data and pieces of markup, and nothing in
them is interpreted yet.  The scanner reads one character at a time: `ScanMode`
says in what kind of piece it is, `ScanMode.step` reads a character, and
`ScanMode.finish` decides what the end of the text means.

Offsets count bytes of the text.  Bodies in a mode are kept last character
first.
-/

namespace InstructionCatalog.Markup

inductive Token where
  | startTag (inside : List Char)
  | emptyTag (inside : List Char)
  | endTag (name : List Char) (offset : Nat)
  | data (raw : List Char)
  | cdata (text : List Char)
  | aside
  deriving DecidableEq, Repr

inductive ScanMode where
  | data (body : List Char)
  | opened
  | declared (start : Nat)
  | comment (body : List Char)
  | cdata (body : List Char)
  | doctype (depth : Nat) (body : List Char)
  | instruction (body : List Char)
  | startTag (quote : Option Char) (body : List Char)
  | endTag (quote : Option Char) (body : List Char)
  deriving DecidableEq, Repr

namespace ScanMode

/-- Whether a tag goes on inside a quoted value after the character `c`. -/
def quoteAfter (quote : Option Char) (c : Char) : Option Char :=
  match quote with
  | some q => if c = q then none else some q
  | none => if c = '"' ∨ c = '\'' then some c else none

/-- A comment needs two dashes at its start and two others at its end. -/
def endComment (body : List Char) (offset : Nat) : Except MarkupError (Option Token) :=
  match body.reverse with
  | '-' :: '-' :: _ => .ok (some .aside)
  | _ => .error (.fault .openComment offset)

/-- `body` is all after `<!` and before `]]>`. -/
def endCdata (body : List Char) (offset : Nat) : Except MarkupError (Option Token) :=
  match body.reverse with
  | '[' :: 'C' :: 'D' :: 'A' :: 'T' :: 'A' :: '[' :: text => .ok (some (.cdata text))
  | _ => .error (.fault .openCdata offset)

/-- A document type needs the keyword, in any case, and some name after it. -/
def endDoctype (body : List Char) (offset : Nat) : Except MarkupError (Option Token) :=
  let text := body.reverse
  if (text.take 7).map Char.toUpper = ['D', 'O', 'C', 'T', 'Y', 'P', 'E'] then
    if (text.drop 7).all isTagSpace then .error (.fault .unnamedDoctype offset)
    else .ok (some .aside)
  else .error (.fault .openDoctype offset)

/-- A slash at the end of the tag makes the element empty. -/
def endStartTag : List Char → Token
  | '/' :: body => .emptyTag body.reverse
  | body => .startTag body.reverse

/-- Blanks after the name of an end tag do not belong to it. -/
def endTagName (body : List Char) : List Char :=
  if body.all isTagSpace then body.reverse else (body.dropWhile isTagSpace).reverse

/-- Read the character `c`, which ends at byte `offset`. -/
def step (offset : Nat) (c : Char) : ScanMode → Except MarkupError (ScanMode × Option Token)
  | .data body =>
      if c = '<' then .ok (.opened, if body.isEmpty then none else some (.data body.reverse))
      else .ok (.data (c :: body), none)
  | .opened =>
      if c = '!' then .ok (.declared (offset - 1), none)
      else if c = '?' then .ok (.instruction [c], none)
      else if c = '/' then .ok (.endTag none [], none)
      else if c = '>' then .ok (.data [], some (.startTag []))
      else .ok (.startTag (quoteAfter none c) [c], none)
  | .declared start =>
      if c = '[' then .ok (.cdata [c], none)
      else if c = '-' then .ok (.comment [c], none)
      else if c = 'D' ∨ c = 'd' then .ok (.doctype 0 [c], none)
      else .error (.fault .unknownMarkup start)
  | .comment body =>
      if c = '>' ∧ body.take 2 = ['-', '-'] ∧ 4 ≤ body.length then
        (endComment body offset).map fun token => (.data [], token)
      else .ok (.comment (c :: body), none)
  | .cdata body =>
      if c = '>' ∧ body.take 2 = [']', ']'] then
        (endCdata (body.drop 2) offset).map fun token => (.data [], token)
      else .ok (.cdata (c :: body), none)
  | .doctype depth body =>
      if c = '<' then .ok (.doctype (depth + 1) (c :: body), none)
      else if c = '>' then
        match depth with
        | 0 => (endDoctype body offset).map fun token => (.data [], token)
        | depth + 1 => .ok (.doctype depth (c :: body), none)
      else .ok (.doctype depth (c :: body), none)
  | .instruction body =>
      if c = '>' ∧ body.head? = some '?' then
        if body.length = 1 then .error (.fault .openInstruction offset)
        else .ok (.data [], some .aside)
      else .ok (.instruction (c :: body), none)
  | .startTag quote body =>
      if c = '>' ∧ quote = none then .ok (.data [], some (endStartTag body))
      else .ok (.startTag (quoteAfter quote c) (c :: body), none)
  | .endTag quote body =>
      if c = '>' ∧ quote = none then .ok (.data [], some (.endTag (endTagName body) offset))
      else .ok (.endTag (quoteAfter quote c) (c :: body), none)

/-- The text ends after `offset` bytes. -/
def finish (offset : Nat) : ScanMode → Except MarkupError (Option Token)
  | .data body => .ok (if body.isEmpty then none else some (.data body.reverse))
  | .declared start => .error (.fault .unknownMarkup start)
  | .comment _ => .error (.fault .openComment offset)
  | .cdata _ => .error (.fault .openCdata offset)
  | .doctype .. => .error (.fault .openDoctype offset)
  | .instruction _ => .error (.fault .openInstruction offset)
  | .opened => .error (.fault .openTag offset)
  | .startTag .. => .error (.fault .openTag offset)
  | .endTag .. => .error (.fault .openTag offset)

end ScanMode

namespace Token

/-- The tokens of a text up to the first fault, and that fault. -/
structure Scan where
  tokens : List Token
  fault : Option MarkupError
  deriving DecidableEq, Repr

def Scan.cons (token : Option Token) (scan : Scan) : Scan :=
  { scan with tokens := token.toList ++ scan.tokens }

/-- Scan what follows byte `offset` in the given mode. -/
def scanFrom (offset : Nat) (mode : ScanMode) : List Char → Scan
  | [] =>
      match mode.finish offset with
      | .ok token => ⟨token.toList, none⟩
      | .error e => ⟨[], some e⟩
  | c :: cs =>
      match mode.step (offset + c.utf8Size) c with
      | .ok (next, token) => (scanFrom (offset + c.utf8Size) next cs).cons token
      | .error e => ⟨[], some e⟩

/-- A byte order mark at the start is dropped and not counted. -/
def dropByteOrderMark : List Char → List Char
  | '\uFEFF' :: cs => cs
  | cs => cs

def scan (input : String) : Scan :=
  scanFrom 0 (.data []) (dropByteOrderMark input.toList)

end Token

end InstructionCatalog.Markup
