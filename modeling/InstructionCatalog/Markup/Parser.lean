import InstructionCatalog.Markup.Event

/-!
# Parsing

A token is decoded and handed to the builder before the next one is looked at,
so of two faults in a text the earlier one is reported.  Names of end tags are
compared with the innermost open element.
-/

namespace InstructionCatalog.Markup

def Token.event : Token → Except MarkupError Event
  | .startTag inside =>
      match StartTag.attributes inside with
      | .ok attributes => .ok (.start (StartTag.tag inside) attributes)
      | .error e => .error (.badAttribute (StartTag.tag inside) e)
  | .emptyTag inside =>
      match StartTag.attributes inside with
      | .ok attributes => .ok (.empty (StartTag.tag inside) attributes)
      | .error e => .error (.badAttribute (StartTag.tag inside) e)
  | .endTag .. => .ok .stop
  | .data raw =>
      match Entity.unescape raw with
      | .ok text => .ok (.data (String.ofList text))
      | .error e => .error (.badData e)
  | .cdata text => .ok (.data (String.ofList text))
  | .aside => .ok .aside

namespace Builder

/--
What the open elements say about a token before it is decoded: an end tag has
to match the innermost of them, and after the root no other element may start.
-/
def refusal? (b : Builder) : Token → Option MarkupError
  | .startTag _ => if b.isComplete then some .secondRoot else none
  | .endTag name offset =>
      match b.pending with
      | [] => some (.fault (.unmatchedEnd (String.ofList name)) offset)
      | e :: _ =>
          if e.tag = String.ofList name then none
          else some (.fault (.mismatchedEnd e.tag (String.ofList name)) offset)
  | _ => none

def read (b : Builder) (token : Token) : Except MarkupError Builder :=
  match b.refusal? token with
  | some e => .error e
  | none => do b.step (← token.event)

end Builder

def parse (input : String) : Except MarkupError Element := do
  let scan := Token.scan input
  let builder ← scan.tokens.foldlM Builder.read {}
  match scan.fault with
  | some e => .error e
  | none => builder.finish

end InstructionCatalog.Markup
